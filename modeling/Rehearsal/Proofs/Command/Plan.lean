import Rehearsal.Command.Plan
import Rehearsal.Proofs.Engine.Exchange
import Rehearsal.Proofs.Scenario.Calls

/-!
# Plans and runs

A plan and a run go through the same calls, one to show them and one to send them. Over an
engine that is content with everything they come to the same: the plan has one entry for
each request that the engine gets, or fails where the run does. Only a request to a URL
that nothing can be sent to is shown and then not sent.
-/

namespace Rehearsal

open Text

namespace Call

/-- The entry of a call in a plan, with the request that it becomes. -/
def entry (n : Nat) (c : Call) (r : Request) : String :=
  numeral n ++ ". " ++ (c.resource ++ "." ++ c.action ++ "  " ++ r.summary) ++ "\n"

variable {c : Call}

theorem line_of_planned {r : Request} (planned : c.plan = .ok r) (n : Nat) :
    c.line n = .ok (c.entry n r) := by
  rw [plan] at planned
  simp only [line, summary, planned]
  rfl

theorem line_of_refused {e : Error} (refused : c.plan = .error e) (n : Nat) :
    c.line n = .error e := by
  rw [plan] at refused
  simp only [line, summary, refused]
  rfl

end Call

namespace Scenario

/-- Calls that all have a plan, and their requests. -/
def Planned (calls : List Call) (requests : List Request) : Prop :=
  List.Forall₂ (fun c r => c.plan = .ok r) calls requests

variable {calls before : List Call} {planned : List Request} {c : Call} {e : Error}

/-- The entries of calls, the first of which has the number `n`. -/
def entries (n : Nat) (calls : List Call) (planned : List Request) : List String :=
  (calls.zip planned).mapIdx fun i x => x.1.entry (n + i) x.2

theorem entries_cons (n : Nat) (c : Call) (r : Request) :
    entries n (c :: calls) (r :: planned) = c.entry n r :: entries (n + 1) calls planned := by
  simp only [entries, List.zip_cons_cons, List.mapIdx_cons, Nat.add_zero, Nat.add_assoc,
    Nat.add_comm 1]

theorem planLines_of_planned (h : Planned calls planned) (n : Nat) :
    planLines n calls = .ok (entries n calls planned) := by
  induction h generalizing n with
  | nil => rfl
  | cons first _ ih =>
    rw [planLines, Call.line_of_planned first, ih, entries_cons]
    rfl

/-- The first call without a plan decides. -/
theorem planLines_of_refused (h : Planned before planned) (refused : c.plan = .error e)
    (after : List Call) (n : Nat) : planLines n (before ++ c :: after) = .error e := by
  induction h generalizing n with
  | nil =>
    rw [List.nil_append, planLines, Call.line_of_refused refused]
    rfl
  | cons first _ ih =>
    rw [List.cons_append, planLines, Call.line_of_planned first, ih]
    rfl

theorem render_of_planned {scenario : Scenario} (h : Planned scenario.calls planned) :
    scenario.render .text = .ok (String.join (entries 1 scenario.calls planned)) := by
  rw [render, planText, planLines_of_planned h]
  rfl

theorem render_of_refused {scenario : Scenario} {after : List Call}
    (split : scenario.calls = before ++ c :: after) (h : Planned before planned)
    (refused : c.plan = .error e) : scenario.render .text = .error (.library e) := by
  rw [render, planText, split, planLines_of_refused h refused]
  rfl

end Scenario

namespace FormPart

/-- A part between the lines of a form. -/
def framed (boundary : String) (part : FormPart) : Bytes :=
  Utf8.encode ('-' :: '-' :: boundary.toList ++ lineEnd ++ part.header ++ lineEnd ++ lineEnd) ++
    part.content ++ Utf8.encode lineEnd

/-- A part with the size of its content, for people to read. -/
def shown (part : FormPart) : String := s!"{part.name} ({part.content.length} bytes)"

/-- The part of a file. -/
def ofFile (f : DeployedFile) : FormPart := ⟨f.name, some f.name, f.content⟩

/-- The parts of a form stand in it one after another. -/
theorem formBody_append (boundary : String) (first second : List FormPart) :
    formBody boundary (first ++ second) =
      first.flatMap (framed boundary) ++ second.flatMap (framed boundary) ++
        Utf8.encode ('-' :: '-' :: boundary.toList ++ '-' :: '-' :: lineEnd) := by
  rw [← List.flatMap_append]
  rfl

end FormPart

namespace Client

variable {client : Client} {u : Url} {n : Nat} {calls : List Call}
variable {trails : List (List HttpRequest)} {sent : List HttpRequest} {responses : List Json}

/-- What a plan says of a body, and what is sent for it. A JSON text is shown as it is
sent. Of a deployment the name is shown, and the parts that have the contents of its files,
each with the size in which it is sent. -/
inductive Shows (boundary : String) : Body → String → Bytes → Prop
  | json (value : Json) (text : String) (written : text.toList = value.compact) :
      Shows boundary (.json value) text (Utf8.encode text.toList)
  | deployment (d : Deployment) (settings uploads : List FormPart) (front behind : Bytes)
      (parts : d.form = settings ++ uploads)
      (contents : uploads.map FormPart.content = d.files.map DeployedFile.content) :
      Shows boundary (.deployment d)
        (d.name ++ " [" ++ ", ".intercalate (uploads.map FormPart.shown) ++ "]")
        (front ++ uploads.flatMap (FormPart.framed boundary) ++ behind)

theorem shows_content (boundary : String) (body : Body) :
    Shows boundary body body.summary (content boundary body).bytes := by
  cases body with
  | json value =>
    have written : value.compactText.toList = value.compact := String.toList_ofList
    have shown : Shows boundary (.json value) value.compactText
        (Utf8.encode value.compactText.toList) := .json value _ written
    rwa [written] at shown
  | deployment d =>
    obtain ⟨settings, parts⟩ : ∃ settings,
        d.form = settings ++ d.files.map FormPart.ofFile := ⟨_, rfl⟩
    have text : Body.summary (.deployment d) =
        d.name ++ " [" ++ ", ".intercalate ((d.files.map FormPart.ofFile).map FormPart.shown) ++
          "]" := by
      rw [List.map_map]
      rfl
    have sent : (content boundary (.deployment d)).bytes = formBody boundary d.form := rfl
    have contents : (d.files.map FormPart.ofFile).map FormPart.content =
        d.files.map DeployedFile.content := by
      rw [List.map_map]
      rfl
    rw [text, sent, parts, FormPart.formBody_append]
    exact .deployment d settings _ _ _ parts contents

/-- What is sent for a request with `n` calls before it: its method, the URL of its path, and
its body, which goes with the text that a plan has for it. -/
structure Sends (client : Client) (n : Nat) (r : Request) (x : HttpRequest) : Prop where
  method : x.method = .of r.method
  url : ∃ a, client.url r.path = .ok a ∧ x.url = a.sent.text
  content : ∃ c, x.content = some c ∧ c = Client.content (client.boundary n) r.body ∧
    Shows (client.boundary n) r.body r.body.summary c.bytes

theorem sends_httpRequest (root : client.webRoot? = some u) (n : Nat) (r : Request) :
    client.Sends n r (client.httpRequest n r (u.extend r.path)) where
  method := rfl
  url := ⟨_, url_eq root r.path, rfl⟩
  content := ⟨_, rfl, rfl, shows_content _ r.body⟩

/-- What is sent for requests one after another, with `n` calls before the first of them. -/
def SendsFrom (client : Client) (n : Nat) (planned : List Request)
    (received : List HttpRequest) : Prop :=
  List.Forall₂ (fun numbered x => client.Sends numbered.2 numbered.1 x) (planned.zipIdx n) received

theorem SendsFrom.cons {r : Request} {x : HttpRequest} {planned : List Request}
    {received : List HttpRequest} (first : client.Sends n r x)
    (rest : client.SendsFrom (n + 1) planned received) :
    client.SendsFrom n (r :: planned) (x :: received) := by
  rw [SendsFrom, List.zipIdx_cons]
  exact .cons first rest

theorem SendsFrom.length_eq {planned : List Request} {received : List HttpRequest}
    (h : client.SendsFrom n planned received) : received.length = planned.length := by
  rw [← List.Forall₂.length_eq h, List.length_zipIdx]

/-- Over an engine that is content with everything there is one request for each call, as it
is planned. -/
theorem Exchanges.planned {state last : Unit}
    (h : Exchanges client u Engine.assenting n state calls trails responses last)
    (root : client.webRoot? = some u) :
    ∃ planned, Scenario.Planned calls planned ∧ client.SendsFrom n planned trails.flatten := by
  -- on the exchanges, which plan one call after another as a plan does
  induction h with
  | nil => exact ⟨[], .nil, .nil⟩
  | @cons n _ _ _ _ _ r _ _ _ _ first _ trail _ ih =>
    obtain ⟨planned, plans, sends⟩ := ih
    obtain rfl := trail.eq_singleton Engine.leadsNowhere_assenting
    exact ⟨r :: planned, .cons first plans, .cons (sends_httpRequest root n r) sends⟩

/-- An engine that is content with everything refuses nothing. -/
theorem not_trail_of_assenting {turns : Nat} {state last : Unit} {s : Sending} {e : Error} :
    ¬ Trail client Engine.assenting turns state s sent (.error e) last := by
  intro h
  cases h with
  | refused reacts refused =>
    cases reacts
    exact absurd refused (not_refused_of_blank (by decide) rfl nofun)
  | led reacts leads =>
    rw [lead_of_leadsNowhere Engine.leadsNowhere_assenting reacts] at leads
    nomatch leads

/-- Over an engine that is content with everything, a call ends a run only if it is not
sent. -/
theorem Stops.cases_of_assenting {c : Call} {e : Error} {state last : Unit}
    (h : Stops client u Engine.assenting n state c sent e last) :
    sent = [] ∧ (c.plan = .error e ∨
      ∃ r, c.plan = .ok r ∧ isSendable (u.extend r.path) = false ∧
        e = .backend none s!"builder error for url ({(u.extend r.path).named.text})") := by
  cases h with
  | unplanned refused => exact ⟨rfl, .inl refused⟩
  | unsendable planned unsendable => exact ⟨rfl, .inr ⟨_, planned, unsendable, rfl⟩⟩
  | refused _ _ trail => exact absurd trail not_trail_of_assenting

end Client

namespace Scenario

open Client Runner

variable {client : Client} {u : Url}

/-- The plan of a scenario says what a run of it sends to an engine that is content with
everything. If there is a plan, every request of it is sent, in the order of its entries,
and the run is complete; if there is none, the run fails at the same call, for the same
reason, and the requests before it are all that is sent. But a request whose URL cannot be
sent ends the run. -/
theorem plan_foretells_run (root : client.webRoot? = some u) (timing : Timing)
    (scenario : Scenario) :
    (∃ planned received responses,
      Planned scenario.calls planned ∧ client.SendsFrom 0 planned received ∧
      received.length = scenario.callCount ∧
      scenario.render .text = .ok (String.join (entries 1 scenario.calls planned)) ∧
      run (client.backend Engine.assenting.recorded) timing (fresh (((), []), 0)) scenario =
        (⟨(((), received), scenario.callCount), .complete⟩,
          .finished ⟨timing.runId, timing.startedAt, timing.finishedAt,
            records timing 0 scenario.calls responses⟩)) ∨
    (∃ before c after planned received e,
      scenario.calls = before ++ c :: after ∧
      Planned before planned ∧ client.SendsFrom 0 planned received ∧
      c.plan = .error e ∧ scenario.render .text = .error (.library e) ∧
      run (client.backend Engine.assenting.recorded) timing (fresh (((), []), 0)) scenario =
        (⟨(((), received), before.length + 1), .failed⟩,
          .failed (.setupFailed c.resource c.action c.payloadIndex e))) ∨
    ∃ before c after planned received r,
      scenario.calls = before ++ c :: after ∧
      Planned before planned ∧ client.SendsFrom 0 planned received ∧
      c.plan = .ok r ∧ isSendable (u.extend r.path) = false ∧
      run (client.backend Engine.assenting.recorded) timing (fresh (((), []), 0)) scenario =
        (⟨(((), received), before.length + 1), .failed⟩,
          .failed (.setupFailed c.resource c.action c.payloadIndex
            (.backend none s!"builder error for url ({(u.extend r.path).named.text})"))) := by
  obtain ⟨trails, responses, last, h⟩ |
      ⟨before, c, after, trails, responses, middle, sent, e, last, split, h, stop⟩ :=
    exchanges_or_stops client u Engine.assenting 0 () scenario.calls
  · obtain ⟨planned, plans, sends⟩ := h.planned root
    have count : trails.flatten.length = scenario.callCount := by
      rw [sends.length_eq, ← plans.length_eq, length_calls]
    refine .inl ⟨planned, trails.flatten, responses, plans, sends, count,
      render_of_planned plans, ?_⟩
    rw [run_of_exchanges root h, length_calls]
  · obtain ⟨planned, plans, sends⟩ := h.planned root
    rw [Nat.zero_add] at stop
    obtain ⟨rfl, refused | ⟨r, plan, unsendable, rfl⟩⟩ := stop.cases_of_assenting
    · refine .inr (.inl ⟨before, c, after, planned, _, e, split, plans, sends, refused,
        render_of_refused split plans refused, ?_⟩)
      rw [run_of_stops root split h stop, List.append_nil]
    · refine .inr (.inr ⟨before, c, after, planned, _, r, split, plans, sends, plan,
        unsendable, ?_⟩)
      rw [run_of_stops root split h stop, List.append_nil]

/-- The plan of a start, and a run that sends its one request. -/
theorem plan_of_start :
    ∃ received,
      (ofOperation plainStart).render .text =
        .ok "  1. process-definition.start  POST process-definition/key/p/start \x7b\x7d\n" ∧
      received.length = 1 ∧
      (run (backend (ofRoot "http://engine") Engine.assenting.recorded)
        (.still "run") (fresh (((), []), 0)) (ofOperation plainStart)).1 =
        ⟨(((), received), 1), .complete⟩ := by
  obtain ⟨planned, received, responses, plans, -, count, text, ending⟩ |
      ⟨before, c, after, planned, received, e, split, -, -, refused, -⟩ |
      ⟨before, c, after, planned, received, r, split, -, -, again, unsendable, -⟩ :=
    plan_foretells_run webRoot?_bare (.still "run") (ofOperation plainStart)
  · rw [plainStart, calls_of_payload] at plans
    obtain ⟨r, _, first, none, rfl⟩ := List.forall₂_cons_left_iff.mp plans
    cases none
    obtain rfl := Except.ok.inj (plan_plainStart.symm.trans first)
    exact ⟨received, text, count, congrArg Prod.fst ending⟩
  · obtain ⟨-, rfl⟩ := split_of_payload split
    nomatch plan_plainStart.symm.trans refused
  · obtain ⟨-, rfl⟩ := split_of_payload split
    obtain rfl := Except.ok.inj (plan_plainStart.symm.trans again)
    nomatch unsendable

/-- A start that has no URL is shown in a plan, and fails a run. -/
theorem plan_of_overlong_key :
    (webRoot? (ofRoot "http://engine")).isSome ∧
      (∃ text, (ofOperation ⟨"process-definition", "start",
        [.obj [("key", .str overlongKey)]]⟩).render .text = .ok text) ∧
      (run (backend (ofRoot "http://engine") Engine.assenting.recorded)
        (.still "run") (fresh (((), []), 0))
        (ofOperation ⟨"process-definition", "start",
          [.obj [("key", .str overlongKey)]]⟩)).1 = ⟨(((), []), 1), .failed⟩ := by
  obtain ⟨e, stops⟩ := stops_overlongStart webRoot?_bare Engine.assenting 0 ()
  have plans : Planned [overlongStart] [_] := .cons plan_overlongStart .nil
  refine ⟨webRoot?_bare ▸ rfl, ⟨_, render_of_planned plans⟩, ?_⟩
  rw [run_of_stops webRoot?_bare (calls_of_payload _ _ _) .nil stops]
  rfl

end Scenario
end Rehearsal
