import Rehearsal.Proofs.Engine.Target
import Rehearsal.Proofs.Json.Document
import Rehearsal.Proofs.Scenario.Run

/-!
# Runs over an engine

What an engine does with a request is accepted, or the client fails at it, or it is an answer
that leads the client on; `Reaction.Accepted` and `Client.Refused` say which, and what comes
of it. `Trail` is all that is sent for one call: its request, and one more for each answer that
leads on, up to the reaction that decides. A run makes one trail for each call, in order,
while the trails end well: `Exchanges`. The first call that has no plan, that no request can
be made of, or whose trail ends in a failure ends it: `Stops`. Which requests there were is
read off an engine that keeps them.
-/

namespace Rehearsal

open Text

/-- The request of a call. -/
def Call.plan (c : Call) : Except Error Request := Request.plan c.resource c.action c.payload

namespace Scenario

/-- An operation of one payload is one call. -/
theorem calls_of_payload (resource action : String) (payload : Json) :
    (ofOperation ⟨resource, action, [payload]⟩).calls = [⟨resource, action, payload, 0, 0⟩] := rfl

theorem split_of_payload {resource action : String} {payload : Json} {before after : List Call}
    {c : Call}
    (split : (ofOperation ⟨resource, action, [payload]⟩).calls = before ++ c :: after) :
    before = [] ∧ c = ⟨resource, action, payload, 0, 0⟩ := by
  rw [calls_of_payload] at split
  obtain ⟨front, only⟩ | ⟨-, none⟩ := List.singleton_eq_append_iff.mp split
  · exact ⟨front, (List.cons.inj only).1⟩
  · nomatch none

end Scenario

namespace Engine

variable {ε : Type}

/-- The engine that also keeps every request that reaches it. -/
def recorded (engine : Engine ε) : Engine (ε × List HttpRequest) where
  react state request :=
    let (next, reaction) := engine.react state.1 request
    ((next, state.2 ++ [request]), reaction)

/-- The engine that is content with everything, and has nothing to say. -/
def assenting : Engine Unit := ⟨fun _ _ => ((), .answer .done)⟩

/-- No answer of the engine sends a client to another place. -/
def LeadsNowhere (engine : Engine ε) : Prop :=
  ∀ state request a, (engine.react state request).2 = .answer a →
    a.location = none ∨ a.status ∉ Client.leading

theorem leadsNowhere_assenting : assenting.LeadsNowhere := by
  rintro _ _ a answer
  obtain rfl := Reaction.answer.inj answer
  exact .inl rfl

@[simp] theorem react_recorded (engine : Engine ε) (state : ε) (log : List HttpRequest)
    (request : HttpRequest) :
    engine.recorded.react (state, log) request =
      (((engine.react state request).1, log ++ [request]), (engine.react state request).2) := rfl

end Engine

/-- What a call is content with, and the response that it is taken for: a complete answer
that says that all went well, and is blank or a document by the grammar of JSON. -/
inductive Reaction.Accepted : Reaction → Json → Prop
  | blank {a : Answer} {body : Bytes} (success : 200 ≤ a.status ∧ a.status < 300)
      (whole : a.body = some body) (blank : ∀ c ∈ Utf8.decodeLossy body, isBlank c = true) :
      Accepted (.answer a) .null
  | document {a : Answer} {body : Bytes} {value : Json}
      (success : 200 ≤ a.status ∧ a.status < 300) (whole : a.body = some body)
      (written : ¬ ∀ c ∈ Utf8.decodeLossy body, isBlank c = true)
      (document : Json.Document (Utf8.decodeLossy body) value) :
      Accepted (.answer a) value

namespace Client

variable {client : Client} {s : Sending} {a : Answer} {turns : Nat}

/-- What a client fails at that can be led on so many times more, and its failure. A status
that does not say that all went well counts before the body is looked at. -/
inductive Refused (client : Client) (turns : Nat) (s : Sending) : Reaction → Error → Prop
  | silence : Refused client turns s .silence
      (.backend none s!"error sending request for url ({s.place})")
  | cut {a : Answer} (stays : client.lead s a = .stays) (short : a.body = none) :
      Refused client turns s (.answer a)
        (.backend (some a.status) "error decoding response body")
  | status {a : Answer} {body : Bytes} (stays : client.lead s a = .stays)
      (whole : a.body = some body) (failure : ¬ (200 ≤ a.status ∧ a.status < 300)) :
      Refused client turns s (.answer a)
        (.backend (some a.status) (String.ofList (Utf8.decodeLossy body)))
  | unreadable {a : Answer} {body : Bytes} {fault : Json.Fault}
      (success : 200 ≤ a.status ∧ a.status < 300) (whole : a.body = some body)
      (written : ¬ ∀ c ∈ Utf8.decodeLossy body, isBlank c = true)
      (none : ∀ value, ¬ Json.Document (Utf8.decodeLossy body) value)
      (parsed : Json.parse (String.ofList (Utf8.decodeLossy body)) = .error fault) :
      Refused client turns s (.answer a) (.json fault.message)
  | astray {a : Answer} {message : String} (leads : client.lead s a = .fails message) :
      Refused client turns s (.answer a) (.backend none message)
  | weary {a : Answer} {way : Redirect} (leads : client.lead s a = .goes way)
      (spent : turns = 0) :
      Refused client turns s (.answer a)
        (.backend none s!"error following redirect for url ({s.request.url})")

/-- Only an answer of a status for it, with a location, leads a client on. -/
theorem leading_of_lead (leads : client.lead s a ≠ .stays) :
    a.status ∈ leading ∧ a.location.isSome = true := by
  cases located : a.location with
  | none =>
    rw [lead, located] at leads
    exact absurd rfl leads
  | some location =>
    by_cases moved : a.status ∈ leading
    · exact ⟨moved, rfl⟩
    · rw [lead, located] at leads
      exact absurd (if_neg moved) leads

/-- An answer that says that all went well leads nowhere. -/
theorem lead_of_success (success : 200 ≤ a.status ∧ a.status < 300) :
    client.lead s a = .stays := by
  by_contra leads
  have moved : ∀ status ∈ leading, 300 ≤ status := by decide
  have := moved a.status (leading_of_lead leads).1
  omega

/-- A reaction is accepted, or the client fails at it, or it is led on. -/
theorem accepted_or_refused_or_led (client : Client) (turns : Nat) (s : Sending)
    (reaction : Reaction) :
    (∃ value, reaction.Accepted value) ∨ (∃ e, client.Refused turns s reaction e) ∨
      ∃ a way, reaction = .answer a ∧ client.lead s a = .goes way ∧ 0 < turns := by
  cases reaction with
  | silence => exact .inr (.inl ⟨_, .silence⟩)
  | answer a =>
    cases leads : client.lead s a with
    | fails message => exact .inr (.inl ⟨_, .astray leads⟩)
    | goes way =>
      obtain spent | left := Nat.eq_zero_or_pos turns
      · exact .inr (.inl ⟨_, .weary leads spent⟩)
      · exact .inr (.inr ⟨a, way, rfl, leads, left⟩)
    | stays =>
      cases whole : a.body with
      | none => exact .inr (.inl ⟨_, .cut leads whole⟩)
      | some body =>
        by_cases success : 200 ≤ a.status ∧ a.status < 300
        · by_cases blank : ∀ c ∈ Utf8.decodeLossy body, isBlank c = true
          · exact .inl ⟨_, .blank success whole blank⟩
          · cases parsed : Json.parse (String.ofList (Utf8.decodeLossy body)) with
            | ok value =>
              have document := Json.parse_ofList_eq_ok_iff.mp parsed
              exact .inl ⟨value, .document success whole blank document⟩
            | error fault =>
              refine .inr (.inl ⟨_, .unreadable success whole blank (fun value h => ?_) parsed⟩)
              nomatch parsed.symm.trans (Json.parse_ofList_eq_ok_iff.mpr h)
        · exact .inr (.inl ⟨_, .status leads whole success⟩)

/-- A blank body is never refused, if the status says that all went well. -/
theorem not_refused_of_blank {body : Bytes} {e : Error}
    (success : 200 ≤ a.status ∧ a.status < 300) (whole : a.body = some body)
    (blank : ∀ c ∈ Utf8.decodeLossy body, isBlank c = true) :
    ¬ client.Refused turns s (.answer a) e := by
  have stays : client.lead s a = .stays := lead_of_success success
  rintro (_ | ⟨-, short⟩ | ⟨-, -, failure⟩ | ⟨-, again, written, -, -⟩ | leads | ⟨leads, -⟩)
  · nomatch whole.symm.trans short
  · exact failure success
  · obtain rfl := Option.some.inj (whole.symm.trans again)
    exact written blank
  · nomatch stays.symm.trans leads
  · nomatch stays.symm.trans leads

/-- The outcome of an answer that is accepted is the response that it is taken for. -/
theorem outcome_of_accepted {value : Json} (accepted : (Reaction.answer a).Accepted value) :
    outcome a = .ok value := by
  cases accepted with
  | @blank _ body success whole blank =>
    have all : isAllBlank (Utf8.decodeLossy body) = true := by simpa [isAllBlank] using blank
    simp [outcome, whole, read, isSuccess, success, all]
  | @document _ body _ success whole written document =>
    have parsed := Json.parse_ofList_eq_ok_iff.mpr document
    have some : isAllBlank (Utf8.decodeLossy body) = false := by
      simpa [isAllBlank] using written
    simp [outcome, whole, read, isSuccess, success, some, parsed, Except.mapError]

section Trails

variable {ε : Type} {engine : Engine ε} {state next last : ε} {requests : List HttpRequest}
variable {result : Except Error Json} {reaction : Reaction} {value : Json} {e : Error}

/-- All that a client sends for one request, and what comes of it: the request, and one more
for each answer that leads on, as long as the client lets itself be led. -/
inductive Trail (client : Client) (engine : Engine ε) :
    (turns : Nat) → ε → Sending → List HttpRequest → Except Error Json → ε → Prop
  | accepted {turns : Nat} {state next : ε} {s : Sending} {reaction : Reaction} {value : Json}
      (reacts : engine.react state s.request = (next, reaction))
      (accepted : reaction.Accepted value) :
      Trail client engine turns state s [s.request] (.ok value) next
  | refused {turns : Nat} {state next : ε} {s : Sending} {reaction : Reaction} {e : Error}
      (reacts : engine.react state s.request = (next, reaction))
      (refused : client.Refused turns s reaction e) :
      Trail client engine turns state s [s.request] (.error e) next
  | led {turns : Nat} {state next last : ε} {s : Sending} {a : Answer} {way : Redirect}
      {requests : List HttpRequest} {result : Except Error Json}
      (reacts : engine.react state s.request = (next, .answer a))
      (leads : client.lead s a = .goes way)
      (rest : Trail client engine turns next (s.redirected way) requests result last) :
      Trail client engine (turns + 1) state s (s.request :: requests) result last

/-- What the last reaction decides. -/
theorem exchange_of_accepted (reacts : engine.react state s.request = (next, reaction))
    (accepted : reaction.Accepted value) :
    client.exchange engine turns state s = (next, .ok value) := by
  cases reaction with
  | silence => nomatch accepted
  | answer a =>
    have stays : client.lead s a = .stays := by
      cases accepted with
      | blank success => exact lead_of_success success
      | document success => exact lead_of_success success
    rw [exchange, reacts]
    simp only [stays, outcome_of_accepted accepted]

theorem exchange_of_refused (reacts : engine.react state s.request = (next, reaction))
    (refused : client.Refused turns s reaction e) :
    client.exchange engine turns state s = (next, .error e) := by
  rw [exchange, reacts]
  cases refused with
  | silence => rfl
  | cut stays short => simp only [stays, outcome, short]
  | status stays whole failure => simp [stays, outcome, whole, read, isSuccess, failure]
  | @unreadable a body _ success whole written _ parsed =>
    have stays : client.lead s a = .stays := lead_of_success success
    have some : isAllBlank (Utf8.decodeLossy body) = false := by
      simpa [isAllBlank] using written
    simp [stays, outcome, whole, read, isSuccess, success, some, parsed, Except.mapError,
      Error.ofJson]
  | astray leads => simp only [leads]
  | weary leads spent =>
    subst spent
    simp only [leads]

/-- A trail is what an exchange sends. -/
theorem Trail.exchange_eq (h : Trail client engine turns state s requests result last) :
    client.exchange engine turns state s = (last, result) := by
  induction h with
  | accepted reacts accepted => exact exchange_of_accepted reacts accepted
  | refused reacts refused => exact exchange_of_refused reacts refused
  | led reacts leads _ ih =>
    rw [exchange, reacts]
    simp only [leads, ih]

/-- Every exchange has a trail. -/
theorem exists_trail (client : Client) (engine : Engine ε) (turns : Nat) (state : ε)
    (s : Sending) :
    ∃ requests result last, Trail client engine turns state s requests result last := by
  induction turns generalizing state s with
  | zero =>
    obtain ⟨value, accepted⟩ | ⟨e, refused⟩ | ⟨a, way, -, -, left⟩ :=
      accepted_or_refused_or_led client 0 s (engine.react state s.request).2
    · exact ⟨_, _, _, .accepted rfl accepted⟩
    · exact ⟨_, _, _, .refused rfl refused⟩
    · nomatch left
  | succ turns ih =>
    obtain ⟨value, accepted⟩ | ⟨e, refused⟩ | ⟨a, way, answer, leads, -⟩ :=
      accepted_or_refused_or_led client (turns + 1) s (engine.react state s.request).2
    · exact ⟨_, _, _, .accepted rfl accepted⟩
    · exact ⟨_, _, _, .refused rfl refused⟩
    · obtain ⟨requests, result, last, rest⟩ :=
        ih (engine.react state s.request).1 (s.redirected way)
      exact ⟨_, _, _, .led (Prod.ext rfl answer) leads rest⟩

/-- A trail begins with the request, and has no more turns than the client takes. -/
theorem Trail.begins (h : Trail client engine turns state s requests result last) :
    ∃ more, requests = s.request :: more ∧ more.length ≤ turns := by
  induction h with
  | accepted => exact ⟨[], rfl, Nat.zero_le _⟩
  | refused => exact ⟨[], rfl, Nat.zero_le _⟩
  | led _ _ _ ih =>
    obtain ⟨more, rfl, few⟩ := ih
    exact ⟨_, rfl, Nat.succ_le_succ few⟩

/-- An engine whose answers lead nowhere leads no client on. -/
theorem lead_of_leadsNowhere (nowhere : engine.LeadsNowhere)
    (reacts : engine.react state s.request = (next, .answer a)) : client.lead s a = .stays := by
  by_contra leads
  obtain ⟨leading, located⟩ := leading_of_lead leads
  obtain none | other := nowhere state s.request a (congrArg Prod.snd reacts)
  · rw [none] at located
    nomatch located
  · exact other leading

theorem Trail.length_le (h : Trail client engine turns state s requests result last) :
    requests.length ≤ turns + 1 := by
  obtain ⟨more, rfl, few⟩ := h.begins
  exact Nat.succ_le_succ few

/-- Where no answer leads on, nothing but the request is sent. -/
theorem Trail.eq_singleton (h : Trail client engine turns state s requests result last)
    (nowhere : engine.LeadsNowhere) : requests = [s.request] := by
  cases h with
  | accepted => rfl
  | refused => rfl
  | led reacts leads => nomatch (lead_of_leadsNowhere nowhere reacts).symm.trans leads

/-- Keeping the requests changes nothing else, and keeps them in order. -/
theorem Trail.recorded (h : Trail client engine turns state s requests result last)
    (log : List HttpRequest) :
    Trail client engine.recorded turns (state, log) s requests result (last, log ++ requests) := by
  induction h generalizing log with
  | accepted reacts accepted =>
    refine .accepted ?_ accepted
    rw [Engine.react_recorded, reacts]
  | refused reacts refused =>
    refine .refused ?_ refused
    rw [Engine.react_recorded, reacts]
  | led reacts leads _ ih =>
    -- what the answer leads to begins with the request in the log
    refine .led ?_ leads (List.append_cons .. ▸ ih _)
    rw [Engine.react_recorded, reacts]

end Trails

open Backend Runner Url

variable {ε : Type} {u : Url} {engine : Engine ε} {timing : Timing} {n : Nat}
variable {state next middle last : ε} {c : Call} {calls before after : List Call}
variable {trails : List (List HttpRequest)} {sent : List HttpRequest} {responses : List Json}
variable {e : Error}

/-- Calls whose trails end well one after another, with `n` calls before the first of them:
the trails, one for each call, and the responses. -/
inductive Exchanges (client : Client) (u : Url) (engine : Engine ε) :
    (n : Nat) → ε → List Call → List (List HttpRequest) → List Json → ε → Prop
  | nil {n : Nat} {state : ε} : Exchanges client u engine n state [] [] [] state
  | cons {n : Nat} {state next last : ε} {c : Call} {calls : List Call} {r : Request}
      {value : Json} {requests : List HttpRequest} {trails : List (List HttpRequest)}
      {responses : List Json} (planned : c.plan = .ok r)
      (sendable : isSendable (u.extend r.path) = true)
      (trail : Trail client engine mostTurns state (client.sending n r (u.extend r.path))
        requests (.ok value) next)
      (rest : Exchanges client u engine (n + 1) next calls trails responses last) :
      Exchanges client u engine n state (c :: calls) (requests :: trails) (value :: responses) last

/-- A call that ends a run, with `n` calls before it: what is sent of it, and the failure. -/
inductive Stops (client : Client) (u : Url) (engine : Engine ε) (n : Nat) :
    ε → Call → List HttpRequest → Error → ε → Prop
  | unplanned {state : ε} {c : Call} {e : Error} (refused : c.plan = .error e) :
      Stops client u engine n state c [] e state
  | unsendable {state : ε} {c : Call} {r : Request} (planned : c.plan = .ok r)
      (unsendable : isSendable (u.extend r.path) = false) :
      Stops client u engine n state c []
        (.backend none s!"builder error for url ({(u.extend r.path).named.text})") state
  | refused {state next : ε} {c : Call} {r : Request} {requests : List HttpRequest} {e : Error}
      (planned : c.plan = .ok r) (sendable : isSendable (u.extend r.path) = true)
      (trail : Trail client engine mostTurns state (client.sending n r (u.extend r.path))
        requests (.error e) next) :
      Stops client u engine n state c requests e next

/-- What the backend does with a call, with `n` calls before it. -/
theorem reply_backend (client : Client) (engine : Engine ε) (state : ε) (n : Nat) (c : Call) :
    (client.backend engine).reply (state, n) c =
      match client.call engine state n c.resource c.action c.payload with
      | (next, .ok response) => ((next, n + 1), .response response)
      | (next, .error e) => ((next, n + 1), .failure e) := by
  rw [backend, reply_answering]
  dsimp only
  cases client.call engine state n c.resource c.action c.payload with
  | mk next result => cases result <;> rfl

/-- A call that has no plan is not sent. -/
theorem reply_of_unplanned (client : Client) (engine : Engine ε) (state : ε) (n : Nat)
    (refused : c.plan = .error e) :
    (client.backend engine).reply (state, n) c = ((state, n + 1), .failure e) := by
  rw [reply_backend, call]
  rw [Call.plan] at refused
  simp only [refused]

/-- Nothing is sent to a URL that no request can be made of. -/
theorem reply_of_unsendable (root : client.webRoot? = some u) (engine : Engine ε) (state : ε)
    (n : Nat) {r : Request} (planned : c.plan = .ok r)
    (unsendable : isSendable (u.extend r.path) = false) :
    (client.backend engine).reply (state, n) c =
      ((state, n + 1), .failure
        (.backend none s!"builder error for url ({(u.extend r.path).named.text})")) := by
  rw [reply_backend, call]
  rw [Call.plan] at planned
  simp only [planned, send, url_eq root, unsendable]
  rfl

/-- A planned request is sent, and its trail decides. -/
theorem reply_of_trail (root : client.webRoot? = some u) {r : Request}
    {requests : List HttpRequest} {result : Except Error Json} (planned : c.plan = .ok r)
    (sendable : isSendable (u.extend r.path) = true)
    (trail : Trail client engine mostTurns state (client.sending n r (u.extend r.path)) requests
      result next) :
    (client.backend engine).reply (state, n) c =
      match result with
      | .ok response => ((next, n + 1), .response response)
      | .error e => ((next, n + 1), .failure e) := by
  rw [reply_backend, call]
  rw [Call.plan] at planned
  simp only [planned, send, url_eq root, sendable, if_true, trail.exchange_eq]
  cases result <;> rfl

/-- Calls whose trails end well are served. -/
theorem Exchanges.serves (h : Exchanges client u engine n state calls trails responses last)
    (root : client.webRoot? = some u) :
    (client.backend engine).Serves (state, n) calls responses (last, n + calls.length) := by
  induction h with
  | nil => exact .nil
  | cons planned sendable trail _ ih =>
    refine .cons (reply_of_trail root planned sendable trail) ?_
    rwa [List.length_cons, ← Nat.add_assoc, Nat.add_right_comm]

/-- A call that ends a run fails. -/
theorem Stops.reply (h : Stops client u engine n state c sent e last)
    (root : client.webRoot? = some u) :
    (client.backend engine).reply (state, n) c = ((last, n + 1), .failure e) := by
  cases h with
  | unplanned refused => exact reply_of_unplanned client engine state n refused
  | unsendable planned unsendable =>
    exact reply_of_unsendable root engine state n planned unsendable
  | refused planned sendable trail => exact reply_of_trail root planned sendable trail

/-- Keeping the requests changes nothing else, and keeps them in order. -/
theorem Exchanges.recorded
    (h : Exchanges client u engine n state calls trails responses last)
    (log : List HttpRequest) :
    Exchanges client u engine.recorded n (state, log) calls trails responses
      (last, log ++ trails.flatten) := by
  induction h generalizing log with
  | nil => simpa using Exchanges.nil
  | cons planned sendable trail _ ih =>
    rw [List.flatten_cons, ← List.append_assoc]
    exact .cons planned sendable (trail.recorded log) (ih _)

theorem Stops.recorded (h : Stops client u engine n state c sent e last)
    (log : List HttpRequest) :
    Stops client u engine.recorded n (state, log) c sent e (last, log ++ sent) := by
  cases h with
  | unplanned refused => simpa using Stops.unplanned refused
  | unsendable planned unsendable => simpa using Stops.unsendable planned unsendable
  | refused planned sendable trail => exact .refused planned sendable (trail.recorded log)

/-- A trail has at most one request more than the client can be led on. -/
theorem Exchanges.length_le (h : Exchanges client u engine n state calls trails responses last) :
    ∀ trail ∈ trails, trail.length ≤ mostTurns + 1 := by
  induction h with
  | nil => exact List.forall_mem_nil _
  | cons _ _ trail _ ih => exact List.forall_mem_cons.mpr ⟨trail.length_le, ih⟩

theorem Stops.length_le (h : Stops client u engine n state c sent e last) :
    sent.length ≤ mostTurns + 1 := by
  cases h with
  | unplanned => exact Nat.zero_le _
  | unsendable => exact Nat.zero_le _
  | refused _ _ trail => exact trail.length_le

/-- The trail of every call ends well, or the call ends the run. -/
theorem exchanges_or_stops_one (client : Client) (u : Url) (engine : Engine ε) (n : Nat)
    (state : ε) (c : Call) :
    (∃ requests value next, Exchanges client u engine n state [c] [requests] [value] next) ∨
      ∃ sent e next, Stops client u engine n state c sent e next := by
  cases planned : c.plan with
  | error e => exact .inr ⟨[], e, state, .unplanned planned⟩
  | ok r =>
    cases sendable : isSendable (u.extend r.path) with
    | false => exact .inr ⟨[], _, state, .unsendable planned sendable⟩
    | true =>
      obtain ⟨requests, result, next, trail⟩ :=
        exists_trail client engine mostTurns state (client.sending n r (u.extend r.path))
      cases result with
      | ok value => exact .inl ⟨_, value, next, .cons planned sendable trail .nil⟩
      | error e => exact .inr ⟨_, e, next, .refused planned sendable trail⟩

/-- Either the trails of all calls end well, or a first call ends the run. -/
theorem exchanges_or_stops (client : Client) (u : Url) (engine : Engine ε) (n : Nat)
    (state : ε) (calls : List Call) :
    (∃ trails responses last,
      Exchanges client u engine n state calls trails responses last) ∨
    ∃ before c after trails responses middle sent e last, calls = before ++ c :: after ∧
      Exchanges client u engine n state before trails responses middle ∧
      Stops client u engine (n + before.length) middle c sent e last := by
  -- what the first call does to the engine is where the others begin
  induction calls generalizing n state with
  | nil => exact .inl ⟨[], [], state, .nil⟩
  | cons c calls ih =>
    obtain ⟨requests, value, next, exchange⟩ | ⟨sent, e, next, stops⟩ :=
      exchanges_or_stops_one client u engine n state c
    · cases exchange with
      | cons planned sendable trail nothing =>
        cases nothing
        obtain ⟨trails, responses, last, rest⟩ |
            ⟨before, d, after, trails, responses, middle, sent, e, last, rfl, rest, stops⟩ :=
          ih (n + 1) next
        · exact .inl ⟨_, _, last, .cons planned sendable trail rest⟩
        · refine .inr ⟨c :: before, d, after, _, _, middle, sent, e, last, rfl,
            .cons planned sendable trail rest, ?_⟩
          rwa [List.length_cons, Nat.add_comm _ 1, ← Nat.add_assoc]
    · exact .inr ⟨[], c, calls, [], [], state, sent, e, next, rfl, .nil, stops⟩

/-- A run of calls whose trails all end well. -/
theorem run_of_exchanges (root : client.webRoot? = some u) {scenario : Scenario}
    (h : Exchanges client u engine 0 state scenario.calls trails responses last) :
    run (client.backend engine.recorded) timing (fresh ((state, []), 0)) scenario =
      (⟨((last, trails.flatten), scenario.calls.length), .complete⟩,
        .finished ⟨timing.runId, timing.startedAt, timing.finishedAt,
          records timing 0 scenario.calls responses⟩) := by
  simpa using run_of_serves ((h.recorded []).serves root)

/-- A run with a call that ends it. -/
theorem run_of_stops (root : client.webRoot? = some u) {scenario : Scenario}
    (split : scenario.calls = before ++ c :: after)
    (h : Exchanges client u engine 0 state before trails responses middle)
    (stop : Stops client u engine before.length middle c sent e last) :
    run (client.backend engine.recorded) timing (fresh ((state, []), 0)) scenario =
      (⟨((last, trails.flatten ++ sent), before.length + 1), .failed⟩,
        .failed (.setupFailed c.resource c.action c.payloadIndex e)) := by
  have served := (h.recorded []).serves root
  rw [Nat.zero_add] at served
  exact run_of_failure split served ((stop.recorded ([] ++ trails.flatten)).reply root)

/-- An answer that sends whoever gets it to another place. -/
def moved : Answer :=
  ⟨302, some "http://engine/there", some [0x7b], by decide, by decide⟩

/-- A start of an instance. -/
def plainStart : Operation := ⟨"process-definition", "start", [.obj [("key", .str "p")]]⟩

theorem plan_plainStart :
    Call.plan ⟨"process-definition", "start", .obj [("key", .str "p")], 0, 0⟩ =
      .ok ⟨.post, ["process-definition", "key", "p", "start"], .json (.obj [])⟩ := rfl

/-- A text that is longer than the longest URL cannot be sent as a segment. -/
theorem isSendable_of_long (root : client.webRoot? = some u) {method : Method}
    {path : List String} {segment : String} (form : Request.Form method path)
    (plain : ∀ segment ∈ path, IsPlain segment) (member : segment ∈ path)
    (long : longestUrl < segment.toList.length) : isSendable (u.extend path) = false := by
  obtain ⟨list, h⟩ := exists_hasPath root
  have below := form.hasPath_extend_of_plain plain h
  have inside : written u.scheme segment ∈
      rootSegments list ++ path.map (written u.scheme) :=
    List.mem_append_right _ (List.mem_map_of_mem member)
  have size : longestUrl < (u.extend path).named.text.utf8ByteSize :=
    calc longestUrl < segment.toList.length := long
      _ ≤ (written u.scheme segment).toList.length := length_le_length_written _ _
      _ ≤ (u.extend path).named.text.toList.length := length_le_length_named below inside
      _ ≤ (u.extend path).named.text.utf8ByteSize := Utf8.length_le_utf8ByteSize _
  simp [isSendable, Nat.not_le.mpr size]

/-- A key that no URL has room for. -/
def overlongKey : String := String.ofList (List.replicate (longestUrl + 1) 'a')

theorem length_overlongKey : overlongKey.toList.length = longestUrl + 1 := by
  rw [overlongKey, String.toList_ofList, List.length_replicate]

theorem isPlain_overlongKey : IsPlain overlongKey := by
  have longer : ∀ s : String, s.toList.length ≤ longestUrl → overlongKey ≠ s := by
    rintro s short rfl
    rw [length_overlongKey] at short
    omega
  refine ⟨longer "." (by decide), longer ".." (by decide), ?_⟩
  intro c inside
  rw [overlongKey, String.toList_ofList] at inside
  obtain ⟨-, rfl⟩ := List.mem_replicate.mp inside
  decide

/-- A start by the key that no URL has room for. -/
def overlongStart : Call :=
  ⟨"process-definition", "start", .obj [("key", .str overlongKey)], 0, 0⟩

theorem plan_overlongStart :
    overlongStart.plan =
      .ok ⟨.post, ["process-definition", "key", overlongKey, "start"], .json (.obj [])⟩ := rfl

/-- No request is made of the start that has no URL, though it has a plan. -/
theorem stops_overlongStart (root : client.webRoot? = some u) (engine : Engine ε) (n : Nat)
    (state : ε) : ∃ e, Stops client u engine n state overlongStart [] e state := by
  have plain : ∀ segment ∈ ["process-definition", "key", overlongKey, "start"],
      IsPlain segment := by
    have names : ∀ segment ∈ ["process-definition", "key", "start"], IsPlain segment := by decide
    simpa [isPlain_overlongKey] using names
  have inside : overlongKey ∈ ["process-definition", "key", overlongKey, "start"] := by simp
  have long : longestUrl < overlongKey.toList.length := by
    rw [length_overlongKey]
    exact Nat.lt_succ_self _
  exact ⟨_, .unsendable plan_overlongStart
    (isSendable_of_long root (.startByKey overlongKey) plain inside long)⟩

end Client
end Rehearsal
