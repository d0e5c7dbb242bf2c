import Rehearsal.Proofs.Command.Notice
import Rehearsal.Proofs.Command.Setup
import Rehearsal.Proofs.Scenario.Comparison

/-!
# What presentation has no say in

How a command presents itself decides what is said of a setup while it goes on, and nothing
else. Two setups with the same settings, over an engine that does the same in both, send it
the same requests, up to the boundary that each of them has for its forms, and come to the
same end; `SetupOptions.run_alike` says which ends there are. What each of the two prints of
its end is then a matter of its own reporter.
-/

namespace Rehearsal

open Text

/-- Requests that are the same, but for the boundaries of the forms of one deployment. -/
inductive HttpRequest.Alike (boundary boundary' : Nat → String) : HttpRequest → HttpRequest → Prop
  | same (x : HttpRequest) : Alike boundary boundary' x x
  | forms (method : HttpMethod) (url : String) (n : Nat) (d : Deployment) :
      Alike boundary boundary'
        ⟨method, url, some (Client.content (boundary n) (.deployment d))⟩
        ⟨method, url, some (Client.content (boundary' n) (.deployment d))⟩

namespace HttpRequest.Alike

variable {boundary boundary' : Nat → String} {x x' : HttpRequest}

/-- With the same boundaries, requests that are alike are equal. -/
theorem eq (h : Alike boundary boundary x x') : x = x' := by
  cases h <;> rfl

theorem method_eq (h : Alike boundary boundary' x x') : x.method = x'.method := by
  cases h <;> rfl

theorem url_eq (h : Alike boundary boundary' x x') : x.url = x'.url := by
  cases h <;> rfl

/-- Requests with their bodies, or without, that other requests are followed by. -/
theorem followed (h : Alike boundary boundary' x x') (method : HttpMethod) (url : String)
    (keepsBody : Bool) :
    Alike boundary boundary' ⟨method, url, if keepsBody then x.content else none⟩
      ⟨method, url, if keepsBody then x'.content else none⟩ := by
  cases keepsBody with
  | false => exact .same _
  | true =>
    cases h with
    | same => exact .same _
    | forms _ _ n d => exact .forms method url n d

end HttpRequest.Alike

namespace Engine

variable {ε : Type}

/-- The engine does not look at boundaries: to requests that are alike it reacts in the same
way from states that agree, and gets to states that agree. -/
def Overlooks (engine : Engine ε) (Agree : ε → ε → Prop) (boundary boundary' : Nat → String) :
    Prop :=
  ∀ state state' x x', Agree state state' → HttpRequest.Alike boundary boundary' x x' →
    (engine.react state x).2 = (engine.react state' x').2 ∧
      Agree (engine.react state x).1 (engine.react state' x').1

/-- Every engine does the same with the same requests. -/
theorem overlooks_self (engine : Engine ε) (boundary : Nat → String) :
    engine.Overlooks Eq boundary boundary := by
  rintro state _ x x' rfl same
  rw [same.eq]
  exact ⟨rfl, rfl⟩

/-- Prepared reactions come whatever the requests are. -/
theorem overlooks_prepared (boundary boundary' : Nat → String) :
    prepared.Overlooks (fun state state' => state.reactions = state'.reactions) boundary
      boundary' := by
  rintro ⟨reactions, received⟩ ⟨_, received'⟩ x x' rfl -
  cases reactions <;> exact ⟨rfl, rfl⟩

end Engine

/-- Requests that are alike, on the same way. -/
structure Sending.Alike (boundary boundary' : Nat → String) (s s' : Sending) : Prop where
  request : HttpRequest.Alike boundary boundary' s.request s'.request
  place : s.place = s'.place
  repeatable : s.repeatable = s'.repeatable

namespace Client

variable {ε : Type} {engine : Engine ε} {Agree : ε → ε → Prop} {boundary boundary' : Nat → String}
variable {onward : HttpMethod → String → Bool → Nat → String → Onward} {s s' : Sending}

/-- A request of a call is the same, but for the boundary of its form. -/
theorem alike_sending (boundary boundary' : Nat → String) (root : String) (n : Nat) (r : Request)
    (u : Url) :
    Sending.Alike boundary boundary' (sending ⟨root, boundary, onward⟩ n r u)
      (sending ⟨root, boundary', onward⟩ n r u) where
  request := by
    obtain ⟨method, path, body⟩ := r
    cases body with
    | json value => exact .same _
    | deployment d => exact .forms (.of method) u.sent.text n d
  place := rfl
  repeatable := rfl

/-- Clients with one rule are led to the same places. -/
theorem lead_alike (alike : s.Alike boundary boundary' s') (root : String) (a : Answer) :
    lead ⟨root, boundary, onward⟩ s a = lead ⟨root, boundary', onward⟩ s' a := by
  simp only [lead, alike.request.method_eq, alike.request.url_eq, alike.repeatable]

/-- What is kept of two runs: states of the engine that agree, and requests that are alike. -/
def Kept (Agree : ε → ε → Prop) (boundary boundary' : Nat → String)
    (memory memory' : ε × List HttpRequest) : Prop :=
  Agree memory.1 memory'.1 ∧
    List.Forall₂ (HttpRequest.Alike boundary boundary') memory.2 memory'.2

/-- Memories that are related, behind as many calls. -/
def Counted {α : Type} (R : α → α → Prop) (memory memory' : α × Nat) : Prop :=
  R memory.1 memory'.1 ∧ memory.2 = memory'.2

/-- Requests that are alike have the same outcome, and lead on to requests that are alike. -/
theorem exchange_alike (overlooks : engine.Overlooks Agree boundary boundary') (root : String)
    (turns : Nat) {memory memory' : ε × List HttpRequest}
    (kept : Kept Agree boundary boundary' memory memory')
    (alike : s.Alike boundary boundary' s') :
    (exchange ⟨root, boundary, onward⟩ engine.recorded turns memory s).2 =
        (exchange ⟨root, boundary', onward⟩ engine.recorded turns memory' s').2 ∧
      Kept Agree boundary boundary'
        (exchange ⟨root, boundary, onward⟩ engine.recorded turns memory s).1
        (exchange ⟨root, boundary', onward⟩ engine.recorded turns memory' s').1 := by
  induction turns using Nat.strongRecOn generalizing memory memory' s s' with
  | ind turns ih =>
    obtain ⟨state, log⟩ := memory
    obtain ⟨state', log'⟩ := memory'
    obtain ⟨agree, logs⟩ := kept
    obtain ⟨reaction, next⟩ := overlooks state state' _ _ agree alike.request
    have kept : Kept Agree boundary boundary'
        ((engine.react state s.request).1, log ++ [s.request])
        ((engine.react state' s'.request).1, log' ++ [s'.request]) :=
      ⟨next, List.rel_append logs (.cons alike.request .nil)⟩
    rw [exchange, exchange, Engine.react_recorded, Engine.react_recorded, reaction]
    cases (engine.react state' s'.request).2 with
    | silence =>
      rw [alike.place]
      exact ⟨rfl, kept⟩
    | answer a =>
      simp only [lead_alike alike]
      cases lead ⟨root, boundary', onward⟩ s' a with
      | stays => exact ⟨rfl, kept⟩
      | fails message => exact ⟨rfl, kept⟩
      | goes way =>
        cases turns with
        | zero =>
          rw [alike.request.url_eq]
          exact ⟨rfl, kept⟩
        | succ turns =>
          refine ih turns (Nat.lt_succ_self turns) kept ⟨?_, rfl, ?_⟩
          · exact alike.request.followed way.method way.url way.keepsBody
          · exact congrArg (· || !way.keepsBody) alike.repeatable

variable (onward) in
/-- A call goes to the engine in the same way with either boundaries. -/
theorem call_alike (overlooks : engine.Overlooks Agree boundary boundary') (root : String)
    (n : Nat) {memory memory' : ε × List HttpRequest}
    (kept : Kept Agree boundary boundary' memory memory') (resource action : String)
    (payload : Json) :
    (call ⟨root, boundary, onward⟩ engine.recorded memory n resource action payload).2 =
        (call ⟨root, boundary', onward⟩ engine.recorded memory' n resource action payload).2 ∧
      Kept Agree boundary boundary'
        (call ⟨root, boundary, onward⟩ engine.recorded memory n resource action payload).1
        (call ⟨root, boundary', onward⟩ engine.recorded memory' n resource action payload).1 := by
  rw [call, call]
  cases Request.plan resource action payload with
  | error e => exact ⟨rfl, kept⟩
  | ok r =>
    have same : url ⟨root, boundary', onward⟩ r.path = url ⟨root, boundary, onward⟩ r.path := rfl
    simp only [send, same]
    cases url ⟨root, boundary, onward⟩ r.path with
    | error e => exact ⟨rfl, kept⟩
    | ok u =>
      by_cases sendable : isSendable u = true
      · simp only [sendable, if_true]
        exact exchange_alike overlooks root mostTurns kept
          (alike_sending boundary boundary' root n r u)
      · simp only [sendable]
        exact ⟨rfl, kept⟩

theorem backend_alike (overlooks : engine.Overlooks Agree boundary boundary') (root : String) :
    Backend.Alike (Counted (Kept Agree boundary boundary'))
      (backend ⟨root, boundary, onward⟩ engine.recorded)
      (backend ⟨root, boundary', onward⟩ engine.recorded) := by
  rintro ⟨memory, n⟩ ⟨memory', n'⟩ c ⟨kept, count⟩
  obtain rfl : n = n' := count
  obtain ⟨same, next⟩ :=
    call_alike onward overlooks root n kept c.resource c.action c.payload
  rw [reply_backend, reply_backend]
  generalize call ⟨root, boundary, onward⟩ engine.recorded memory n c.resource c.action c.payload =
    first at same next
  generalize call ⟨root, boundary', onward⟩ engine.recorded memory' n c.resource c.action
    c.payload = second at same next
  obtain ⟨last, result⟩ := first
  obtain ⟨last', result'⟩ := second
  obtain rfl : result = result' := same
  cases result <;> exact ⟨rfl, next, rfl⟩

end Client

/-- How a run of a scenario ends, over the engine of a configuration. -/
def Link.outcome {ε : Type} (link : Link ε) (memory : ε) (c : Config) (scenario : Scenario) :
    Outcome :=
  (Runner.run ((link.client c.restUrl).backend link.engine) link.timing (.fresh (memory, 0))
    scenario).2

/-- Results of setups with the same settings, whose runs end as two outcomes say. Either
there is nothing to run; or both runs have failed with the same error; or both have a
report, and the reports are the same up to the name of the run, times and durations. -/
inductive SetupResult.Alike {ε : Type} (o : SetupOptions) (files : Files) (link link' : Link ε)
    (start start' : ε) : SetupResult ε → SetupResult ε → Prop
  | unprepared {e : CommandError} (unprepared : o.prepare files = .error e) :
      Alike o files link link' start start' ⟨start, [], .error e⟩ ⟨start', [], .error e⟩
  | failed {memory memory' : ε} {c : Config} {scenario : Scenario} {e : Error}
      (prepared : o.prepare files = .ok (c, scenario))
      (ended : link.outcome start c scenario = .failed e)
      (ended' : link'.outcome start' c scenario = .failed e) :
      Alike o files link link' start start'
        ⟨memory, [.started o.scenario c.restUrl], .error (.library e)⟩
        ⟨memory', [.started o.scenario c.restUrl], .error (.library e)⟩
  | finished {memory memory' : ε} {c : Config} {scenario : Scenario} {report report' : Report}
      (prepared : o.prepare files = .ok (c, scenario))
      (ended : link.outcome start c scenario = .finished report)
      (ended' : link'.outcome start' c scenario = .finished report')
      (same : report.untimed = report'.untimed) :
      Alike o files link link' start start' ⟨memory, o.notices c report, .ok report⟩
        ⟨memory', o.notices c report', .ok report'⟩

namespace SetupOptions

variable {ε : Type} {link link' : Link ε} {memory memory' : ε}

/-- Setups with the same settings, over engines that are called to the same effect. -/
theorem run_alike {R : ε → ε → Prop} (o : SetupOptions) (files : Files)
    (alike : ∀ root, Backend.Alike (Client.Counted R)
      ((link.client root).backend link.engine) ((link'.client root).backend link'.engine))
    (start : R memory memory') :
    R (o.run files link memory).memory (o.run files link' memory').memory ∧
      SetupResult.Alike o files link link' memory memory' (o.run files link memory)
        (o.run files link' memory') := by
  cases prepared : o.prepare files with
  | error e =>
    rw [run_of_unprepared link memory prepared, run_of_unprepared link' memory' prepared]
    exact ⟨start, .unprepared prepared⟩
  | ok settings =>
    obtain ⟨c, scenario⟩ := settings
    have counted : Client.Counted R (memory, 0) (memory', 0) := ⟨start, rfl⟩
    obtain ⟨⟨kept, -⟩, ends⟩ :=
      Runner.run_alike (alike c.restUrl) counted link.timing link'.timing scenario
    have answered : link.outcome memory c scenario ≠ .abandoned :=
      Runner.run_answering_ne_abandoned _ link.timing (memory, 0) scenario
    cases first : Runner.run ((link.client c.restUrl).backend link.engine) link.timing
      (.fresh (memory, 0)) scenario with
    | mk runner outcome =>
    cases second : Runner.run ((link'.client c.restUrl).backend link'.engine) link'.timing
      (.fresh (memory', 0)) scenario with
    | mk runner' outcome' =>
      have ended : link.outcome memory c scenario = outcome := congrArg Prod.snd first
      have ended' : link'.outcome memory' c scenario = outcome' := congrArg Prod.snd second
      rw [first, second] at kept ends
      cases ends with
      | finished same =>
        rw [run_of_finished link prepared first, run_of_finished link' prepared second]
        exact ⟨kept, .finished prepared ended ended' same⟩
      | failed e =>
        rw [run_of_failed link prepared first, run_of_failed link' prepared second]
        exact ⟨kept, .failed prepared ended ended'⟩
      | abandoned => exact absurd ended answered

end SetupOptions

namespace Suite

variable {files : Files} {folder : ResourceFolder} {name : String} {s : Scenario}

/-- The names in the catalog, and those in its scenarios, have no line ends. -/
theorem isLine_of_mem_catalog {suite : Suite} (listed : suite ∈ catalog) :
    IsLine suite.name ∧ ∀ files folder s, suite.build files folder = .ok s →
      ∀ op ∈ s.operations, IsLine op.resource ∧ IsLine op.action := by
  obtain rfl := List.mem_singleton.mp listed
  refine ⟨by decide, fun files folder s built => ?_⟩
  obtain ⟨content, rfl⟩ := exists_of_suspensionSetup built
  simp only [suspensionScenario, List.forall_mem_cons]
  exact ⟨by decide, by decide, nofun⟩

/-- A scenario that is asked for by name has no line ends in its name, nor in its calls. -/
theorem isLine_of_resolve (h : resolve name files folder = .ok s) :
    IsLine name ∧ ∀ c ∈ s.calls, IsLine c.resource ∧ IsLine c.action := by
  rw [resolve, build?] at h
  cases found : catalog.find? fun suite => suite.name == name with
  | none =>
    rw [found] at h
    nomatch h
  | some suite =>
    obtain ⟨plain, operations⟩ := isLine_of_mem_catalog (List.mem_of_find?_eq_some found)
    have named : suite.name = name := by simpa using List.find?_some found
    refine ⟨named ▸ plain, fun c inside => ?_⟩
    rw [found] at h
    cases built : suite.build files folder with
    | error e =>
      simp only [Option.map_some, built] at h
      nomatch h
    | ok scenario =>
      simp only [Option.map_some, built] at h
      obtain rfl := Except.ok.inj h
      obtain ⟨op, among, -, resource, action⟩ := Scenario.mem_calls_iff.mp inside
      rw [resource, action]
      exact operations files folder scenario built op (List.mem_of_getElem? among)

end Suite

/-- However often a command is asked to say more, it is quiet exactly if it is to be. -/
theorem Verbosity.isQuiet_ofFlags (quiet : Bool) (verbose : Nat) :
    (ofFlags quiet verbose).isQuiet = quiet := by
  cases quiet with
  | true => rfl
  | false =>
    match verbose with
    | 0 | 1 | _ + 2 => rfl

/-- The record that a report has of a call is that of its answer. -/
theorem Report.Covers.exists_answers {timing : Timing} {calls : List Call}
    {responses : List Json} {report : Report} {r : CallRecord} {i : Nat}
    (covers : report.Covers timing calls responses) (found : report.calls[i]? = some r) :
    ∃ c response, calls[i]? = some c ∧ r.Answers c response (timing.duration i) := by
  obtain ⟨inside, -⟩ := List.getElem?_eq_some_iff.mp found
  have among : i < calls.length := covers.recorded ▸ inside
  have answered : i < responses.length := covers.answered ▸ among
  have call := List.getElem?_eq_getElem among
  exact ⟨_, _, call, covers.answers i r _ _ found call (List.getElem?_eq_getElem answered)⟩

/-- The responses of a run are those in its report. -/
theorem Report.Covers.map_response {timing : Timing} {calls : List Call}
    {responses : List Json} {report : Report} (covers : report.Covers timing calls responses) :
    report.calls.map CallRecord.response = responses := by
  refine List.ext_getElem (by simp [covers.recorded, covers.answered]) fun i inside answered => ?_
  rw [List.length_map] at inside
  have found := List.getElem?_eq_getElem inside
  obtain ⟨c, -, among, -⟩ := covers.exists_answers found
  rw [List.getElem_map]
  exact (covers.answers i _ c _ found among (List.getElem?_eq_getElem answered)).response

/-- Reports that are the same up to times have the same responses. -/
theorem Report.map_response_of_untimed {report report' : Report}
    (same : report.untimed = report'.untimed) :
    report.calls.map CallRecord.response = report'.calls.map CallRecord.response := by
  have responses (r : Report) :
      r.untimed.calls.map CallRecord.response = r.calls.map CallRecord.response := by
    rw [Report.untimed, List.map_map]
    rfl
  rw [← responses report, same, responses report']

/-- The times of the calls of a run have a sum in 64 bits. -/
theorem Report.Covers.engineTime_lt {timing : Timing} {calls : List Call}
    {responses : List Json} {report : Report} (covers : report.Covers timing calls responses) :
    report.engineTime < 2 ^ 64 := by
  have times : report.calls.map CallRecord.duration =
      (List.range calls.length).map timing.duration := by
    refine List.ext_getElem (by simp [covers.recorded]) fun i inside _ => ?_
    rw [List.length_map] at inside
    obtain ⟨c, response, -, answers⟩ := covers.exists_answers (List.getElem?_eq_getElem inside)
    simp [answers.duration]
  have fits := timing.fits calls.length
  rwa [← times] at fits

namespace Ending

variable {ε : Type}

/-- The end of a setup that has failed with an error. Unless it is quiet it has a line for
each notice in front of the error. -/
structure Fails (host : Host) (i : Invocation) (notices : List Notice) (e : CommandError)
    (ending : Ending ε) : Prop where
  exitCode : ending.exitCode = 1
  stdout : ending.stdout = ""
  quiet : i.quiet = true → ending.stderr = s!"Error: {e.message}\n"
  loud : i.quiet = false → ∃ lines,
    List.Forall₂ (Notice.Says (host.reporter i.presentation)) notices lines ∧
    ending.stderr = String.join (lines.map (· ++ "\n")) ++ s!"Error: {e.message}\n"

/-- The end of a setup with a report. It prints the report if it is asked for, and unless it
is quiet a header, a line for each call in order, and a summary. -/
structure Reports (host : Host) (i : Invocation) (json : Bool) (scenario restUrl : String)
    (report : Report) (ending : Ending ε) : Prop where
  exitCode : ending.exitCode = 0
  stdout : ending.stdout = if json then report.toJson.prettyText ++ "\n" else ""
  quiet : i.quiet = true → ending.stderr = ""
  loud : i.quiet = false → ∃ header lines summary,
    (Notice.started scenario restUrl).Says (host.reporter i.presentation) header ∧
    List.Forall₂ (fun record line =>
      (Notice.answered record).Says (host.reporter i.presentation) line) report.calls lines ∧
    (Notice.finished report).Says (host.reporter i.presentation) summary ∧
    (IsLine header ↔ IsLine restUrl) ∧ (∀ line ∈ lines, IsLine line) ∧
    (IsLine summary ↔ IsLine report.runId) ∧
    ending.stderr =
      header ++ "\n" ++ String.join (lines.map (· ++ "\n")) ++ summary ++ "\n"

end Ending

section

variable {ε : Type} {host : Host} {arguments arguments' : List String}
variable {invocation invocation' : Invocation} {scenario : String}
variable {config restUrl resources : Option String} {json : Bool}
variable {link : Link ε} {memory last : ε} {notices : List Notice}

/-- What an invocation says: nothing if it is quiet, and otherwise one line after another. -/
theorem lines_reporter (host : Host) (i : Invocation) (notices : List Notice) :
    (host.reporter i.presentation).lines notices =
      if i.quiet then [] else notices.map (host.reporter i.presentation).line := by
  have quiet : (host.reporter i.presentation).quiet = i.quiet :=
    Verbosity.isQuiet_ofFlags i.quiet i.verbose
  rw [Reporter.lines, quiet]

/-- A setup that has failed, from its result to its end. -/
theorem runCommand_fails {e : CommandError}
    (read : Arguments.parse host.environment arguments = .ok invocation)
    (asked : invocation.action = .setup scenario config restUrl resources json)
    (addUp : ∀ notice ∈ notices, notice.AddsUp)
    (ran : SetupOptions.run ⟨scenario, config, restUrl, resources⟩ host.files link memory =
      ⟨last, notices, .error e⟩) :
    ∃ ending, runCommand host link memory arguments = .ok ending ∧ ending.memory = last ∧
      ending.Fails host invocation notices e := by
  have ending : runCommand host link memory arguments = .ok (invocation.run host link memory) := by
    rw [runCommand, read]
    rfl
  simp only [Invocation.run, asked, ran, Reporter.text, lines_reporter] at ending
  refine ⟨_, ending, rfl, rfl, rfl, ?_, ?_⟩
  · intro quiet
    simp only [quiet, if_true]
    rfl
  · intro loud
    refine ⟨notices.map (host.reporter invocation.presentation).line, ?_, ?_⟩
    · rw [List.forall₂_map_right_iff, List.forall₂_same]
      exact fun notice inside => Reporter.says_line _ (addUp notice inside)
    · simp only [loud, Bool.false_eq_true, if_false]
      rfl

/-- A setup with a report, from its result to its end. -/
theorem runCommand_reports {c : Config} {s : Scenario} {report : Report} {timing : Timing}
    {responses : List Json}
    (read : Arguments.parse host.environment arguments = .ok invocation)
    (asked : invocation.action = .setup scenario config restUrl resources json)
    (prepared : SetupOptions.prepare ⟨scenario, config, restUrl, resources⟩ host.files =
      .ok (c, s))
    (covers : report.Covers timing s.calls responses)
    (ran : SetupOptions.run ⟨scenario, config, restUrl, resources⟩ host.files link memory =
      ⟨last, SetupOptions.notices ⟨scenario, config, restUrl, resources⟩ c report, .ok report⟩) :
    ∃ ending, runCommand host link memory arguments = .ok ending ∧ ending.memory = last ∧
      ending.Reports host invocation json scenario c.restUrl report := by
  have ending : runCommand host link memory arguments = .ok (invocation.run host link memory) := by
    rw [runCommand, read]
    rfl
  simp only [Invocation.run, asked, ran, Reporter.text, lines_reporter] at ending
  obtain ⟨named, plain⟩ := Suite.isLine_of_resolve (SetupOptions.resolve_of_prepare prepared)
  refine ⟨_, ending, rfl, rfl, rfl, ?_, ?_⟩
  · intro quiet
    simp only [quiet, if_true]
    rfl
  · intro loud
    let reporter := host.reporter invocation.presentation
    have header : (Notice.started scenario c.restUrl).Says reporter _ :=
      reporter.says_line trivial
    have line (record : CallRecord) : (Notice.answered record).Says reporter _ :=
      reporter.says_line trivial
    have summary : (Notice.finished report).Says reporter _ :=
      reporter.says_line covers.engineTime_lt
    refine ⟨_, report.calls.map fun record => reporter.line (.answered record), _, header, ?_,
      summary, ?_, ?_, summary.isLine_iff, ?_⟩
    · rw [List.forall₂_map_right_iff, List.forall₂_same]
      exact fun record _ => line record
    · exact header.isLine_iff.trans (and_iff_right named)
    · rw [List.forall_mem_map]
      intro record inside
      obtain ⟨i, found⟩ := List.mem_iff_getElem?.mp inside
      obtain ⟨call, response, among, answers⟩ := covers.exists_answers found
      have names := plain call (List.mem_of_getElem? among)
      rw [← answers.resource, ← answers.action] at names
      exact (line record).isLine_iff.mpr names
    · simp only [loud, Bool.false_eq_true, if_false, Ending.of, Except.map, SetupOptions.notices,
        List.cons_append, List.map_cons, List.map_append, List.map_map, List.map_nil,
        String.join_cons, String.join_append, String.join_nil, String.append_empty,
        String.append_assoc]
      rfl

variable {engine : Engine ε} {Agree : ε → ε → Prop} {boundary boundary' : Nat → String}
variable {state state' : ε}

/-- Two setups that are asked for with the same settings differ in how they present
themselves only: in whether they are quiet, how often they are asked to say more, and in
their colors. Over an engine that does the same in both, they send it the same requests, in
the same order, and have the same exit code. Either there is nothing to run, and both say why
and no more; or both runs fail, and both give the same error, behind a header unless they are
quiet; or both succeed. Then their results are the same up to the name of the run, times and
durations, and unless it is quiet each prints a header, one line for each call in order, and
a summary. -/
theorem runCommand_presentation
    (read : Arguments.parse host.environment arguments = .ok invocation)
    (read' : Arguments.parse host.environment arguments' = .ok invocation')
    (asked : invocation.action = .setup scenario config restUrl resources json)
    (asked' : invocation'.action = .setup scenario config restUrl resources json)
    (overlooks : engine.Overlooks Agree boundary boundary') (agree : Agree state state')
    (onward : HttpMethod → String → Bool → Nat → String → Onward) (timing timing' : Timing) :
    let options : SetupOptions := ⟨scenario, config, restUrl, resources⟩
    let link : Link (ε × List HttpRequest) := ⟨engine.recorded, boundary, onward, timing⟩
    let link' : Link (ε × List HttpRequest) := ⟨engine.recorded, boundary', onward, timing'⟩
    ∃ ending ending',
      runCommand host link (state, []) arguments = .ok ending ∧
      runCommand host link' (state', []) arguments' = .ok ending' ∧
      List.Forall₂ (HttpRequest.Alike boundary boundary') ending.memory.2 ending'.memory.2 ∧
      ending.exitCode = ending'.exitCode ∧
      ((∃ e, options.prepare host.files = .error e ∧ ending.memory = (state, []) ∧
          ending.Fails host invocation [] e ∧ ending'.Fails host invocation' [] e) ∨
        (∃ c s e, options.prepare host.files = .ok (c, s) ∧
          link.outcome (state, []) c s = .failed e ∧
          link'.outcome (state', []) c s = .failed e ∧
          ending.Fails host invocation [.started scenario c.restUrl] (.library e) ∧
          ending'.Fails host invocation' [.started scenario c.restUrl] (.library e)) ∨
        ∃ c s report report' responses, options.prepare host.files = .ok (c, s) ∧
          link.outcome (state, []) c s = .finished report ∧
          link'.outcome (state', []) c s = .finished report' ∧
          report.untimed = report'.untimed ∧
          report.Covers timing s.calls responses ∧ report'.Covers timing' s.calls responses ∧
          ending.Reports host invocation json scenario c.restUrl report ∧
          ending'.Reports host invocation' json scenario c.restUrl report') := by
  intro options link link'
  have alike (root : String) : Backend.Alike
      (Client.Counted (Client.Kept Agree boundary boundary'))
      ((link.client root).backend link.engine) ((link'.client root).backend link'.engine) :=
    Client.backend_alike overlooks root
  have start : Client.Kept Agree boundary boundary' (state, []) (state', []) := ⟨agree, .nil⟩
  have headed (restUrl : String) :
      ∀ notice ∈ [Notice.started scenario restUrl], notice.AddsUp :=
    List.forall_mem_singleton.mpr (show (Notice.started scenario restUrl).AddsUp from trivial)
  obtain ⟨⟨-, kept⟩, results⟩ := SetupOptions.run_alike options host.files alike start
  generalize first : options.run host.files link (state, []) = result at kept results
  generalize second : options.run host.files link' (state', []) = result' at kept results
  cases results with
  | unprepared unprepared =>
    obtain ⟨ending, ends, memory, fails⟩ :=
      runCommand_fails read asked (List.forall_mem_nil _) first
    obtain ⟨ending', ends', memory', fails'⟩ :=
      runCommand_fails read' asked' (List.forall_mem_nil _) second
    rw [← memory, ← memory'] at kept
    exact ⟨ending, ending', ends, ends', kept, fails.exitCode.trans fails'.exitCode.symm,
      .inl ⟨_, unprepared, memory, fails, fails'⟩⟩
  | failed prepared ended ended' =>
    obtain ⟨ending, ends, rfl, fails⟩ :=
      runCommand_fails read asked (headed _) first
    obtain ⟨ending', ends', rfl, fails'⟩ :=
      runCommand_fails read' asked' (headed _) second
    exact ⟨ending, ending', ends, ends', kept, fails.exitCode.trans fails'.exitCode.symm,
      .inr (.inl ⟨_, _, _, prepared, ended, ended', fails, fails'⟩)⟩
  | finished prepared ended ended' same =>
    obtain ⟨responses, covers⟩ := Runner.covers_of_finished ended
    obtain ⟨responses', covers'⟩ := Runner.covers_of_finished ended'
    obtain ⟨ending, ends, rfl, reports⟩ := runCommand_reports read asked prepared covers first
    obtain ⟨ending', ends', rfl, reports'⟩ :=
      runCommand_reports read' asked' prepared covers' second
    obtain rfl : responses = responses' := by
      rw [← covers.map_response, ← covers'.map_response, Report.map_response_of_untimed same]
    exact ⟨ending, ending', ends, ends', kept, reports.exitCode.trans reports'.exitCode.symm,
      .inr (.inr ⟨_, _, _, _, responses, prepared, ended, ended', same, covers, covers', reports,
        reports'⟩)⟩

theorem Ending.exitCode_of_map {result : Except Usage (Ending ε)} {ending : Ending ε} {code : Nat}
    (ran : result = .ok ending) (h : result.map Ending.exitCode = .ok code) :
    ending.exitCode = code := by
  rw [ran] at h
  exact Except.ok.inj h

/-- A quiet setup, and one in colors that is asked twice to say more. Where all requests are
answered, both succeed, and the second says so in a line for each of its four calls, between
a header and a summary. Where the first request is refused, both fail, and the second has a
header in front of the error. -/
theorem runCommand_quiet_and_colored :
    let words := ["setup", "suspension::setup1", "--rest-url", "http://engine", "--resources=r"]
    let quiet := "-q" :: words
    let colored := "-vv" :: "--color=always" :: words
    let early := (Link.plain Engine.prepared).recorded
    let late := { early with
      boundary := Nat.repr, timing := { Timing.still "other" with finishedAt := ⟨1, 0, 1⟩ } }
    let refusal : Answer := ⟨500, none, some [], by decide, by decide⟩
    (∃ ending ending' header lines summary,
      runCommand lonelyHost early (⟨[], []⟩, []) quiet = .ok ending ∧
      runCommand lonelyHost late (⟨[], []⟩, []) colored = .ok ending' ∧
      ending.exitCode = 0 ∧ ending'.exitCode = 0 ∧ ending.stderr = "" ∧
      ending'.stderr =
        header ++ "\n" ++ String.join (lines.map (· ++ "\n")) ++ summary ++ "\n" ∧
      lines.length = 4 ∧ ∀ line ∈ header :: summary :: lines, IsLine line) ∧
    ∃ ending ending' header,
      runCommand lonelyHost early (⟨[.answer refusal], []⟩, []) quiet = .ok ending ∧
      runCommand lonelyHost late (⟨[.answer refusal], []⟩, []) colored = .ok ending' ∧
      ending.exitCode = 1 ∧ ending'.exitCode = 1 ∧
      ending'.stderr = header ++ "\n" ++ ending.stderr ∧ IsLine header := by
  intro words quiet colored early late refusal
  let action : Action := .setup "suspension::setup1" none (some "http://engine") (some "r") false
  have read : Arguments.parse lonelyHost.environment quiet = .ok ⟨0, true, .auto, action⟩ := rfl
  have read' : Arguments.parse lonelyHost.environment colored = .ok ⟨2, false, .always, action⟩ :=
    rfl
  have configured : Config.forRun lonelyHost.files none (some "http://engine") (some "r") =
      .ok { Config.default with restUrl := "http://engine", resourcesFolder := some "r" } := rfl
  have settings := SetupOptions.prepare_of_file configured node_lonelyHost
  have overlooks := Engine.overlooks_prepared early.boundary late.boundary
  constructor
  · have code : (runCommand lonelyHost early (⟨[], []⟩, []) quiet).map Ending.exitCode =
        .ok 0 := by decide +kernel
    obtain ⟨ending, ending', ran, ran', -, -, ends⟩ :=
      runCommand_presentation read read' rfl rfl overlooks rfl early.onward early.timing
        late.timing
    have success := Ending.exitCode_of_map ran code
    obtain ⟨e, -, -, fails, -⟩ | ⟨c, s, e, -, -, -, fails, -⟩ |
        ⟨c, s, report, report', responses, prepared, -, -, -, -, covers, reports, reports'⟩ := ends
    · nomatch success.symm.trans fails.exitCode
    · nomatch success.symm.trans fails.exitCode
    · obtain ⟨rfl, rfl⟩ := Prod.mk.inj (Except.ok.inj (prepared.symm.trans settings))
      obtain ⟨header, lines, summary, -, told, -, headed, apart, ended, text⟩ := reports'.loud rfl
      refine ⟨ending, ending', header, lines, summary, ran, ran', success, reports'.exitCode,
        reports.quiet rfl, text, ?_, ?_⟩
      · rw [← told.length_eq, covers.recorded]
        rfl
      · simp only [List.forall_mem_cons]
        refine ⟨headed.mpr (by decide), ended.mpr ?_, apart⟩
        rw [covers.runId]
        decide
  · have code : (runCommand lonelyHost early (⟨[.answer refusal], []⟩, []) quiet).map
        Ending.exitCode = .ok 1 := by decide +kernel
    obtain ⟨ending, ending', ran, ran', -, -, ends⟩ :=
      runCommand_presentation read read' rfl rfl overlooks rfl early.onward early.timing
        late.timing
    have failure := Ending.exitCode_of_map ran code
    obtain ⟨e, unprepared, -⟩ | ⟨c, s, e, prepared, -, -, fails, fails'⟩ |
        ⟨c, s, report, report', responses, -, -, -, -, -, -, reports, -⟩ := ends
    · nomatch unprepared.symm.trans settings
    · obtain ⟨rfl, rfl⟩ := Prod.mk.inj (Except.ok.inj (prepared.symm.trans settings))
      obtain ⟨lines, told, text⟩ := fails'.loud rfl
      obtain ⟨header, _, opened, none, rfl⟩ := List.forall₂_cons_left_iff.mp told
      cases none
      refine ⟨ending, ending', header, ran, ran', failure, fails'.exitCode, ?_, ?_⟩
      · rw [text, fails.quiet rfl, List.map_singleton, String.join_cons, String.join_nil,
          String.append_empty]
      · exact opened.isLine_iff.mpr ⟨by decide, by decide⟩
    · nomatch failure.symm.trans reports.exitCode

end

end Rehearsal
