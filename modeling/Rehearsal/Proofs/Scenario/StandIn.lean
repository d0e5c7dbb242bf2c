import Mathlib.Data.List.Induction
import Rehearsal.Proofs.Scenario.Run

/-!
# Responses of a stand-in

A stand-in looks up its responses by the label of an action, and a report is asked for the
two parts of the action. So what a report says of an action is the last response that was
set under its label, once for each call. That is the last response set for the action itself
as long as no setting for another resource has the same label, which hides the dot between
resource and action among the dots inside them.
-/

namespace Rehearsal

/-- How many calls of a scenario are for an action. -/
def Scenario.countOf (scenario : Scenario) (resource action : String) : Nat :=
  scenario.calls.countP fun c => c.resource == resource && c.action == action

namespace StandIn

/-- A response that is set for an action. -/
structure Setting where
  resource : String
  action : String
  response : Json

namespace Setting

/-- Tells whether a response is set for an action. -/
def isFor (x : Setting) (resource action : String) : Bool :=
  x.resource == resource && x.action == action

/-- Tells whether a response is set under the label of an action. -/
def isUnder (x : Setting) (resource action : String) : Bool :=
  label x.resource x.action == label resource action

/-- The response of the last setting that passes a test, or `null`. -/
def last (test : Setting → Bool) (settings : List Setting) : Json :=
  ((settings.filter test).getLast?.map response).getD .null

end Setting

/-- The stand-in after responses are set, one after another. -/
def withResponses (s : StandIn) (settings : List Setting) : StandIn :=
  settings.foldl (fun s x => s.withResponse x.resource x.action x.response) s

theorem withResponses_concat (s : StandIn) (settings : List Setting) (x : Setting) :
    s.withResponses (settings ++ [x]) =
      (s.withResponses settings).withResponse x.resource x.action x.response :=
  List.foldl_append

/-- Setting responses changes nothing else. -/
theorem withResponses_eq (s : StandIn) (settings : List Setting) :
    s.withResponses settings = { s with responses := (s.withResponses settings).responses } := by
  induction settings using List.reverseRecOn with
  | nil => rfl
  | append_singleton settings x ih =>
    rw [withResponses_concat, ih]
    rfl

theorem responseTo_withResponse (s : StandIn) (x : Setting) (resource action : String) :
    (s.withResponse x.resource x.action x.response).responseTo resource action =
      if x.isUnder resource action then x.response else s.responseTo resource action := by
  simp only [responseTo, withResponse, Table.get?_cons, Setting.isUnder, beq_iff_eq]
  split <;> rfl

/-- The last setting under the label of an action decides. -/
theorem responseTo_withResponses (received : List ReceivedCall) (failAt : Option Nat)
    (settings : List Setting) (resource action : String) :
    ((StandIn.mk received [] failAt).withResponses settings).responseTo resource action =
      Setting.last (·.isUnder resource action) settings := by
  induction settings using List.reverseRecOn with
  | nil => rfl
  | append_singleton settings x ih =>
    rw [withResponses_concat, responseTo_withResponse, ih, Setting.last, Setting.last,
      List.filter_append]
    by_cases under : x.isUnder resource action = true
    · simp [under]
    · simp [under]

theorem toList_label (resource action : String) :
    (label resource action).toList = resource.toList ++ '.' :: action.toList := by
  simp [label, toString]

/-- A label has only one action for a resource. -/
theorem action_eq_of_label_eq {resource action other : String}
    (h : label resource action = label resource other) : action = other := by
  have same := congrArg String.toList h
  rw [toList_label, toList_label, List.append_cancel_left_eq, List.cons.injEq] at same
  exact String.toList_injective same.2

theorem Setting.isFor_iff {x : Setting} {resource action : String} :
    x.isFor resource action = true ↔ x.resource = resource ∧ x.action = action := by
  simp [isFor]

/-- Where a label has one resource, what is set under it is set for the action. -/
theorem Setting.isUnder_eq_isFor {x : Setting} {resource action : String}
    (alone : x.isUnder resource action = true → x.resource = resource) :
    x.isUnder resource action = x.isFor resource action := by
  rw [Bool.eq_iff_iff, isFor_iff]
  constructor
  · intro under
    obtain rfl := alone under
    exact ⟨rfl, action_eq_of_label_eq (eq_of_beq under)⟩
  · rintro ⟨rfl, rfl⟩
    exact beq_self_eq_true _

/-- The number of the call that fails is not among the next ones. -/
def Spares (s : StandIn) (calls : Nat) : Prop :=
  ∀ i < calls, s.failAt ≠ some (s.received.length + i)

/-- Calls that are spared are all answered, each with the response to its action. -/
theorem serves {s : StandIn} {calls : List Call} (spared : s.Spares calls.length) :
    backend.Serves s calls (calls.map fun c => s.responseTo c.resource c.action)
      { s with received := s.received ++ calls.map Call.received } := by
  induction calls generalizing s with
  | nil => simpa using Backend.Serves.nil
  | cons c calls ih =>
    have answered : backend.reply s c =
        ({ s with received := s.received ++ [c.received] },
          .response (s.responseTo c.resource c.action)) :=
      if_neg (spared 0 (by simp))
    have others : ({ s with received := s.received ++ [c.received] } : StandIn).Spares
        calls.length := by
      intro i bound
      have next := spared (i + 1) (by simpa using bound)
      simpa [Nat.add_assoc, Nat.add_comm 1 i] using next
    have behind := ih others
    rw [List.append_assoc] at behind
    exact .cons answered behind

end StandIn

namespace Runner

variable {timing : Timing}

/-- What a report says of an action, if the responses of the calls depend on their action
only. -/
theorem responsesFor_records (respond : String → String → Json) (calls : List Call)
    (resource action : String) (index : Nat) :
    ((records timing index calls (calls.map fun c => respond c.resource c.action)).filter
        fun r => r.resource == resource && r.action == action).map CallRecord.response =
      List.replicate (calls.countP fun c => c.resource == resource && c.action == action)
        (respond resource action) := by
  induction calls generalizing index with
  | nil => rfl
  | cons c calls ih =>
    rw [List.map_cons, records_cons, List.filter_cons, List.countP_cons]
    by_cases same : (c.resource == resource && c.action == action) = true
    · have named : c.resource = resource ∧ c.action = action := by simpa using same
      rw [if_pos (by exact same), if_pos same, List.map_cons, ih, List.replicate_succ,
        ← named.1, ← named.2]
      rfl
    · rw [if_neg (by exact same), if_neg same, ih, Nat.add_zero]

end Runner

namespace StandIn

open Runner

/-- What a report says of an action, after a run over a stand-in that answers all its calls.
It is the last response under the label of the action, once for each call. Where all
settings under that label are for the resource of the action, it is the last response set
for the action. -/
theorem responsesFor_run (received : List ReceivedCall) (failAt : Option Nat)
    (settings : List Setting) (timing : Timing) (scenario : Scenario)
    (spared : (StandIn.mk received [] failAt).Spares scenario.calls.length) :
    let s := (StandIn.mk received [] failAt).withResponses settings
    ∃ report,
      run backend timing (.fresh s) scenario =
        (⟨{ s with received := s.received ++ scenario.calls.map Call.received }, .complete⟩,
          .finished report) ∧
      ∀ resource action,
        report.responsesFor resource action =
            List.replicate (scenario.countOf resource action)
              (Setting.last (·.isUnder resource action) settings) ∧
          ((∀ x ∈ settings, x.isUnder resource action = true → x.resource = resource) →
            report.responsesFor resource action =
              List.replicate (scenario.countOf resource action)
                (Setting.last (·.isFor resource action) settings)) := by
  intro s
  have steady : s.Spares scenario.calls.length := by
    have same : s = ⟨received, s.responses, failAt⟩ := withResponses_eq _ settings
    rw [same]
    exact spared
  refine ⟨_, run_of_serves (serves steady), fun resource action => ?_⟩
  have answers : List.map CallRecord.response (List.filter
      (fun r => r.resource == resource && r.action == action)
      (records timing 0 scenario.calls
        (scenario.calls.map fun c => s.responseTo c.resource c.action))) =
      List.replicate (scenario.countOf resource action)
        (Setting.last (·.isUnder resource action) settings) := by
    rw [responsesFor_records s.responseTo, responseTo_withResponses]
    rfl
  refine ⟨answers, fun alone => ?_⟩
  have same := List.filter_congr fun x member => Setting.isUnder_eq_isFor (alone x member)
  rw [Report.responsesFor, answers, Setting.last, Setting.last, same]

/-- Of two settings for an action the later one counts, and one for another action does not,
though there are dots in all of them. The stand-in has failed one call before. -/
theorem responsesFor_of_dotted_action :
    let settings : List Setting :=
      [⟨"a", "b.c", .int 1⟩, ⟨"a", "b.c", .int 2⟩, ⟨"a.b", "d", .int 3⟩]
    let scenario := Scenario.ofOperation ⟨"a", "b.c", [.null, .bool true]⟩
    let s := (StandIn.mk [⟨"a", "b.c", .null⟩] [] (some 0)).withResponses settings
    ∃ report,
      (run backend (.still "run") (.fresh s) scenario).2 =
        .finished report ∧
      report.responsesFor "a" "b.c" = [.int 2, .int 2] := by
  intro settings scenario s
  have spared : (StandIn.mk [⟨"a", "b.c", .null⟩] [] (some 0)).Spares scenario.calls.length := by
    intro i bound
    simp only [List.length_singleton, ne_eq, Option.some.injEq]
    omega
  obtain ⟨report, run, answers⟩ := responsesFor_run [⟨"a", "b.c", .null⟩] (some 0) settings
    (.still "run") scenario spared
  have alone : ∀ x ∈ settings, x.isUnder "a" "b.c" = true → x.resource = "a" := by decide
  exact ⟨report, congrArg Prod.snd run, (answers "a" "b.c").2 alone⟩

/-- A response that is set for another action, whose label is the same, is the answer where
none is set. -/
theorem responsesFor_of_shared_label :
    let settings : List Setting := [⟨"a.b", "c", .int 1⟩]
    let scenario := Scenario.ofOperation ⟨"a", "b.c", [.null]⟩
    ∃ report,
      (run backend (.still "run")
        (.fresh (StandIn.fresh.withResponses settings)) scenario).2 = .finished report ∧
      report.responsesFor "a" "b.c" = [.int 1] ∧
      report.responsesFor "a" "b.c" ≠
        List.replicate (scenario.countOf "a" "b.c")
          (Setting.last (·.isFor "a" "b.c") settings) := by
  intro settings scenario
  have unset : List.replicate (scenario.countOf "a" "b.c")
      (Setting.last (·.isFor "a" "b.c") settings) = [.null] := rfl
  refine ⟨_, rfl, rfl, ?_⟩
  rw [unset]
  nofun

end StandIn
end Rehearsal
