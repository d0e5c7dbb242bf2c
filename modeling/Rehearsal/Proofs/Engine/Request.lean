import Rehearsal.Engine.Request

/-!
# The requests that are planned

Every planned request has one of five forms. A form fixes the method and all segments of
the path but one at most, which is a text of the payload.
-/

namespace Rehearsal.Request

open Json

/-- The methods and paths that requests are planned with. -/
inductive Form : Method → List String → Prop
  | deployment : Form .post ["deployment", "create"]
  | startById (id : String) : Form .post ["process-definition", id, "start"]
  | startByKey (key : String) : Form .post ["process-definition", "key", key, "start"]
  | suspension (key : String) : Form .put ["process-definition", "key", key, "suspended"]
  | jobSuspension : Form .put ["job-definition", "suspended"]

theorem form_ofDeployment {d : Deployment} {r : Request} (h : ofDeployment d = .ok r) :
    Form r.method r.path := by
  obtain rfl := Except.ok.inj h
  exact .deployment

theorem form_ofStart {s : Start} {r : Request} (h : ofStart s = .ok r) :
    Form r.method r.path := by
  obtain ⟨key, id, businessKey, values⟩ := s
  cases id with
  | some id =>
    obtain rfl := Except.ok.inj h
    exact .startById id
  | none =>
    cases key with
    | some key =>
      obtain rfl := Except.ok.inj h
      exact .startByKey key
    | none => nomatch h

theorem form_ofSuspension {s : Suspension} {r : Request} (h : ofSuspension s = .ok r) :
    Form r.method r.path := by
  obtain rfl := Except.ok.inj h
  exact .suspension s.key

theorem form_ofJobSuspension {s : JobSuspension} {r : Request} (h : ofJobSuspension s = .ok r) :
    Form r.method r.path := by
  obtain ⟨key, id, includeJobs⟩ := s
  cases key with
  | some key =>
    obtain rfl := Except.ok.inj h
    exact .jobSuspension
  | none =>
    cases id with
    | some id =>
      obtain rfl := Except.ok.inj h
      exact .jobSuspension
    | none => nomatch h

/-- What a record of the payload is taken for decides the form. -/
theorem form_of_bind {σ : Type} {record : Except Mismatch σ} {make : σ → Except Mismatch Request}
    {r : Request} (form : ∀ s, make s = .ok r → Form r.method r.path)
    (h : (record >>= make) = .ok r) : Form r.method r.path := by
  cases record with
  | error m => nomatch h
  | ok s => exact form s h

theorem form_of_ofPayload? {resource action : String} {payload : Json} {r : Request}
    (h : ofPayload? resource action payload = some (.ok r)) : Form r.method r.path := by
  unfold ofPayload? at h
  split at h
  · exact form_of_bind (fun _ => form_ofDeployment) (Option.some.inj h)
  · exact form_of_bind (fun _ => form_ofStart) (Option.some.inj h)
  · exact form_of_bind (fun _ => form_ofSuspension) (Option.some.inj h)
  · exact form_of_bind (fun _ => form_ofJobSuspension) (Option.some.inj h)
  · nomatch h

/-- A planned request has one of the forms. -/
theorem form_of_plan {resource action : String} {payload : Json} {r : Request}
    (h : plan resource action payload = .ok r) : Form r.method r.path := by
  rw [plan] at h
  split at h
  · nomatch h
  next planned =>
    obtain rfl := Except.ok.inj h
    exact form_of_ofPayload? planned
  · nomatch h

end Rehearsal.Request
