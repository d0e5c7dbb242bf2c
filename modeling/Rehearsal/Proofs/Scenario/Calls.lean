import Mathlib.Data.List.Basic
import Rehearsal.Scenario.Basic

/-!
# The calls of a scenario

However a scenario is put together, its operations are those at the leaves, from left to
right. Its calls are the payloads of its operations: `mem_calls_iff` says which ones there
are, and by `pairwise_position_calls` their positions increase, so that none comes twice.
-/

namespace Rehearsal

/-- The position of a call: that of its operation, and that of its payload in it. -/
def Call.position (c : Call) : Nat × Nat := (c.operationIndex, c.payloadIndex)

mutual

/-- The operations of a part, from left to right. -/
def Part.leaves : Part → List Operation
  | .operation op => [op]
  | .combined parts => Part.leavesOf parts
  | .appended first next => first.leaves ++ next.leaves

def Part.leavesOf : List Part → List Operation
  | [] => []
  | part :: parts => part.leaves ++ Part.leavesOf parts

end

namespace Scenario

mutual

/-- The operations of a scenario are those of the parts that it is made of. -/
theorem operations_scenario : ∀ part : Part, part.scenario.operations = part.leaves
  | .operation op => rfl
  | .combined parts => by
    rw [Part.scenario, operations_combine, flatten_operations_scenarios parts, Part.leaves]
  | .appended first next => by
    rw [Part.scenario, operations_andThen, operations_scenario first, operations_scenario next,
      Part.leaves]

theorem flatten_operations_scenarios :
    ∀ parts : List Part, ((Part.scenarios parts).map operations).flatten = Part.leavesOf parts
  | [] => rfl
  | part :: parts => by
    rw [Part.scenarios, List.map_cons, List.flatten_cons, operations_scenario part,
      flatten_operations_scenarios parts, Part.leavesOf]

end

theorem length_calls (s : Scenario) : s.calls.length = s.callCount := by
  have sizes : (s.operations.mapIdx callsOf).map List.length =
      s.operations.map fun op => op.payloads.length := by
    refine List.ext_getElem (by simp) fun i _ _ => ?_
    simp [callsOf]
  rw [calls, List.length_flatten, sizes]
  rfl

/-- A call of an operation has its resource and action, and one of its payloads. -/
theorem mem_callsOf_iff {i : Nat} {op : Operation} {c : Call} :
    c ∈ callsOf i op ↔ c.operationIndex = i ∧ c.resource = op.resource ∧ c.action = op.action ∧
      op.payloads[c.payloadIndex]? = some c.payload := by
  rw [callsOf, List.mem_mapIdx]
  constructor
  · rintro ⟨j, bound, rfl⟩
    exact ⟨rfl, rfl, rfl, List.getElem?_eq_getElem bound⟩
  · obtain ⟨resource, action, payload, operationIndex, payloadIndex⟩ := c
    rintro ⟨rfl, rfl, rfl, found⟩
    obtain ⟨bound, same⟩ := List.getElem?_eq_some_iff.mp found
    exact ⟨payloadIndex, bound, congrArg (Call.mk _ _ · _ _) same⟩

/-- The calls are the payloads of the operations, each with the positions of both. -/
theorem mem_calls_iff {s : Scenario} {c : Call} :
    c ∈ s.calls ↔ ∃ op, s.operations[c.operationIndex]? = some op ∧
      op.payloads[c.payloadIndex]? = some c.payload ∧ c.resource = op.resource ∧
      c.action = op.action := by
  rw [calls, List.mem_flatten]
  constructor
  · rintro ⟨_, among, mem⟩
    obtain ⟨i, bound, rfl⟩ := List.mem_mapIdx.mp among
    obtain ⟨rfl, resource, action, payload⟩ := mem_callsOf_iff.mp mem
    exact ⟨_, List.getElem?_eq_getElem bound, payload, resource, action⟩
  · rintro ⟨op, found, payload, resource, action⟩
    obtain ⟨bound, rfl⟩ := List.getElem?_eq_some_iff.mp found
    exact ⟨_, List.mem_mapIdx.mpr ⟨_, bound, rfl⟩,
      mem_callsOf_iff.mpr ⟨rfl, resource, action, payload⟩⟩

/-- The positions of the calls increase: first by operation, then by payload. -/
theorem pairwise_position_calls (s : Scenario) :
    s.calls.Pairwise fun a b => Prod.Lex (· < ·) (· < ·) a.position b.position := by
  rw [calls, List.pairwise_flatten]
  constructor
  · intro _ among
    obtain ⟨i, bound, rfl⟩ := List.mem_mapIdx.mp among
    rw [List.pairwise_iff_getElem]
    intro j k _ _ less
    simp only [callsOf, List.getElem_mapIdx]
    exact .right i less
  · rw [List.pairwise_iff_getElem]
    intro i k _ _ less a first b second
    rw [List.getElem_mapIdx, mem_callsOf_iff] at first second
    obtain ⟨rfl, -⟩ := first
    obtain ⟨rfl, -⟩ := second
    exact .left _ _ less

/-- However a scenario is put together, its operations are those at the leaves, and its calls
are the payloads of these, in the order of their positions. Each position has one call, as
positions increase. The number of calls is known without them. -/
theorem calls_of_leaves (part : Part) :
    part.scenario.operations = part.leaves ∧
      (∀ c, c ∈ part.scenario.calls ↔ ∃ op, part.leaves[c.operationIndex]? = some op ∧
        op.payloads[c.payloadIndex]? = some c.payload ∧ c.resource = op.resource ∧
        c.action = op.action) ∧
      (part.scenario.calls.map Call.position).Pairwise (Prod.Lex (· < ·) (· < ·)) ∧
      (part.scenario.calls.map Call.position).Nodup ∧
      part.scenario.callCount = part.scenario.calls.length ∧
      (part.scenario.isEmpty = true ↔ part.scenario.calls = []) := by
  have increasing := List.pairwise_map.mpr (pairwise_position_calls part.scenario)
  refine ⟨operations_scenario part, ?_, increasing, ?_, (length_calls _).symm, ?_⟩
  · intro c
    rw [mem_calls_iff, operations_scenario]
  · refine increasing.imp ?_
    rintro ⟨i, j⟩ _ less rfl
    cases less with
    | left _ _ less => exact Nat.lt_irrefl i less
    | right _ less => exact Nat.lt_irrefl j less
  · rw [isEmpty, beq_iff_eq, ← length_calls, List.length_eq_zero_iff]

end Scenario
end Rehearsal
