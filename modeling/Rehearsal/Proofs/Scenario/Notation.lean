import Rehearsal.Command.Plan
import Rehearsal.Proofs.Json.Typed

/-!
# Plans are read back

The plan of a scenario as JSON, and the scenario's compact text, are read as that scenario
again. An operation is read if its payloads are, and a scenario if its operations are. Of the
depth that the reader allows, each of them takes two levels, its own and that of its list.
-/

namespace Rehearsal

open Json

namespace Operation

theorem depth_toJson (op : Operation) : op.toJson.depth = depthOfItems op.payloads + 2 := by
  simp [toJson, depth, depthOfFields]

/-- An operation is read back in every layout. -/
theorem reads_toJson {op : Operation} (whole : ∀ payload ∈ op.payloads, payload.Whole)
    (l : Layout) {most level : Nat} (fits : op.toJson.depth ≤ most) :
    Reads (record shape most) (l.write level op.toJson) op := by
  rw [depth_toJson] at fits
  obtain ⟨most, rfl⟩ := Nat.exists_eq_add_of_le' (Nat.le_of_add_left_le fits)
  have payloads : Reads (list value (most + 1)) (l.write (level + 1) (.arr op.payloads))
      op.payloads := by
    refine reads_list (List.forall₂_map_left_iff.mpr (List.forall₂_same.mpr fun payload mem => ?_))
    have below := depth_le_depthOfItems mem
    exact reads_value (whole payload mem) l (by omega)
  have gathers : Gathers (namedField shape (most + 1)) l (shape.start, [])
      [("resource", l.write (level + 1) (.str op.resource)),
        ("action", l.write (level + 1) (.str op.action)),
        ("payloads", l.write (level + 1) (.arr op.payloads))]
      (op, ["payloads", "action", "resource"]) := by
    refine gathers_field rfl (by decide) (reads_textAs rfl) ?_
    refine gathers_field rfl (by decide) (reads_textAs rfl) ?_
    exact gathers_field rfl (by decide) payloads .nil
  exact reads_record gathers rfl

end Operation

namespace Scenario

theorem depth_toJson (s : Scenario) :
    s.toJson.depth = depthOfItems (s.operations.map Operation.toJson) + 2 := by
  simp [toJson, depth, depthOfFields]

/-- A scenario is read back in every layout. -/
theorem reads_toJson {s : Scenario}
    (whole : ∀ op ∈ s.operations, ∀ payload ∈ op.payloads, payload.Whole)
    (l : Layout) {most level : Nat} (fits : s.toJson.depth ≤ most) :
    Reads (record shape most) (l.write level s.toJson) s := by
  rw [depth_toJson] at fits
  obtain ⟨most, rfl⟩ := Nat.exists_eq_add_of_le' (Nat.le_of_add_left_le fits)
  have operations : Reads (list (record Operation.shape) (most + 1))
      (l.write (level + 1) (.arr (s.operations.map Operation.toJson))) s.operations := by
    refine reads_list (List.forall₂_map_left_iff.mpr (List.forall₂_map_left_iff.mpr
      (List.forall₂_same.mpr fun op mem => ?_)))
    have below : op.toJson.depth ≤ depthOfItems (s.operations.map Operation.toJson) :=
      depth_le_depthOfItems (List.mem_map_of_mem mem)
    exact Operation.reads_toJson (whole op mem) l (by omega)
  have gathers : Gathers (namedField shape (most + 1)) l (shape.start, [])
      [("operations", l.write (level + 1) (.arr (s.operations.map Operation.toJson)))]
      (s, ["operations"]) := gathers_field rfl (by decide) operations .nil
  exact reads_record gathers rfl

/-- Nothing of a scenario is lost in its plan as JSON, nor in its compact text, if the text
is not nested deeper than the reader allows. -/
theorem parse_render (s : Scenario)
    (whole : ∀ op ∈ s.operations, ∀ payload ∈ op.payloads, payload.Whole)
    (fits : s.toJson.depth ≤ maxDepth) :
    (∃ plan, s.render .json = .ok plan ∧ parse plan = .ok s) ∧
      parse s.toJson.compactText = .ok s := by
  have pretty : Reads (record shape maxDepth) (s.toJson.pretty 0) s :=
    Layout.write_pretty 0 s.toJson ▸ reads_toJson whole .pretty fits
  have compact : Reads (record shape maxDepth) s.toJson.compact s :=
    Layout.write_compact 0 s.toJson ▸ reads_toJson whole .compact fits
  refine ⟨⟨_, rfl, ?_⟩, ?_⟩
  · have text : (s.toJson.prettyText ++ "\n").toList = s.toJson.pretty 0 ++ ['\n'] := by
      rw [String.toList_append, prettyText, String.toList_ofList]
      rfl
    rw [parse, text]
    exact document_of_reads pretty (by simp [isSpace])
  · have text : s.toJson.compactText.toList = s.toJson.compact ++ [] := by
      rw [compactText, String.toList_ofList, List.append_nil]
    rw [parse, text]
    exact document_of_reads compact (List.forall_mem_nil _)

/-- A call that is made twice with one payload, of all kinds of values up to their limits, and
an operation without calls. -/
theorem parse_render_of_repeated :
    let s : Scenario :=
      ⟨[⟨"decision-definition", "evaluate", List.replicate 2 (.obj
          [("\x00", .arr [.null, .bool true, .arr [], .obj []]), ("least", .int (-2 ^ 63)),
            ("most", .int (2 ^ 64 - 1)), ("text", .str "\t\x1f\"\\/é")])⟩,
        ⟨"", "\n", []⟩]⟩
    (∃ plan, s.render .json = .ok plan ∧ parse plan = .ok s) ∧
      parse s.toJson.compactText = .ok s := by
  refine parse_render _ (fun op mem payload among => ?_) (by decide)
  rw [List.mem_pair] at mem
  obtain rfl | rfl := mem
  · obtain ⟨-, rfl⟩ := List.mem_replicate.mp among
    refine .obj (by decide) ?_
    simp only [List.forall_mem_cons]
    refine ⟨.arr ?_, .int (by decide) (by decide), .int (by decide) (by decide), .str _, nofun⟩
    simp only [List.forall_mem_cons]
    exact ⟨.null, .bool _, .arr nofun, .obj .nil nofun, nofun⟩
  · nomatch among

end Scenario
end Rehearsal
