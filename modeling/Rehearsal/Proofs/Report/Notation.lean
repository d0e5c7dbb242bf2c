import Rehearsal.Proofs.Json.Typed
import Rehearsal.Proofs.Time.Instant
import Rehearsal.Report

/-!
# Reports are read back

The report of a run as JSON is read as that report again, record by record: the numbers of a
record fit into the bits that there are for them, its response is a value that is read back, and
the two instants are read from their texts.
-/

namespace Rehearsal

open Json

namespace CallRecord

/-- A record whose numbers fit into the bits that there are for them. -/
structure Storable (record : CallRecord) : Prop where
  operationIndex : record.operationIndex < 2 ^ 64
  payloadIndex : record.payloadIndex < 2 ^ 64
  duration : record.duration < 2 ^ 64
  response : record.response.Whole

theorem depth_toJson (record : CallRecord) : record.toJson.depth = record.response.depth + 1 := by
  simp [toJson, depth, depthOfFields]

/-- A record is read back in every layout. -/
theorem reads_toJson {record : CallRecord} (storable : record.Storable) (l : Layout)
    {most level : Nat} (fits : record.response.depth < most) :
    Reads (Json.record shape most) (l.write level record.toJson) record := by
  obtain ⟨most, rfl⟩ := Nat.exists_eq_add_of_lt fits
  have response : Reads (value (record.response.depth + most))
      (l.write (level + 1) record.response) record.response :=
    reads_value storable.response l (Nat.le_add_right _ _)
  have gathers : Gathers (namedField shape (record.response.depth + most)) l (shape.start, [])
      [("resource", l.write (level + 1) (.str record.resource)),
        ("action", l.write (level + 1) (.str record.action)),
        ("operation_index", l.write (level + 1) (.int record.operationIndex)),
        ("payload_index", l.write (level + 1) (.int record.payloadIndex)),
        ("response", l.write (level + 1) record.response),
        ("duration_ms", l.write (level + 1) (.int record.duration))]
      (record, ["duration_ms", "response", "payload_index", "operation_index", "action",
        "resource"]) := by
    refine gathers_field rfl (by decide) (reads_textAs rfl) ?_
    refine gathers_field rfl (by decide) (reads_textAs rfl) ?_
    refine gathers_field rfl (by decide) (reads_unsigned (by decide) storable.operationIndex _) ?_
    refine gathers_field rfl (by decide) (reads_unsigned (by decide) storable.payloadIndex _) ?_
    refine gathers_field rfl (by decide) response ?_
    exact gathers_field rfl (by decide) (reads_unsigned (by decide) storable.duration _) .nil
  exact reads_record gathers rfl

end CallRecord

namespace Report

theorem reads_instant {t : Instant} (shown : t.Representable) (l : Layout) (level : Nat) :
    Reads instant (l.write level (.str (String.ofList t.text))) t := by
  apply reads_textAs
  rw [String.toList_ofList, Instant.parse_text shown]
  rfl

/-- A report is read back in every layout. Three levels of the depth are those of the report, of
its list and of a record. -/
theorem reads_toJson {report : Report} (started : report.startedAt.Representable)
    (finished : report.finishedAt.Representable)
    (storable : ∀ record ∈ report.calls, record.Storable)
    (l : Layout) {most level : Nat}
    (fits : ∀ record ∈ report.calls, record.response.depth < most) :
    Reads (record shape (most + 2)) (l.write level report.toJson) report := by
  have calls : Reads (list (record CallRecord.shape) (most + 1))
      (l.write (level + 1) (.arr (report.calls.map CallRecord.toJson))) report.calls := by
    refine reads_list (List.forall₂_map_left_iff.mpr (List.forall₂_map_left_iff.mpr
      (List.forall₂_same.mpr fun call mem => ?_)))
    exact CallRecord.reads_toJson (storable call mem) l (fits call mem)
  have gathers : Gathers (namedField shape (most + 1)) l (shape.start, [])
      [("run_id", l.write (level + 1) (.str report.runId)),
        ("started_at", l.write (level + 1) (.str (String.ofList report.startedAt.text))),
        ("finished_at", l.write (level + 1) (.str (String.ofList report.finishedAt.text))),
        ("calls", l.write (level + 1) (.arr (report.calls.map CallRecord.toJson)))]
      (report, ["calls", "finished_at", "started_at", "run_id"]) := by
    refine gathers_field rfl (by decide) (reads_textAs rfl) ?_
    refine gathers_field rfl (by decide) (reads_instant started l _) ?_
    refine gathers_field rfl (by decide) (reads_instant finished l _) ?_
    exact gathers_field rfl (by decide) calls .nil
  exact reads_record gathers rfl

/-- Nothing of a report is lost in its JSON text, compact or pretty, with or without a newline
behind it. -/
theorem parse_toJson (report : Report) (started : report.startedAt.Representable)
    (finished : report.finishedAt.Representable)
    (storable : ∀ record ∈ report.calls, record.Storable)
    (fits : ∀ record ∈ report.calls, record.response.depth + 3 ≤ maxDepth) :
    parse report.toJson.compactText = .ok report ∧
      parse report.toJson.prettyText = .ok report ∧
      parse (report.toJson.prettyText ++ "\n") = .ok report := by
  have below : ∀ record ∈ report.calls, record.response.depth < 125 := by
    intro record mem
    exact Nat.lt_of_add_lt_add_right (Nat.lt_of_succ_le (fits record mem))
  have reads : ∀ l : Layout, Reads (record shape maxDepth) (l.write 0 report.toJson) report :=
    fun l => reads_toJson started finished storable l below
  refine ⟨document_compactText reads, ?_, document_prettyText reads "\n" (by simp [isSpace])⟩
  have bare := document_prettyText reads "" (by simp)
  rwa [String.append_empty] at bare

/-- The first and the last day of years of four digits, with one and with nine digits of a
second, the largest numbers, a response of all kinds of values, and a call that is there twice. -/
theorem parse_toJson_of_limits :
    let record : CallRecord := ⟨"job-definition", "suspend", 2 ^ 64 - 1, 0,
      .obj [("a", .arr [.null, .bool false, .obj []]), ("b", .int (-2 ^ 63)), ("c", .str "\n")],
      2 ^ 64 - 1⟩
    let report : Report := ⟨"", ⟨Date.toDays ⟨0, 1, 1⟩, 0, 100000000⟩,
      ⟨Date.toDays ⟨9999, 12, 31⟩, 86399, 999999999⟩, [record, record]⟩
    parse report.toJson.compactText = .ok report ∧
      parse report.toJson.prettyText = .ok report ∧
      parse (report.toJson.prettyText ++ "\n") = .ok report := by
  intro record report
  have storable : record.Storable := by
    refine ⟨by decide, by decide, by decide, .obj (by decide) ?_⟩
    simp only [List.forall_mem_cons]
    refine ⟨.arr ?_, .int (by decide) (by decide), .str _, nofun⟩
    simp only [List.forall_mem_cons]
    exact ⟨.null, .bool _, .obj .nil nofun, nofun⟩
  refine parse_toJson report ?_ ?_ ?_ ?_
  · exact Instant.representable_of_year (by decide) (by decide) (by decide) (by decide)
  · exact Instant.representable_of_year (by decide) (by decide) (by decide) (by decide)
  · intro call mem
    rw [List.mem_pair, or_self] at mem
    exact mem ▸ storable
  · intro call mem
    rw [List.mem_pair, or_self] at mem
    subst mem
    decide

end Report
end Rehearsal
