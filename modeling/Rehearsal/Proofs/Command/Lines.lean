import Rehearsal.Proofs.Command.Plan
import Rehearsal.Proofs.Engine.Planning
import Rehearsal.Proofs.Json.Compact
import Rehearsal.Proofs.Text.Line

/-!
# Lines of plans

A plan has an entry for each call, with a line end behind it. Nothing of a JSON body brings
line ends of its own, but the segments of a path and the names of a deployment and of its
files are shown as they are. So a plan has one line for each call exactly if there is no line
end in any of these.
-/

namespace Rehearsal

open Text

/-- The names that are shown of a body as they are. -/
def Body.names : Body → List String
  | .json _ => []
  | .deployment d => d.name :: d.files.map DeployedFile.name

/-- What a plan shows of a request as it is. -/
def Request.verbatim (r : Request) : List String := r.path ++ r.body.names

theorem Json.isLine_compactText (v : Json) : IsLine v.compactText := by
  rw [IsLine, compactText, String.toList_ofList]
  intro inside
  exact absurd (isPrinted_compact v '\n' inside) (by decide)

theorem DeployedFile.lineEnds_summary (file : DeployedFile) :
    lineEnds file.summary = lineEnds file.name := by
  have text : file.summary = file.name ++ " (" ++ file.content.length.repr ++ " bytes)" := rfl
  have size : lineEnds file.content.length.repr = 0 := lineEnds_of_isLine (isLine_repr _)
  rw [text]
  simp only [lineEnds_append, size]
  rfl

theorem Body.lineEnds_summary (body : Body) :
    lineEnds body.summary = lineEnds (String.join body.names) := by
  cases body with
  | json value => exact lineEnds_of_isLine value.isLine_compactText
  | deployment d =>
    have text : summary (.deployment d) =
        d.name ++ " [" ++ ", ".intercalate (d.files.map DeployedFile.summary) ++ "]" := rfl
    have files : lineEnds (String.join (d.files.map DeployedFile.summary)) =
        lineEnds (String.join (d.files.map DeployedFile.name)) :=
      lineEnds_join_congr fun file _ => file.lineEnds_summary
    rw [text]
    simp only [lineEnds_append]
    rw [lineEnds_intercalate (by decide), files, names, String.join_cons, lineEnds_append]
    rfl

/-- The line ends of a request are those in what is shown of it as it is. -/
theorem Request.lineEnds_summary (r : Request) :
    lineEnds r.summary = lineEnds (String.join r.verbatim) := by
  have text : r.summary = r.method.name ++ " " ++ r.pathText ++ " " ++ r.body.summary := rfl
  have method : lineEnds r.method.name = 0 := by
    cases r.method <;> rfl
  have space : lineEnds " " = 0 := rfl
  rw [text]
  simp only [lineEnds_append, method, space, Nat.zero_add, Nat.add_zero]
  rw [pathText, lineEnds_intercalate (by decide), Body.lineEnds_summary, verbatim,
    lineEnds_join_append]

/-- A line with a number: the number on the right of three columns, or of as many as it
takes, then a dot and a text. -/
inductive Numbered (n : Nat) (text : String) : String → Prop
  | line (margin : Nat) (columns : margin + (toString n).length = max 3 (toString n).length) :
      Numbered n text (String.ofList (List.replicate margin ' ') ++ toString n ++ ". " ++ text)

namespace Call

variable {c : Call} {r : Request}

/-- What a plan says of a call, with the request that it becomes. -/
def shown (c : Call) (r : Request) : String :=
  c.resource ++ "." ++ c.action ++ "  " ++ r.summary

/-- The entry of a call in a plan, without its line end. -/
def numbered (n : Nat) (c : Call) (r : Request) : String := numeral n ++ ". " ++ c.shown r

theorem summary_of_planned (planned : c.plan = .ok r) : c.summary = .ok (c.shown r) := by
  rw [plan] at planned
  rw [summary, planned]
  rfl

theorem numbered_numbered (n : Nat) (c : Call) (r : Request) :
    Numbered n (c.shown r) (c.numbered n r) := by
  apply Numbered.line
  omega

theorem isLine_numeral (n : Nat) : IsLine (numeral n) := by
  rw [numeral, isLine_append]
  constructor
  · rw [IsLine, String.toList_ofList]
    intro inside
    exact absurd (List.eq_of_mem_replicate inside) (by decide)
  · exact isLine_repr n

/-- What has a plan is an action of one of the services. -/
theorem isLine_of_planned (planned : c.plan = .ok r) : IsLine c.resource ∧ IsLine c.action := by
  obtain ⟨service, resource, action⟩ | none := Request.service_or_none c.resource c.action c.payload
  · rw [← resource, ← action]
    cases service <;> decide
  · rw [plan, Request.plan, none] at planned
    cases planned

theorem lineEnds_numbered (planned : c.plan = .ok r) (n : Nat) :
    lineEnds (c.numbered n r) = lineEnds (String.join r.verbatim) := by
  obtain ⟨resource, action⟩ := isLine_of_planned planned
  have dot : lineEnds "." = 0 := rfl
  have point : lineEnds ". " = 0 := rfl
  have gap : lineEnds "  " = 0 := rfl
  simp only [numbered, shown, lineEnds_append, lineEnds_of_isLine resource,
    lineEnds_of_isLine action, lineEnds_of_isLine (isLine_numeral n), dot, point, gap,
    r.lineEnds_summary, Nat.zero_add]

end Call

namespace Scenario

variable {calls : List Call} {planned : List Request} {scenario : Scenario}

/-- The entries of calls without their line ends, the first of which has the number `n`. -/
def numberedLines (n : Nat) (calls : List Call) (planned : List Request) : List String :=
  (calls.zip planned).mapIdx fun i x => x.1.numbered (n + i) x.2

theorem entries_eq_map (n : Nat) (calls : List Call) (planned : List Request) :
    entries n calls planned = (numberedLines n calls planned).map (· ++ "\n") := by
  rw [entries, numberedLines, List.mapIdx_eq_zipIdx_map, List.mapIdx_eq_zipIdx_map, List.map_map]
  rfl

theorem numberedLines_cons (n : Nat) (c : Call) (r : Request) :
    numberedLines n (c :: calls) (r :: planned) =
      c.numbered n r :: numberedLines (n + 1) calls planned := by
  simp only [numberedLines, List.zip_cons_cons, List.mapIdx_cons, Nat.add_zero, Nat.add_assoc,
    Nat.add_comm 1]

/-- The line ends in the entries are those in what is shown of the requests as it is. -/
theorem lineEnds_numberedLines (h : Planned calls planned) (n : Nat) :
    lineEnds (String.join (numberedLines n calls planned)) =
      lineEnds (String.join (planned.flatMap Request.verbatim)) := by
  induction h generalizing n with
  | nil => rfl
  | cons first _ ih =>
    rw [numberedLines_cons, String.join_cons, lineEnds_append, Call.lineEnds_numbered first, ih,
      List.flatMap_cons, lineEnds_join_append]

theorem length_numberedLines (h : Planned calls planned) (n : Nat) :
    (numberedLines n calls planned).length = calls.length := by
  rw [numberedLines, List.length_mapIdx, List.length_zip, ← h.length_eq, Nat.min_self]

/-- The entry of a call stands in the place of the call, with its number. -/
theorem getElem?_numberedLines (h : Planned calls planned) (n : Nat) {k : Nat} {c : Call}
    (call : calls[k]? = some c) :
    ∃ text line, c.summary = .ok text ∧ (numberedLines n calls planned)[k]? = some line ∧
      Numbered (n + k) text line := by
  induction h generalizing n k with
  | nil => nomatch call
  | @cons c' r calls planned first _ ih =>
    rw [numberedLines_cons]
    cases k with
    | zero =>
      obtain rfl := Option.some.inj call
      exact ⟨_, _, Call.summary_of_planned first, rfl, Call.numbered_numbered _ _ _⟩
    | succ k =>
      obtain ⟨text, line, summary, there, numbered⟩ := ih (n + 1) call
      rw [Nat.add_right_comm] at numbered
      exact ⟨text, line, summary, there, numbered⟩

/-- A plan as text is a line for each call, with the number of the call and what it comes to.
The line ends in it are those of the lines and those in the texts that are shown as they are.
So it has one for each call, and cutting it there gives back the lines, exactly if there is
none in these texts. -/
theorem render_lines (h : Planned scenario.calls planned) :
    ∃ text lines, scenario.render .text = .ok text ∧
      text = String.join (lines.map (· ++ "\n")) ∧ lines.length = scenario.callCount ∧
      (∀ k c, scenario.calls[k]? = some c → ∃ description line, c.summary = .ok description ∧
        lines[k]? = some line ∧ Numbered (k + 1) description line) ∧
      lineEnds text =
        scenario.callCount + lineEnds (String.join (planned.flatMap Request.verbatim)) ∧
      (lineEnds text = scenario.callCount ↔ ∀ r ∈ planned, ∀ shown ∈ r.verbatim, IsLine shown) ∧
      (linesOf text = lines ++ [""] ↔ ∀ r ∈ planned, ∀ shown ∈ r.verbatim, IsLine shown) := by
  let lines := numberedLines 1 scenario.calls planned
  have rendered : scenario.render .text = .ok (String.join (lines.map (· ++ "\n"))) := by
    rw [render_of_planned h, entries_eq_map]
  have count : lines.length = scenario.callCount := by
    rw [length_numberedLines h, length_calls]
  have inside : lineEnds (String.join lines) =
      lineEnds (String.join (planned.flatMap Request.verbatim)) := lineEnds_numberedLines h 1
  have total := lineEnds_join_lines lines
  rw [count, inside] at total
  have clean_iff : lineEnds (String.join (planned.flatMap Request.verbatim)) = 0 ↔
      ∀ r ∈ planned, ∀ shown ∈ r.verbatim, IsLine shown := by
    rw [← isLine_iff_lineEnds, isLine_join, List.forall_mem_flatMap]
  refine ⟨_, lines, rendered, rfl, count, ?_, total, ?_, ?_⟩
  · intro k c call
    obtain ⟨description, line, summary, there, numbered⟩ := getElem?_numberedLines h 1 call
    rw [Nat.add_comm] at numbered
    exact ⟨description, line, summary, there, numbered⟩
  · rw [total, ← clean_iff]
    omega
  · constructor
    · intro apart
      -- as many pieces as lines and the rest leave no room for other line ends
      have pieces := length_linesOf (String.join (lines.map (· ++ "\n")))
      rw [apart, total, List.length_append, count, List.length_singleton] at pieces
      apply clean_iff.mp
      omega
    · intro clean
      apply linesOf_join
      apply (isLine_join lines).mp
      rw [isLine_iff_lineEnds, inside]
      exact clean_iff.mpr clean

/-- A line end in a business key is written as an escape, on the one line of its call. -/
theorem render_of_broken_businessKey :
    let scenario := ofOperation ⟨"process-definition", "start",
      [.obj [("businessKey", .str "a\nb"), ("key", .str "p")]]⟩
    let line := "  1. process-definition.start  POST process-definition/key/p/start " ++
      "\x7b\"businessKey\":\"a\\nb\"\x7d"
    (∃ planned, Planned scenario.calls planned) ∧ scenario.callCount = 1 ∧
      ∃ text, scenario.render .text = .ok text ∧ lineEnds text = 1 ∧
        linesOf text = [line, ""] := by
  intro scenario line
  have plans : Planned scenario.calls [⟨.post, ["process-definition", "key", "p", "start"],
      .json (.obj [("businessKey", .str "a\nb")])⟩] := .cons rfl .nil
  have clean : ∀ r ∈ [Request.mk .post ["process-definition", "key", "p", "start"]
      (.json (.obj [("businessKey", .str "a\nb")]))], ∀ shown ∈ r.verbatim, IsLine shown := by
    decide
  obtain ⟨text, lines, rendered, -, -, -, -, counted, -⟩ := render_lines plans
  refine ⟨⟨_, plans⟩, rfl, text, rendered, counted.mpr clean, ?_⟩
  have written : scenario.render .text = .ok (line ++ "\n") := by rfl
  obtain rfl := Except.ok.inj (rendered.symm.trans written)
  decide

/-- A line end in the key of a process definition makes two lines of one call. -/
theorem render_of_broken_key :
    ∃ planned text,
      let scenario := ofOperation ⟨"process-definition", "start", [.obj [("key", .str "a\nb")]]⟩
      Planned scenario.calls planned ∧ scenario.callCount = 1 ∧
        scenario.render .text = .ok text ∧ lineEnds text = 2 ∧
        linesOf text = ["  1. process-definition.start  POST process-definition/key/a",
          "b/start \x7b\x7d", ""] :=
  ⟨[⟨.post, ["process-definition", "key", "a\nb", "start"], .json (.obj [])⟩],
    "  1. process-definition.start  POST process-definition/key/a\nb/start \x7b\x7d\n",
    .cons rfl .nil, rfl, rfl, by decide, by decide⟩

end Scenario
end Rehearsal
