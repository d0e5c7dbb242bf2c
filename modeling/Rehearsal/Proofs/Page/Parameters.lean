import Mathlib.Data.List.Forall2
import Mathlib.Logic.Relation
import Rehearsal.Page.Route

/-!
# Routes made from patterns

Values in the places of the parameters of a pattern make a route. `fill` puts them there in
the text of the pattern, and `parameters` finds them again in the segments of the route: as
long as no two parameters have one name, each undoes the other. Both see texts as segments,
so slashes more or less at the ends or next to each other change nothing.
-/

namespace Rehearsal

open Text

namespace Route

/-- A text that can stand between two slashes as one segment. -/
structure IsSegment (text : String) : Prop where
  some : text ≠ ""
  unslashed : '/' ∉ text.toList

theorem isSegment_of_mem {route text : String} (mem : text ∈ segments route) :
    IsSegment text := by
  obtain ⟨word, word_mem, rfl⟩ := List.mem_map.mp mem
  obtain ⟨piece, nonempty⟩ := List.mem_filter.mp word_mem
  have unmarked := not_isMark_of_mem_splitAt _ _ _ piece
  constructor
  · intro empty
    rw [String.ofList_eq_empty_iff] at empty
    rw [empty] at nonempty
    nomatch nonempty
  · intro slash
    rw [String.toList_ofList] at slash
    exact absurd (unmarked '/' slash) (by decide)

/-- One more slash, at an end of a text or next to another slash. -/
inductive AddsSlash : List Char → List Char → Prop
  | front (s : List Char) : AddsSlash s ('/' :: s)
  | back (s : List Char) : AddsSlash s (s ++ ['/'])
  | doubled (s t : List Char) : AddsSlash (s ++ '/' :: t) (s ++ '/' :: '/' :: t)

/-- Texts that differ only in slashes at their ends or next to other slashes. -/
def SameButSlashes (s t : String) : Prop := Relation.EqvGen AddsSlash s.toList t.toList

theorem AddsSlash.words_eq {s t : List Char} (h : AddsSlash s t) :
    words (· == '/') s = words (· == '/') t := by
  cases h with
  | front => exact (words_cons_mark rfl s).symm
  | back =>
    rw [words_append_mark rfl]
    exact (List.append_nil _).symm
  | doubled s t => rw [words_append_mark rfl, words_append_mark rfl, words_cons_mark rfl]

/-- Such texts have the same segments. -/
theorem SameButSlashes.segments_eq {s t : String} (h : SameButSlashes s t) :
    segments s = segments t := by
  have same : ∀ s t, Relation.EqvGen AddsSlash s t →
      words (· == '/') s = words (· == '/') t := by
    intro s t related
    induction related with
    | rel s t adds => exact adds.words_eq
    | refl s => rfl
    | symm s t _ ih => exact ih.symm
    | trans s t u _ _ first second => exact first.trans second
  rw [segments, segments, same _ _ h]

end Route

namespace RouteStep

/-- The name of a step that is a parameter. -/
def name? : RouteStep → Option String
  | .parameter name => some name
  | _ => none

/-- What a segment in the place of a step says of a parameter. -/
def binding? : RouteStep → String → Option (String × String)
  | .parameter name, segment => some (name, segment)
  | _, _ => none

/-- A segment of a pattern is the one wildcard, a parameter after its colon, or itself. -/
theorem ofSegment_cases (segment : String) :
    segment = "*" ∨
      (∃ name, segment.toList ≠ [] ∧ ofSegment segment = .parameter name) ∨
      ofSegment segment = .exactly segment := by
  rw [ofSegment]
  split
  next star => exact .inl (String.toList_injective star)
  next name colon => exact .inr (.inl ⟨_, colon ▸ List.cons_ne_nil _ _, rfl⟩)
  next => exact .inr (.inr rfl)

end RouteStep

namespace RoutePattern

variable {pattern : RoutePattern} {values : List (String × String)} {route : String}

/-- The names of the parameters in order. -/
def names (pattern : RoutePattern) : List String := pattern.steps.filterMap RouteStep.name?

/-- The segment of a route for a segment of a pattern: the value, if it is a parameter that
has one. -/
def filled (values : List (String × String)) (segment : String) : String :=
  match RouteStep.ofSegment segment with
  | .parameter name => (Table.get? name values).getD segment
  | _ => segment

/-- The text of a pattern with values in the places of its parameters. -/
def fill (pattern : RoutePattern) (values : List (String × String)) : String :=
  let pieces := splitAt (· == '/') pattern.text.toList
  String.ofList (joinWith ['/'] (pieces.map fun piece => (filled values (.ofList piece)).toList))

/-- What the segments of a route say of the parameters. -/
def bindings (pattern : RoutePattern) (route : String) : List (String × String) :=
  (pattern.steps.zip (Route.segments route)).filterMap fun x => x.1.binding? x.2

theorem filled_of_parameter {segment name : String}
    (parameter : RouteStep.ofSegment segment = .parameter name)
    (values : List (String × String)) :
    filled values segment = (Table.get? name values).getD segment := by
  rw [filled, parameter]

theorem filled_of_exactly {segment : String}
    (exactly : RouteStep.ofSegment segment = .exactly segment) (values : List (String × String)) :
    filled values segment = segment := by
  rw [filled, exactly]

/-- A segment is left as it is, or a value takes the place of a parameter. -/
theorem filled_cases (values : List (String × String)) (segment : String) :
    filled values segment = segment ∨
      segment.toList ≠ [] ∧ ∃ name, (name, filled values segment) ∈ values := by
  obtain rfl | ⟨name, some, parameter⟩ | exactly := RouteStep.ofSegment_cases segment
  · exact .inl rfl
  · rw [filled_of_parameter parameter]
    cases found : Table.get? name values with
    | none => exact .inl rfl
    | some value => exact .inr ⟨some, name, Table.mem_of_get? found⟩
  · exact .inl (filled_of_exactly exactly values)

/-- Values that are segments bring no slash into a piece, and do not make it empty. -/
theorem filled_piece (fits : ∀ value ∈ values, Route.IsSegment value.2) {piece : List Char}
    (unslashed : ∀ c ∈ piece, (c == '/') = false) :
    (∀ c ∈ (filled values (.ofList piece)).toList, (c == '/') = false) ∧
      (filled values (.ofList piece)).toList.isEmpty = piece.isEmpty := by
  obtain same | ⟨some, name, value⟩ := filled_cases values (.ofList piece)
  · rw [same, String.toList_ofList]
    exact ⟨unslashed, rfl⟩
  · have segment := fits _ value
    rw [String.toList_ofList] at some
    constructor
    · intro c inside
      apply beq_false_of_ne
      rintro rfl
      exact segment.unslashed inside
    · rw [List.isEmpty_eq_false_iff.mpr some, List.isEmpty_eq_false_iff]
      intro empty
      exact segment.some (String.toList_eq_nil_iff.mp empty)

/-- The segments of a filled pattern are those of the pattern, each of them filled. -/
theorem segments_fill (fits : ∀ value ∈ values, Route.IsSegment value.2) :
    Route.segments (pattern.fill values) = (Route.segments pattern.text).map (filled values) := by
  have pieces_ne := splitAt_ne_nil (· == '/') pattern.text.toList
  have unslashed := not_isMark_of_mem_splitAt (· == '/') pattern.text.toList
  generalize pieces_eq : splitAt (· == '/') pattern.text.toList = pieces at pieces_ne unslashed
  let put (piece : List Char) : List Char := (filled values (.ofList piece)).toList
  have cut : splitAt (· == '/') (joinWith ['/'] (pieces.map put)) = pieces.map put := by
    apply splitAt_joinWith rfl
    · simpa using pieces_ne
    · rw [List.forall_mem_map]
      intro piece mem
      exact (filled_piece fits (unslashed piece mem)).1
  have kept : (pieces.map put).filter (fun piece => !piece.isEmpty) =
      (pieces.filter fun piece => !piece.isEmpty).map put := by
    rw [List.filter_map]
    apply congrArg
    apply List.filter_congr
    intro piece mem
    exact congrArg not (filled_piece fits (unslashed piece mem)).2
  have whole : Route.segments (pattern.fill values) =
      (words (· == '/') (joinWith ['/'] (pieces.map put))).map String.ofList := by
    rw [Route.segments, fill, String.toList_ofList, pieces_eq]
  rw [whole, words, cut, kept, Route.segments, words, pieces_eq, List.map_map, List.map_map]
  apply List.map_congr_left
  intro piece _
  exact String.ofList_toList

/-- A route matches exactly if it has an acceptable segment for each step. -/
theorem isMatch_iff :
    pattern.isMatch route = true ↔
      List.Forall₂ (fun step segment => step.accepts segment = true) pattern.steps
        (Route.segments route) := by
  rw [isMatch, Bool.and_eq_true, beq_iff_eq, List.all_eq_true, List.forall₂_iff_zip]
  constructor
  · rintro ⟨length, all⟩
    exact ⟨length.symm, fun mem => all _ mem⟩
  · rintro ⟨length, all⟩
    exact ⟨length.symm, fun x mem => all mem⟩

/-- Bindings are put into the parameters one after another. -/
theorem parameters_eq (pattern : RoutePattern) (route : String) :
    pattern.parameters route =
      (pattern.bindings route).foldl (fun table pair => Table.put pair.1 pair.2 table) [] := by
  rw [parameters, bindings, List.foldl_filterMap]
  apply congrFun
  apply congrFun
  apply congrArg
  funext found x
  obtain ⟨step, segment⟩ := x
  cases step <;> rfl

/-- A route that matches says something of each parameter. -/
theorem map_fst_bindings (matching : pattern.isMatch route = true) :
    (pattern.bindings route).map Prod.fst = pattern.names := by
  rw [isMatch_iff] at matching
  rw [bindings, names]
  generalize pattern.steps = steps at matching
  generalize Route.segments route = segments at matching
  -- step by step, with the segment in its place
  induction matching with
  | nil => rfl
  | @cons step segment steps segments _ _ ih =>
    cases step with
    | parameter name => exact congrArg (name :: ·) ih
    | exactly text => exact ih
    | any => exact ih

/-- Where no two parameters have one name, everything a matching route says counts. -/
theorem parameters_of_isMatch (distinct : pattern.names.Nodup)
    (matching : pattern.isMatch route = true) :
    pattern.parameters route = pattern.bindings route := by
  rw [parameters_eq]
  apply Table.foldl_put
  rw [List.nil_append, map_fst_bindings matching]
  exact distinct

/-- A segment of a pattern is acceptable to itself, filled. -/
theorem accepts_filled (values : List (String × String)) (segment : String) :
    (RouteStep.ofSegment segment).accepts (filled values segment) = true := by
  obtain rfl | ⟨name, -, parameter⟩ | exactly := RouteStep.ofSegment_cases segment
  · rfl
  · rw [parameter]
    rfl
  · rw [filled_of_exactly exactly, exactly]
    exact beq_self_eq_true segment

theorem isMatch_fill (fits : ∀ value ∈ values, Route.IsSegment value.2) :
    pattern.isMatch (pattern.fill values) = true := by
  rw [isMatch_iff, segments_fill fits, steps, List.forall₂_map_left_iff,
    List.forall₂_map_right_iff, List.forall₂_same]
  intro segment _
  exact accepts_filled values segment

/-- The values in a filled pattern are those that it was filled with. -/
theorem bindings_fill (distinct : pattern.names.Nodup)
    (assigned : values.map Prod.fst = pattern.names)
    (fits : ∀ value ∈ values, Route.IsSegment value.2) :
    pattern.bindings (pattern.fill values) = values := by
  let valued (name : String) : String × String := (name, (Table.get? name values).getD "")
  have of_names : pattern.bindings (pattern.fill values) = pattern.names.map valued := by
    rw [bindings, segments_fill fits, names, steps, List.zip_map', List.filterMap_map,
      List.filterMap_map, List.map_filterMap]
    apply List.filterMap_congr
    intro segment mem
    obtain rfl | ⟨name, -, parameter⟩ | exactly := RouteStep.ofSegment_cases segment
    · rfl
    · have named : name ∈ values.map Prod.fst := by
        rw [assigned, names, steps, List.filterMap_map, List.mem_filterMap]
        exact ⟨segment, mem, congrArg RouteStep.name? parameter⟩
      obtain ⟨value, found⟩ := Option.isSome_iff_exists.mp (Table.isSome_get?_iff.mpr named)
      simp [parameter, filled_of_parameter, RouteStep.binding?, RouteStep.name?, valued, found]
    · simp [exactly, RouteStep.binding?, RouteStep.name?]
  have once : (values.map Prod.fst).Nodup := assigned ▸ distinct
  have same : ∀ pair ∈ values, (valued ∘ Prod.fst) pair = id pair := by
    rintro ⟨name, value⟩ mem
    simp [valued, Table.get?_of_mem once mem]
  rw [of_names, ← assigned, List.map_map, List.map_congr_left same, List.map_id]

/-- Filling a pattern without wildcards with what a matching route says gives the segments of
the route. -/
theorem segments_fill_bindings (noWildcard : "*" ∉ Route.segments pattern.text)
    (distinct : pattern.names.Nodup) (matching : pattern.isMatch route = true) :
    Route.segments (pattern.fill (pattern.bindings route)) = Route.segments route := by
  have once : ((pattern.bindings route).map Prod.fst).Nodup := by
    rw [map_fst_bindings matching]
    exact distinct
  have fits : ∀ value ∈ pattern.bindings route, Route.IsSegment value.2 := by
    intro value mem
    obtain ⟨⟨step, segment⟩, pair, said⟩ := List.mem_filterMap.mp mem
    cases step with
    | parameter name =>
      obtain rfl := Option.some.inj said
      exact Route.isSegment_of_mem (List.of_mem_zip pair).2
    | _ => nomatch said
  rw [isMatch_iff, steps, List.forall₂_map_left_iff, List.forall₂_iff_zip] at matching
  obtain ⟨length, accepted⟩ := matching
  rw [segments_fill fits]
  apply (congrFun (congrFun List.forall₂_eq_eq_eq _) _).mp
  rw [List.forall₂_map_left_iff, List.forall₂_iff_zip]
  refine ⟨length, ?_⟩
  intro segment actual pair
  have accepts := accepted pair
  obtain rfl | ⟨name, -, parameter⟩ | exactly := RouteStep.ofSegment_cases segment
  · exact absurd (List.of_mem_zip pair).1 noWildcard
  · have bound : (name, actual) ∈ pattern.bindings route := by
      apply List.mem_filterMap.mpr
      refine ⟨(.parameter name, actual), ?_, rfl⟩
      rw [steps, List.zip_map_left]
      exact List.mem_map.mpr ⟨(segment, actual), pair, by rw [← parameter]; rfl⟩
    rw [filled_of_parameter parameter, Table.get?_of_mem once bound]
    rfl
  · rw [exactly] at accepts
    rw [filled_of_exactly exactly]
    exact eq_of_beq accepts

/-- Values that are put in the places of the parameters of a pattern are found there again,
and what is found in a route that matches, put there, makes its segments. Texts that differ
in slashes more or less only do not differ in this. -/
theorem parameters_fill :
    (∀ pattern : RoutePattern, "*" ∉ Route.segments pattern.text → pattern.names.Nodup →
      (∀ values : List (String × String), values.map Prod.fst = pattern.names →
        (∀ value ∈ values, Route.IsSegment value.2) →
        pattern.isMatch (pattern.fill values) = true ∧
          pattern.parameters (pattern.fill values) = values) ∧
      ∀ route, pattern.isMatch route = true →
        (pattern.parameters route).map Prod.fst = pattern.names ∧
          Route.segments (pattern.fill (pattern.parameters route)) = Route.segments route) ∧
    ∀ (pattern other : RoutePattern) (route variant : String),
      Route.SameButSlashes pattern.text other.text → Route.SameButSlashes route variant →
      other.isMatch variant = pattern.isMatch route ∧
        other.parameters variant = pattern.parameters route := by
  constructor
  · intro pattern noWildcard distinct
    constructor
    · intro values assigned fits
      have matching : pattern.isMatch (pattern.fill values) = true := isMatch_fill fits
      rw [parameters_of_isMatch distinct matching]
      exact ⟨matching, bindings_fill distinct assigned fits⟩
    · intro route matching
      rw [parameters_of_isMatch distinct matching]
      exact ⟨map_fst_bindings matching, segments_fill_bindings noWildcard distinct matching⟩
  · intro pattern other route variant samePattern sameRoute
    rw [isMatch, isMatch, parameters, parameters, steps, steps, samePattern.segments_eq,
      sameRoute.segments_eq]
    exact ⟨rfl, rfl⟩

/-- Values that look like parts of a pattern, in a pattern with slashes more than it needs. -/
theorem parameters_of_odd_values :
    let pattern : RoutePattern := ⟨"//:a/x/:b/"⟩
    let values := [("a", ":b"), ("b", "*")]
    ("*" ∉ Route.segments pattern.text ∧ pattern.names.Nodup ∧
      values.map Prod.fst = pattern.names ∧ (∀ value ∈ values, Route.IsSegment value.2) ∧
      Route.SameButSlashes pattern.text "/:a/x/:b" ∧ Route.SameButSlashes ":b/x/*" ":b/x/*/") ∧
    pattern.fill values = "//:b/x/*/" ∧ pattern.isMatch "//:b/x/*/" = true ∧
      pattern.parameters "//:b/x/*/" = values ∧
      Route.segments (pattern.fill (pattern.parameters ":b/x/*")) = [":b", "x", "*"] ∧
      (RoutePattern.mk "/:a/x/:b").parameters ":b/x/*/" = pattern.parameters ":b/x/*" := by
  intro pattern values
  have noWildcard : "*" ∉ Route.segments pattern.text := by decide
  have distinct : pattern.names.Nodup := by decide
  have assigned : values.map Prod.fst = pattern.names := by decide
  have fits : ∀ value ∈ values, Route.IsSegment value.2 := by
    rw [List.forall_mem_cons, List.forall_mem_singleton]
    exact ⟨⟨by decide, by decide⟩, ⟨by decide, by decide⟩⟩
  have samePattern : Route.SameButSlashes pattern.text "/:a/x/:b" := by
    have behind : Route.AddsSlash "/:a/x/:b".toList "/:a/x/:b/".toList := .back _
    have inFront : Route.AddsSlash "/:a/x/:b/".toList "//:a/x/:b/".toList := .front _
    exact .symm _ _ (.trans _ _ _ (.rel _ _ behind) (.rel _ _ inFront))
  have sameRoute : Route.SameButSlashes ":b/x/*" ":b/x/*/" := .rel _ _ (.back _)
  have filled : pattern.fill values = "//:b/x/*/" := by decide
  obtain ⟨inverse, slashes⟩ := parameters_fill
  obtain ⟨there, back⟩ := inverse pattern noWildcard distinct
  obtain ⟨matching, found⟩ := there values assigned fits
  rw [filled] at matching found
  refine ⟨⟨noWildcard, distinct, assigned, fits, samePattern, sameRoute⟩, filled, matching, found,
    ?_, (slashes pattern _ _ _ samePattern sameRoute).2⟩
  exact (back ":b/x/*" (by decide)).2

end RoutePattern
end Rehearsal
