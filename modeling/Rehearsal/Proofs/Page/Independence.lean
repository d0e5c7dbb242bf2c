import Rehearsal.Proofs.Page.Suspension

/-!
# Activities beside each other

The shape and the badges of an activity are found by selectors into which its id is
written, whatever text that is. `readValue_escaped` reads the id back, so no two of these
selectors are the same. A question looks at one element only: `run_ask` says what the answer
is from that element. So what happens to other activities, and to what else belongs to the
same activity, has no say in it, also when it happens while the question is asked.
-/

namespace Rehearsal

/-- What a selector has between quotes, up to the first quote without a backslash, and what
is behind it. -/
def readValue : List Char → List Char × List Char
  | [] => ([], [])
  | '"' :: rest => ([], rest)
  | '\\' :: c :: rest => (c :: (readValue rest).1, (readValue rest).2)
  | c :: rest => (c :: (readValue rest).1, (readValue rest).2)

/-- Backslashes and quotes have a backslash in a selector, and nothing else has. -/
theorem selectorChar_cases (c : Char) :
    (c = '\\' ∨ c = '"') ∧ selectorChar c = ['\\', c] ∨
      selectorChar c = [c] ∧ c ≠ '\\' ∧ c ≠ '"' := by
  rw [selectorChar]
  split
  next special => exact .inl ⟨by simpa using special, rfl⟩
  next plain => exact .inr ⟨rfl, by simpa using plain⟩

/-- A value is read back, with anything behind its last quote. -/
theorem readValue_escaped (value rest : List Char) :
    readValue (value.flatMap selectorChar ++ '"' :: rest) = (value, rest) := by
  induction value with
  | nil => rfl
  | cons c value ih =>
    obtain ⟨-, escaped⟩ | ⟨plain, unescaped, unquoted⟩ := selectorChar_cases c
    · rw [List.flatMap_cons, escaped, List.append_assoc, List.cons_append, List.cons_append,
        List.nil_append, readValue, ih]
    · rw [List.flatMap_cons, plain, List.append_assoc, List.singleton_append, readValue, ih]
      · exact unquoted
      · intro _ _ backslash
        exact absurd backslash unescaped

theorem toList_attributeSelector (name value : String) :
    (attributeSelector name value).toList =
      '[' :: name.toList ++ '=' :: '"' :: (value.toList.flatMap selectorChar ++ ['"', ']']) := by
  simp [attributeSelector, toString]

/-- The value of an attribute is found in a longer selector. -/
theorem attributeSelector_append_injective {name value other : String} {rest rest' : List Char}
    (h : (attributeSelector name value).toList ++ rest =
      (attributeSelector name other).toList ++ rest') : value = other ∧ rest = rest' := by
  rw [toList_attributeSelector, toList_attributeSelector] at h
  simp only [List.append_assoc, List.cons_append, List.append_cancel_left_eq,
    List.cons.injEq, true_and, List.nil_append] at h
  have read := readValue_escaped value.toList (']' :: rest)
  rw [h, readValue_escaped, Prod.mk.injEq, List.cons.injEq] at read
  exact ⟨String.toList_injective read.1.symm, read.2.2.symm⟩

namespace LivePage

/-- No edit from now on changes what is under a selector. -/
def Spares (page : LivePage) (css : String) : Prop :=
  ∀ edits ∈ page.upcoming, ∀ e ∈ edits, e.css ≠ css

variable {page : LivePage} {css : String}

theorem document_foldl_edit (edits : List Edit) (page : LivePage) :
    (edits.foldl edit page).document = edits.foldl Document.edit page.document := by
  induction edits generalizing page with
  | nil => rfl
  | cons e edits ih => exact ih (page.edit e)

theorem Spares.advance (h : page.Spares css) : page.advance.Spares css :=
  fun edits member => h edits (List.mem_of_mem_tail member)

/-- The next request finds what there was. -/
theorem Spares.element?_advance (h : page.Spares css) :
    page.advance.document.element? css = page.document.element? css := by
  have next : ∀ e ∈ page.upcoming.headD [], e.css ≠ css := by
    intro e member
    cases coming : page.upcoming with
    | nil =>
      rw [coming] at member
      exact absurd member List.not_mem_nil
    | cons edits later =>
      rw [coming] at member
      exact h edits (coming ▸ List.mem_cons_self) e member
  have edited : page.advance.document =
      (page.upcoming.headD []).foldl Document.edit page.document := document_foldl_edit _ page
  rw [edited, Document.element?_foldl_edit_of_ne page.document next]

end LivePage

namespace Diagram

/-- What the diagram has for an activity. -/
inductive Feature where
  | shape
  | badge (kind : Badge)
  deriving DecidableEq

/-- The locator of what the diagram has for an activity. -/
def Feature.locator : Feature → String → Locator
  | .shape, activity => shapeOf activity
  | .badge kind, activity => Diagram.badge kind activity

theorem toList_css_shapeOf (activity : String) :
    (shapeOf activity).css.toList =
      '*' :: (attributeSelector "data-element-id" activity).toList := by
  simp [shapeOf, Locator.ofCss, Locator.ofSelector, Locator.css, Selector.text]

theorem toList_css_badge (kind : Badge) (activity : String) :
    (badge kind activity).css.toList =
      (attributeSelector "data-container-id" activity).toList ++
        (" .badge".toList ++ (attributeSelector "uib-tooltip" kind.tooltip).toList) := by
  simp [badge, Locator.ofCss, Locator.ofSelector, Locator.css, Selector.text]

theorem Badge.tooltip_injective {kind other : Badge} (h : kind.tooltip = other.tooltip) :
    kind = other := by
  cases kind <;> cases other <;> first | rfl | exact absurd h (by decide)

theorem css_shapeOf_ne_badge (activity other : String) (kind : Badge) :
    (shapeOf activity).css ≠ (badge kind other).css := by
  intro h
  have same := congrArg String.toList h
  rw [toList_css_shapeOf, toList_css_badge, toList_attributeSelector "data-container-id"] at same
  exact absurd (List.cons.inj same).1 (by decide)

/-- A selector tells what it is for, and for which activity. -/
theorem Feature.css_injective {f g : Feature} {a b : String}
    (h : (f.locator a).css = (g.locator b).css) : f = g ∧ a = b := by
  cases f with
  | shape =>
    cases g with
    | shape =>
      have same := congrArg String.toList h
      rw [locator, locator, toList_css_shapeOf, toList_css_shapeOf, List.cons.injEq] at same
      have read := attributeSelector_append_injective (congrArg (· ++ []) same.2)
      exact ⟨rfl, read.1⟩
    | badge kind => exact absurd h (css_shapeOf_ne_badge a b kind)
  | badge kind =>
    cases g with
    | shape => exact absurd h.symm (css_shapeOf_ne_badge b a kind)
    | badge other =>
      have same := congrArg String.toList h
      rw [locator, locator, toList_css_badge, toList_css_badge] at same
      obtain ⟨rfl, tooltips⟩ := attributeSelector_append_injective same
      rw [List.append_cancel_left_eq] at tooltips
      have kinds := attributeSelector_append_injective (congrArg (· ++ []) tooltips)
      exact ⟨congrArg Feature.badge (Badge.tooltip_injective kinds.1), rfl⟩

theorem Feature.css_ne_viewer (f : Feature) (a : String) : (f.locator a).css ≠ viewer.css := by
  intro h
  have same := congrArg String.toList h
  have text : viewer.css.toList = '[' :: 'c' :: "am-widget-bpmn-viewer]".toList := by decide
  cases f with
  | shape =>
    rw [locator, toList_css_shapeOf, text] at same
    exact absurd (List.cons.inj same).1 (by decide)
  | badge kind =>
    rw [locator, toList_css_badge, toList_attributeSelector, text] at same
    exact absurd (List.cons.inj (List.cons.inj same).2).1 (by decide)

/-- What one asks about an activity. -/
inductive Question where
  | isSelected
  | isSuspended
  | runningInstances
  | openIncidents

namespace Question

/-- What a question is answered with. -/
abbrev Answer : Question → Type
  | .isSelected => Bool
  | .isSuspended => Bool
  | .runningInstances => Option Nat
  | .openIncidents => Option Nat

/-- What a question is about. -/
def feature : Question → Feature
  | .isSelected => .shape
  | .isSuspended => .badge .suspended
  | .runningInstances => .badge .instances
  | .openIncidents => .badge .incidents

/-- Asks a question. -/
def ask {σ : Type} (browser : Browser σ) (activity : String) :
    (q : Question) → Session σ q.Answer
  | .isSelected => Diagram.isSelected browser activity
  | .isSuspended => Diagram.isSuspended browser activity
  | .runningInstances => Diagram.runningInstances browser activity
  | .openIncidents => Diagram.openIncidents browser activity

/-- The answer from the element that the question is about. -/
def answer : (q : Question) → Option Element → q.Answer
  | .isSelected, found =>
    hasClass (found.bind fun element => Table.get? "class" element.attributes) selectedClass
  | .isSuspended, found => found.any fun element => !isHidden element
  | .runningInstances, found => (found.bind Element.text).bind badgeNumber?
  | .openIncidents, found => (found.bind Element.text).bind badgeNumber?

end Question

/-- A question is answered from the element that it is about, and leaves the page as it
is. -/
theorem run_ask (q : Question) (activity : String) (d : Document) :
    (q.ask Document.browser activity).run d =
      (.ok (q.answer (d.element? (q.feature.locator activity).css)), d) := by
  cases q with
  | isSelected => rfl
  | isSuspended =>
    rw [Question.ask, isSuspended, Session.run_bind, Document.run_count, Question.feature,
      Feature.locator]
    simp only
    rw [Session.run_ite]
    cases found : d.element? (badge .suspended activity).css with
    | none => rfl
    | some element =>
      rw [if_neg (by simp), Session.run_bind, Document.run_attributeOf, found]
      rfl
  | runningInstances => rfl
  | openIncidents => rfl

/-- The answer is the same on a page that is edited while the question is asked, if no edit
is of the element that it is about. -/
theorem ask_of_spares (q : Question) (activity : String) {page : LivePage}
    (h : page.Spares (q.feature.locator activity).css) :
    ((q.ask LivePage.browser activity).run page).1 =
      .ok (q.answer (page.document.element? (q.feature.locator activity).css)) := by
  rw [← h.element?_advance]
  cases q with
  | isSelected => rfl
  | isSuspended =>
    have later : suspensionBadge? page.advance.advance.document activity =
        suspensionBadge? page.advance.document activity := h.advance.element?_advance
    rw [Question.ask, run_isSuspended, later]
    change _ = Except.ok ((suspensionBadge? page.advance.document activity).any (!isHidden ·))
    cases suspensionBadge? page.advance.document activity with
    | none => rfl
    | some element => rfl
  | runningInstances => rfl
  | openIncidents => rfl

/-- An edit of something that the diagram has, other than one feature of one activity. -/
def IsBeside (f : Feature) (activity : String) (e : Edit) : Prop :=
  ∃ g other, e.css = (Feature.locator g other).css ∧ (g ≠ f ∨ other ≠ activity)

theorem IsBeside.css_ne {f : Feature} {activity : String} {e : Edit}
    (h : IsBeside f activity e) : e.css ≠ (f.locator activity).css := by
  intro same
  obtain ⟨g, other, css, apart⟩ := h
  obtain ⟨rfl, rfl⟩ := Feature.css_injective (css.symm.trans same)
  exact apart.elim (· rfl) (· rfl)

/-- Activities do not interfere, and neither do the features of one activity. No two of them
have a selector in common, nor one with the viewer. What is done to some of them has no say
in the answer to a question about another one, whether it is done before or while the
question is asked. -/
theorem features_apart :
    (∀ f g a b, (Feature.locator f a).css = (Feature.locator g b).css → f = g ∧ a = b) ∧
      (∀ f a, (Feature.locator f a).css ≠ viewer.css) ∧
      ∀ (q : Question) (activity : String) (d : Document),
        (∀ edits : List Edit, (∀ e ∈ edits, IsBeside q.feature activity e) →
          ((q.ask Document.browser activity).run (edits.foldl Document.edit d)).1 =
            ((q.ask Document.browser activity).run d).1) ∧
        ∀ upcoming : List (List Edit),
          (∀ edits ∈ upcoming, ∀ e ∈ edits, IsBeside q.feature activity e) →
          ((q.ask LivePage.browser activity).run (.start d upcoming)).1 =
            ((q.ask Document.browser activity).run d).1 := by
  refine ⟨fun f g a b h => Feature.css_injective h, Feature.css_ne_viewer, ?_⟩
  intro q activity d
  constructor
  · intro edits beside
    have kept := d.element?_foldl_edit_of_ne fun e member => (beside e member).css_ne
    rw [run_ask, run_ask, kept]
  · intro upcoming beside
    have spared : (LivePage.start d upcoming).Spares (q.feature.locator activity).css :=
      fun edits coming e member => (beside edits coming e member).css_ne
    rw [ask_of_spares q activity spared, run_ask]
    rfl

/-- An id that ends its own quotes, and goes on like the selector of a badge of another
activity, is still the id of one activity. -/
theorem isSuspended_of_misleading_id :
    let misleading := "A\"] .badge[uib-tooltip=\"Suspended Job Definition"
    let d := Document.blank.add (badge .suspended "A").css { attributes := [("class", "badge")] }
    let edits : List Edit :=
      [.remove (badge .suspended misleading).css, .add (badge .instances "A").css {},
        .setAttribute (badge .suspended misleading).css "class" "ng-hide"]
    (∀ e ∈ edits, IsBeside (.badge .suspended) "A" e) ∧
      ((isSuspended Document.browser "A").run (edits.foldl Document.edit d)).1 = .ok true := by
  intro misleading d edits
  have beside : ∀ e ∈ edits, IsBeside (.badge .suspended) "A" e := by
    simp only [edits, List.forall_mem_cons]
    refine ⟨?_, ?_, ?_, nofun⟩
    · exact ⟨.badge .suspended, misleading, rfl, .inr (by decide)⟩
    · exact ⟨.badge .instances, "A", rfl, .inl (by decide)⟩
    · exact ⟨.badge .suspended, misleading, rfl, .inr (by decide)⟩
  have before : ((isSuspended Document.browser "A").run d).1 = .ok true := by rfl
  exact ⟨beside, ((features_apart.2.2 .isSuspended "A" d).1 edits beside).trans before⟩

end Diagram
end Rehearsal
