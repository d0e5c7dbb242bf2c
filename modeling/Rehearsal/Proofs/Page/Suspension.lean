import Rehearsal.Page.Diagram
import Rehearsal.Page.Live

/-!
# Suspension on a page that changes

Whether an activity is suspended is asked in two requests: whether there is a badge,
and which classes it has. The page may change in between, and a badge that is gone
has no classes, like a badge that is shown. `run_isSuspended` says what the two
requests come to on any page; `isSuspended_of_never_shown` says when the answer is
right on a page that shows the badge at no moment.
-/

namespace Rehearsal

namespace Diagram

/-- The badge of suspension of an activity, in a document. -/
def suspensionBadge? (d : Document) (activity : String) : Option Element :=
  d.element? (badge .suspended activity).css

/-- Whether an element is hidden by its class. -/
def isHidden (element : Element) : Bool :=
  hasClass (Table.get? "class" element.attributes) hiddenClass

/-- Whether a document shows that an activity is suspended. -/
def showsSuspension (d : Document) (activity : String) : Bool :=
  (suspensionBadge? d activity).any fun element => !isHidden element

/-- A badge that is there and hidden. -/
def hiddenBadge : Document :=
  Document.blank.add (badge .suspended "A").css { attributes := [("class", "badge ng-hide")] }

/-- The answer is made of two moments: the badge is there at the first request, and
has no class that hides it at the second. -/
theorem run_isSuspended (page : LivePage) (activity : String) :
    (isSuspended LivePage.browser activity).run page =
      if (suspensionBadge? page.advance.document activity).isSome then
        (.ok !(suspensionBadge? page.advance.advance.document activity).any isHidden,
          page.advance.advance)
      else (.ok false, page.advance) := by
  have classes : ∀ found : Option Element,
      hasClass (found.bind fun element => Table.get? "class" element.attributes) hiddenClass =
        found.any isHidden := by
    intro found
    cases found <;> rfl
  rw [isSuspended, Session.run_bind, LivePage.run_count, suspensionBadge?]
  simp only
  rw [Session.run_ite]
  cases page.advance.document.element? (badge .suspended activity).css with
  | none => rfl
  | some element =>
    rw [if_neg (by simp), if_pos (by rfl), Session.run_bind, LivePage.run_attributeOf]
    simp only
    rw [Session.run_pure, classes, suspensionBadge?]

/-- On a page that shows the badge at no moment of the question, the answer is that the
activity is suspended exactly if the badge is there when it is counted and gone when its
classes are read. -/
theorem isSuspended_of_never_shown (document : Document) (upcoming : List (List Edit))
    (activity : String)
    (hidden : ∀ d ∈ ((isSuspended LivePage.browser activity).run
      (.start document upcoming)).2.moments, showsSuspension d activity = false) :
    ((isSuspended LivePage.browser activity).run (.start document upcoming)).1 =
      .ok ((suspensionBadge? (LivePage.start document upcoming).advance.document
          activity).isSome &&
        (suspensionBadge? (LivePage.start document upcoming).advance.advance.document
          activity).isNone) := by
  generalize LivePage.start document upcoming = page at hidden ⊢
  rw [run_isSuspended] at hidden ⊢
  by_cases counted : (suspensionBadge? page.advance.document activity).isSome
  · simp only [counted, if_true] at hidden ⊢
    have last := hidden page.advance.advance.document (by simp [LivePage.moments])
    rw [showsSuspension] at last
    cases found : suspensionBadge? page.advance.advance.document activity with
    | none => rfl
    | some element =>
      rw [found] at last
      simpa using last
  · simp [counted]

/-- A hidden badge that is rendered anew between the requests is not taken for one that is
shown. -/
theorem isSuspended_of_replaced_badge :
    let css := (badge .suspended "A").css
    let page := LivePage.start hiddenBadge
      [[], [.remove css, .add css { attributes := [("class", "ng-hide")] }]]
    let asked := (isSuspended LivePage.browser "A").run page
    (∀ d ∈ asked.2.moments, showsSuspension d "A" = false) ∧ asked.1 = .ok false := by
  intro css page asked
  have hidden : ∀ d ∈ asked.2.moments, showsSuspension d "A" = false := by decide +kernel
  refine ⟨hidden, ?_⟩
  have answer := isSuspended_of_never_shown hiddenBadge
    [[], [.remove css, .add css { attributes := [("class", "ng-hide")] }]] "A" hidden
  rw [answer]
  rfl

/-- A hidden badge that is taken away behind the first request passes for one that is
shown, though at no moment there is one. -/
theorem isSuspended_of_removed_badge :
    let page := LivePage.start hiddenBadge [[], [.remove (badge .suspended "A").css]]
    let asked := (isSuspended LivePage.browser "A").run page
    (∀ d ∈ asked.2.moments, showsSuspension d "A" = false) ∧ asked.1 = .ok true := by
  refine ⟨by decide +kernel, by rfl⟩

end Diagram
end Rehearsal
