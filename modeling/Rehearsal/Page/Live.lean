import Rehearsal.Page.Document

/-!
# Pages that change while they are looked at

The elements of a page do not wait for somebody who asks for them. Between two
requests to the browser there may be any number of edits; a request itself is
answered at one moment. The page keeps the documents that there were, so that one
can say afterwards what was to be seen at any moment.
-/

namespace Rehearsal

/-- A change of the elements of a page. -/
inductive Edit where
  | add (css : String) (element : Element)
  | remove (css : String)
  | setAttribute (css name value : String)

/-- The selector whose element is changed. -/
def Edit.css : Edit → String
  | .add css _ => css
  | .remove css => css
  | .setAttribute css _ _ => css

namespace Document

/-- A page after a change. -/
def edit (d : Document) : Edit → Document
  | .add css element => d.add css element
  | .remove css => d.remove css
  | .setAttribute css name value => (d.setAttribute css name value).1

/-- An edit has no say in what is under other selectors. -/
theorem element?_edit_of_ne (d : Document) {e : Edit} {css : String} (other : e.css ≠ css) :
    (d.edit e).element? css = d.element? css := by
  cases e with
  | add target element =>
    rw [edit, element?_add]
    exact if_neg other
  | remove target =>
    rw [edit, element?_remove]
    exact if_neg other
  | setAttribute target name value =>
    rw [edit, setAttribute]
    cases d.element? target with
    | none => rfl
    | some element =>
      rw [element?_add]
      exact if_neg other

/-- Neither have edits one after another. -/
theorem element?_foldl_edit_of_ne (d : Document) {edits : List Edit} {css : String}
    (others : ∀ e ∈ edits, e.css ≠ css) : (edits.foldl edit d).element? css = d.element? css := by
  induction edits generalizing d with
  | nil => rfl
  | cons e edits ih =>
    obtain ⟨first, behind⟩ := List.forall_mem_cons.mp others
    rw [List.foldl_cons, ih (d.edit e) behind, element?_edit_of_ne d first]

end Document

/-- A page in memory that is edited between requests. -/
structure LivePage where
  document : Document
  /-- The edits that come before each request from now on. -/
  upcoming : List (List Edit)
  /-- The documents that there were before this one, the first first. -/
  past : List Document

namespace LivePage

/-- The page when nobody has asked for anything yet. -/
def start (document : Document) (upcoming : List (List Edit)) : LivePage :=
  ⟨document, upcoming, []⟩

/-- The documents of all moments up to now. -/
def moments (page : LivePage) : List Document := page.past ++ [page.document]

/-- The page after an edit, which is a moment of its own. -/
def edit (page : LivePage) (e : Edit) : LivePage :=
  { page with document := page.document.edit e, past := page.moments }

/-- The page when the next request gets to it. -/
def advance (page : LivePage) : LivePage :=
  { (page.upcoming.headD []).foldl edit page with upcoming := page.upcoming.tail }

/-- A request to the document of the next moment. -/
def ask {α : Type} (request : Session Document α) : Session LivePage α :=
  ExceptT.mk fun page =>
    let (result, document) := request.run page.advance.document
    (result, { page.advance with document })

/-- The page as a browser. -/
def browser : Browser LivePage where
  navigate url := ask (Document.browser.navigate url)
  currentUrl := ask Document.browser.currentUrl
  count l := ask (Document.browser.count l)
  attributeOf l name := ask (Document.browser.attributeOf l name)
  text l := ask (Document.browser.text l)
  isDisplayed l := ask (Document.browser.isDisplayed l)
  click l := ask (Document.browser.click l)
  sendKeys l text := ask (Document.browser.sendKeys l text)
  close := ask Document.browser.close
  now page := Document.browser.now page.document
  sleep length page := { page with document := Document.browser.sleep length page.document }

/-- Looking at a page changes nothing but the moment. -/
theorem run_count (page : LivePage) (l : Locator) :
    (browser.count l).run page =
      (.ok (if (page.advance.document.element? l.css).isSome then 1 else 0), page.advance) := rfl

theorem run_attributeOf (page : LivePage) (l : Locator) (name : String) :
    (browser.attributeOf l name).run page =
      (.ok ((page.advance.document.element? l.css).bind fun element =>
        Table.get? name element.attributes), page.advance) := rfl

end LivePage
end Rehearsal
