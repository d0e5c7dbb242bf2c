import Rehearsal.Page.Browser
import Rehearsal.Table

/-!
# A page in memory

A browser without a browser: its elements are kept under the very text of their
selector, and it keeps a history of everything that was done to the page.
Questions leave no trace, and neither do uses that fail.
-/

namespace Rehearsal

/-- An element. -/
structure Element where
  attributes : List (String × String) := []
  text : Option String := none
  displayed : Bool := true
  /-- Whether it can be clicked and typed into. -/
  interactable : Bool := true

/-- Sets an attribute. -/
def Element.setAttribute (element : Element) (name value : String) : Element :=
  { element with attributes := Table.put name value element.attributes }

/-- A page in memory. -/
structure Document where
  currentUrl : String
  elements : List (String × Element)
  /-- What was done, the first first. -/
  history : List String
  /-- The time, in nanoseconds. -/
  clock : Nat

namespace Document

/-- The page before anything is done. -/
def blank : Document := ⟨"", [], [], 0⟩

/-- Adds an element, or replaces the one with its selector. -/
def add (d : Document) (css : String) (element : Element) : Document :=
  { d with elements := Table.put css element d.elements }

/-- Takes an element away. -/
def remove (d : Document) (css : String) : Document :=
  { d with elements := Table.erase css d.elements }

def element? (d : Document) (css : String) : Option Element := Table.get? css d.elements

/-- Adding changes what is under the one selector. -/
theorem element?_add (d : Document) (css other : String) (element : Element) :
    (d.add css element).element? other = if css = other then some element else d.element? other :=
  Table.get?_put css other element d.elements

/-- Removing changes what is under the one selector. -/
theorem element?_remove (d : Document) (css other : String) :
    (d.remove css).element? other = if css = other then none else d.element? other :=
  Table.get?_erase css other d.elements

/-- Sets an attribute of an element, if it is there. -/
def setAttribute (d : Document) (css name value : String) : Document × Bool :=
  match d.element? css with
  | some element => (d.add css (element.setAttribute name value), true)
  | none => (d, false)

/-- Adds to the history. -/
def note (d : Document) (entry : String) : Document := { d with history := d.history ++ [entry] }

/-- Tells whether something was done whose entry begins with a text. -/
def wasDone (d : Document) (entry : String) : Bool := d.history.any fun e => e.startsWith entry

/-- Uses an element, and notes it when that works. -/
def use (l : Locator) (entry : String) : Session Document Unit := do
  match (← get).element? l.css with
  | none => throw (.elementNotFound l.css)
  | some element =>
    if element.interactable then modify fun d => d.note entry
    else throw (.interactionFailed l.css "element is not interactable")

/-- The page as a browser. Only sleeping takes time, whole milliseconds and at least one. -/
def browser : Browser Document where
  navigate url := modify fun d => { d.note s!"navigate:{url}" with currentUrl := url }
  currentUrl := return (← get).currentUrl
  count l := return if ((← get).element? l.css).isSome then 1 else 0
  attributeOf l name :=
    return ((← get).element? l.css).bind fun element => Table.get? name element.attributes
  text l := return ((← get).element? l.css).bind Element.text
  isDisplayed l := return (((← get).element? l.css).map Element.displayed).getD false
  click l := use l s!"click:{l.css}"
  sendKeys l text := use l s!"send_keys:{l.css}:{text}"
  close := modify fun d => d.note "close"
  now d := d.clock
  sleep length d :=
    { d with clock := d.clock + max ((length.nanoseconds + 999999) / 1000000) 1 * 1000000 }

/-- Looking at a page leaves it as it is. -/
theorem run_count (d : Document) (l : Locator) :
    (browser.count l).run d = (.ok (if (d.element? l.css).isSome then 1 else 0), d) := rfl

theorem run_attributeOf (d : Document) (l : Locator) (name : String) :
    (browser.attributeOf l name).run d =
      (.ok ((d.element? l.css).bind fun element => Table.get? name element.attributes), d) := rfl

/-- Sleeps of whole milliseconds are exact. -/
theorem now_sleep_ofMilliseconds {n : Nat} (positive : 0 < n) (d : Document) :
    browser.now (browser.sleep (.ofMilliseconds n) d) =
      browser.now d + (Duration.ofMilliseconds n).nanoseconds := by
  have whole : (n * 1000000 + 999999) / 1000000 = n := by omega
  change d.clock + max ((n * 1000000 + 999999) / 1000000) 1 * 1000000 = _
  rw [whole, Nat.max_eq_left positive]
  rfl

end Document
end Rehearsal
