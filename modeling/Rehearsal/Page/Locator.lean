import Rehearsal.Text.Blank
import Rehearsal.Text.Split
import Rehearsal.Time.Duration

/-!
# Locators

A locator names the elements of a page that a CSS selector matches, and says
how long to wait for them. It is a value: nothing of the page is kept in it.
-/

namespace Rehearsal

open Text

/-- How a quote or a backslash is written inside a quoted part of a selector. -/
def selectorChar (c : Char) : List Char := if c = '\\' || c = '"' then ['\\', c] else [c]

/-- The selector of the elements on which an attribute has exactly a value. -/
def attributeSelector (name value : String) : String :=
  s!"[{name}=\"{String.ofList (value.toList.flatMap selectorChar)}\"]"

/-- Tells whether a class list has a class. An element without a class list has none. -/
def hasClass (classes : Option String) (name : String) : Bool :=
  match classes with
  | none => false
  | some classes => (words isBlank classes.toList).contains name.toList

/-- What elements are selected by. -/
inductive Selector where
  | css (text : String)
  /-- The attribute for tests has this value. -/
  | testId (id : String)
  deriving DecidableEq

/-- The selector as CSS. -/
def Selector.text : Selector → String
  | .css text => text
  | .testId id => attributeSelector "data-testid" id

/-- A selector with the times of waiting for it. -/
structure Locator where
  selector : Selector
  timeout : Duration
  pollInterval : Duration
  deriving DecidableEq

namespace Locator

/-- The times of waiting when nothing else is asked for. -/
def ofSelector (selector : Selector) : Locator :=
  ⟨selector, .ofMilliseconds 5000, .ofMilliseconds 50⟩

def ofCss (text : String) : Locator := ofSelector (.css text)

/-- The selector as CSS. -/
def css (l : Locator) : String := l.selector.text

end Locator
end Rehearsal
