import Rehearsal.Page.Basic

/-!
# The process diagram

The page that shows a process as a diagram. Every activity has a shape, and
badges that count its instances and incidents or mark it as suspended. All are
found by the id of the activity.
-/

namespace Rehearsal

open Text

namespace Diagram

/-- The name of the page in logs. -/
def name : String := "diagram"

/-- The diagram below a base address. -/
def page (baseUrl : String) : Page := ⟨baseUrl, ⟨"/process-definition/:id/runtime"⟩⟩

/-- The class of a selected activity. -/
def selectedClass : String := "highlight"

/-- The class of a badge that is there and not shown. -/
def hiddenClass : String := "ng-hide"

/-- The kinds of badges. -/
inductive Badge where
  | instances
  | incidents
  | suspended
  deriving DecidableEq

/-- The tooltip by which a badge is known. -/
def Badge.tooltip : Badge → String
  | .instances => "Running Activity Instances"
  | .incidents => "Open Incidents"
  | .suspended => "Suspended Job Definition"

/-- The whole diagram. -/
def viewer : Locator := .ofCss "[cam-widget-bpmn-viewer]"

/-- A badge of an activity. -/
def badge (kind : Badge) (activity : String) : Locator :=
  .ofCss (attributeSelector "data-container-id" activity ++ " .badge" ++
    attributeSelector "uib-tooltip" kind.tooltip)

/-- The shape of an activity. -/
def shapeOf (activity : String) : Locator :=
  .ofCss ("*" ++ attributeSelector "data-element-id" activity)

variable {σ : Type}

/-- Clicks an activity. -/
def select (browser : Browser σ) (activity : String) : Session σ Unit :=
  browser.click (shapeOf activity)

/-- Clicks the diagram beside all activities. -/
def deselectAll (browser : Browser σ) : Session σ Unit := browser.click viewer

/-- Whether an activity is highlighted. -/
def isSelected (browser : Browser σ) (activity : String) : Session σ Bool := do
  return hasClass (← browser.attributeOf (shapeOf activity) "class") selectedClass

/-- Whether an activity has a badge of suspension that is shown. A badge without classes
is shown. -/
def isSuspended (browser : Browser σ) (activity : String) : Session σ Bool := do
  if (← browser.count (badge .suspended activity)) == 0 then return false
  return !hasClass (← browser.attributeOf (badge .suspended activity) "class") hiddenClass

/-- The decimal number of digits below a bound, on top of what the digits before say. -/
def number? (bound : Nat) : (before : Nat) → List Char → Option Nat
  | n, [] => some n
  | n, c :: rest =>
    if c.isDigit && n * 10 + (c.toNat - 0x30) < bound then
      number? bound (n * 10 + (c.toNat - 0x30)) rest
    else none

/-- The number on a badge: digits, perhaps after a plus sign, with blanks around. -/
def badgeNumber? (text : String) : Option Nat :=
  let digits :=
    match trim text.toList with
    | '+' :: rest => rest
    | other => other
  if digits.isEmpty then none else number? (1 <<< 64) 0 digits

/-- The number on a badge of an activity, if there is one. -/
def countOn (browser : Browser σ) (kind : Badge) (activity : String) : Session σ (Option Nat) := do
  return (← browser.text (badge kind activity)).bind badgeNumber?

def runningInstances (browser : Browser σ) (activity : String) : Session σ (Option Nat) :=
  countOn browser .instances activity

def openIncidents (browser : Browser σ) (activity : String) : Session σ (Option Nat) :=
  countOn browser .incidents activity

end Diagram
end Rehearsal
