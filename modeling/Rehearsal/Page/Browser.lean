import Rehearsal.Error
import Rehearsal.Page.Locator

/-!
# Browsers

What a page object asks of the browser that shows the page. Every request may
change the state behind it, and may fail. Looking at an element that is not
there is no failure; using it is.
-/

namespace Rehearsal

/-- Something done step by step with a state: the first failure ends it, and the state
is kept. -/
abbrev Session (σ : Type) := ExceptT Error (StateM σ)

namespace Session

variable {σ α β : Type}

theorem run_pure (a : α) (s : σ) : (pure a : Session σ α).run s = (.ok a, s) := rfl

theorem run_get (s : σ) : (get : Session σ σ).run s = (.ok s, s) := rfl

theorem run_modify (f : σ → σ) (s : σ) : (modify f : Session σ PUnit).run s = (.ok (), f s) := rfl

theorem run_throw (e : Error) (s : σ) : (throw e : Session σ α).run s = (.error e, s) := rfl

/-- The second step begins where the first one ended, unless that failed. -/
theorem run_bind (x : Session σ α) (f : α → Session σ β) (s : σ) :
    (x >>= f).run s =
      match x.run s with
      | (.ok a, t) => (f a).run t
      | (.error e, t) => (.error e, t) := by
  rw [ExceptT.run_bind]
  change StateT.bind x.run _ s = _
  rw [StateT.bind]
  cases x.run s with
  | mk result next => cases result <;> rfl

theorem run_ite (p : Prop) [Decidable p] (x y : Session σ α) (s : σ) :
    (if p then x else y).run s = if p then x.run s else y.run s := by
  split <;> rfl

end Session

/-- A browser with one page, over a state of its own. -/
structure Browser (σ : Type) where
  navigate : (url : String) → Session σ Unit
  currentUrl : Session σ String
  /-- How many elements match. -/
  count : Locator → Session σ Nat
  /-- An attribute of the first match. -/
  attributeOf : Locator → (name : String) → Session σ (Option String)
  /-- The text shown in the first match. -/
  text : Locator → Session σ (Option String)
  /-- Whether the first match can be seen. -/
  isDisplayed : Locator → Session σ Bool
  click : Locator → Session σ Unit
  sendKeys : Locator → (text : String) → Session σ Unit
  close : Session σ Unit
  /-- The nanoseconds since some beginning. -/
  now : σ → Nat
  /-- Lets time pass. -/
  sleep : Duration → σ → σ

namespace Browser

variable {σ : Type}

/-- Polls until a poll is positive or the time is up. The time is looked at after each
negative poll, so the last poll may end late, and a timeout of zero allows one poll. The
answer is `none` when nothing is decided after `polls` polls. -/
def waitUntil (browser : Browser σ) (poll : Session σ Bool) (timeout pollInterval : Duration)
    (start : Nat) : (polls : Nat) → Session σ (Option Unit)
  | 0 => return none
  | polls + 1 => do
    if ← poll then return some ()
    let elapsed := browser.now (← get) - start
    if timeout.nanoseconds ≤ elapsed then throw (.timeout timeout.milliseconds)
    modify (browser.sleep pollInterval)
    waitUntil browser poll timeout pollInterval start polls

/-- One poll of a wait. -/
theorem run_waitUntil_succ (browser : Browser σ) (poll : Session σ Bool)
    (timeout pollInterval : Duration) (start polls : Nat) (s : σ) :
    (browser.waitUntil poll timeout pollInterval start (polls + 1)).run s =
      match poll.run s with
      | (.ok true, t) => (.ok (some ()), t)
      | (.ok false, t) =>
        if timeout.nanoseconds ≤ browser.now t - start then
          (.error (.timeout timeout.milliseconds), t)
        else (browser.waitUntil poll timeout pollInterval start polls).run
          (browser.sleep pollInterval t)
      | (.error e, t) => (.error e, t) := by
  rw [waitUntil, Session.run_bind]
  cases poll.run s with
  | mk result t =>
    cases result with
    | error e => rfl
    | ok positive =>
      cases positive with
      | true => rfl
      | false =>
        simp only [Bool.false_eq_true, if_false, Session.run_bind, Session.run_get,
          Session.run_ite, Session.run_throw, Session.run_modify]

section

variable {browser : Browser σ} {poll : Session σ Bool} {timeout pollInterval : Duration}
variable {start : Nat} {s t : σ}

theorem run_waitUntil_of_positive (h : poll.run s = (.ok true, t)) (polls : Nat) :
    (browser.waitUntil poll timeout pollInterval start (polls + 1)).run s =
      (.ok (some ()), t) := by
  rw [run_waitUntil_succ, h]

theorem run_waitUntil_of_failed {e : Error} (h : poll.run s = (.error e, t)) (polls : Nat) :
    (browser.waitUntil poll timeout pollInterval start (polls + 1)).run s = (.error e, t) := by
  rw [run_waitUntil_succ, h]

theorem run_waitUntil_of_late (h : poll.run s = (.ok false, t))
    (late : timeout.nanoseconds ≤ browser.now t - start) (polls : Nat) :
    (browser.waitUntil poll timeout pollInterval start (polls + 1)).run s =
      (.error (.timeout timeout.milliseconds), t) := by
  simp only [run_waitUntil_succ, h, if_pos late]

theorem run_waitUntil_of_early (h : poll.run s = (.ok false, t))
    (early : ¬ timeout.nanoseconds ≤ browser.now t - start) (polls : Nat) :
    (browser.waitUntil poll timeout pollInterval start (polls + 1)).run s =
      (browser.waitUntil poll timeout pollInterval start polls).run
        (browser.sleep pollInterval t) := by
  simp only [run_waitUntil_succ, h, if_neg early]

end

/-- Waits until the first match can be seen. -/
def waitDisplayed (browser : Browser σ) (l : Locator) (polls : Nat) : Session σ (Option Unit) := do
  browser.waitUntil (browser.isDisplayed l) l.timeout l.pollInterval (browser.now (← get)) polls

/-- Waits until nothing matches. -/
def waitAbsent (browser : Browser σ) (l : Locator) (polls : Nat) : Session σ (Option Unit) := do
  let isAbsent := do return (← browser.count l) == 0
  browser.waitUntil isAbsent l.timeout l.pollInterval (browser.now (← get)) polls

theorem run_waitDisplayed (browser : Browser σ) (l : Locator) (polls : Nat) (s : σ) :
    (browser.waitDisplayed l polls).run s =
      (browser.waitUntil (browser.isDisplayed l) l.timeout l.pollInterval (browser.now s)
        polls).run s := by
  rw [waitDisplayed, Session.run_bind, Session.run_get]

theorem run_waitAbsent (browser : Browser σ) (l : Locator) (polls : Nat) (s : σ) :
    (browser.waitAbsent l polls).run s =
      (browser.waitUntil (do return (← browser.count l) == 0) l.timeout l.pollInterval
        (browser.now s) polls).run s := by
  rw [waitAbsent, Session.run_bind, Session.run_get]

end Browser
end Rehearsal
