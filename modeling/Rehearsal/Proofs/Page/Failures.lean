import Rehearsal.Page.Diagram
import Rehearsal.Page.Request

/-!
# Failures of a browser

A page object is made of sessions over a browser, and a session ends with the first failure
of its browser. `Heeds` says so of a session that is kept a log of: the log ends with the
request that failed, and the session fails for the same reason; if no request failed, the
session comes to a result, or gives up behind a poll that was negative. It holds of single
requests, and of sessions one after another, so it holds of everything that is made of them.
-/

namespace Rehearsal

namespace Browser

/-- A request that was answered. -/
def Exchange.IsAnswered (x : Exchange) : Prop := ∃ answer, x.outcome = .ok answer

/-- What a session may come to when these requests were made. `GivesUp` says behind which
request it may give up, and with which error. -/
inductive Explains (GivesUp : Exchange → Error → Prop) {α : Type} :
    List Exchange → Except Error α → Prop where
  | result {asked : List Exchange} {a : α} (answered : ∀ x ∈ asked, x.IsAnswered) :
      Explains GivesUp asked (.ok a)
  | failure (asked : List Exchange) {r : Request} {e : Error}
      (answered : ∀ x ∈ asked, x.IsAnswered) :
      Explains GivesUp (asked ++ [⟨r, .error e⟩]) (.error e)
  | givenUp (asked : List Exchange) {x : Exchange} {e : Error}
      (answered : ∀ y ∈ asked ++ [x], y.IsAnswered) (late : GivesUp x e) :
      Explains GivesUp (asked ++ [x]) (.error e)

/-- What was asked before, and answered, explains nothing away. -/
theorem Explains.behind {GivesUp : Exchange → Error → Prop} {α : Type} {asked : List Exchange}
    {result : Except Error α} (h : Explains GivesUp asked result) {before : List Exchange}
    (answered : ∀ x ∈ before, x.IsAnswered) : Explains GivesUp (before ++ asked) result := by
  cases h with
  | result rest => exact .result (List.forall_mem_append.mpr ⟨answered, rest⟩)
  | failure asked rest =>
    rw [← List.append_assoc]
    exact .failure _ (List.forall_mem_append.mpr ⟨answered, rest⟩)
  | givenUp asked rest late =>
    rw [← List.append_assoc]
    refine .givenUp _ ?_ late
    rw [List.append_assoc]
    exact List.forall_mem_append.mpr ⟨answered, rest⟩

/-- A session over a browser, and the same session over the browser that keeps a log: it
comes to the same, and what was asked explains the result. -/
def Heeds {σ α : Type} (GivesUp : Exchange → Error → Prop) (plain : Session σ α)
    (kept : Session (σ × List Exchange) α) : Prop :=
  ∀ s log, ∃ asked,
    kept.run (s, log) = ((plain.run s).1, ((plain.run s).2, log ++ asked)) ∧
      Explains GivesUp asked (plain.run s).1

/-- A session that never gives up of its own accord. -/
def never (_ : Exchange) (_ : Error) : Prop := False

namespace Heeds

variable {σ α β : Type} {GivesUp : Exchange → Error → Prop}

theorem pure (a : α) : Heeds GivesUp (Pure.pure a : Session σ α) (Pure.pure a) := by
  intro s log
  refine ⟨[], ?_, .result nofun⟩
  rw [List.append_nil]
  rfl

theorem ask (browser : Browser σ) (r : Request) :
    Heeds GivesUp (browser.ask r) (browser.askKept r) := by
  intro s log
  refine ⟨[⟨r, ((browser.ask r).run s).1⟩], rfl, ?_⟩
  cases outcome : ((browser.ask r).run s).1 with
  | ok answer =>
    refine .result ?_
    rintro x member
    obtain rfl := List.mem_singleton.mp member
    exact ⟨answer, rfl⟩
  | error e => exact .failure [] nofun

/-- One session after another. -/
theorem bind {plain : Session σ α} {kept : Session (σ × List Exchange) α}
    {next : α → Session σ β} {next' : α → Session (σ × List Exchange) β}
    (first : Heeds never plain kept) (second : ∀ a, Heeds GivesUp (next a) (next' a)) :
    Heeds GivesUp (plain >>= next) (kept >>= next') := by
  intro s log
  obtain ⟨asked, run, explained⟩ := first s log
  rw [Session.run_bind, Session.run_bind, run]
  cases result : plain.run s with
  | mk outcome t =>
    rw [result] at explained
    cases explained with
    | result answered =>
      obtain ⟨more, rest, later⟩ := second _ t (log ++ asked)
      refine ⟨asked ++ more, ?_, later.behind answered⟩
      rw [← List.append_assoc]
      exact rest
    | failure asked answered => exact ⟨_, rfl, .failure asked answered⟩
    | givenUp asked answered late => exact late.elim

theorem ite (p : Prop) [Decidable p] {plain other : Session σ α}
    {kept kept' : Session (σ × List Exchange) α} (yes : Heeds GivesUp plain kept)
    (no : Heeds GivesUp other kept') :
    Heeds GivesUp (if p then plain else other) (if p then kept else kept') := by
  split
  · exact yes
  · exact no

end Heeds

/-- What a poll says is what its one request was answered. -/
inductive Polled (IsNegative : Exchange → Prop) : Exchange → Except Error Bool → Prop where
  | positive {x : Exchange} (answered : x.IsAnswered) : Polled IsNegative x (.ok true)
  | negative {x : Exchange} (answered : x.IsAnswered) (negative : IsNegative x) :
      Polled IsNegative x (.ok false)
  | failed {r : Request} {e : Error} : Polled IsNegative ⟨r, .error e⟩ (.error e)

variable {σ : Type}

/-- A poll of one request. -/
def PollsBy (IsNegative : Exchange → Prop) (poll : Session σ Bool)
    (kept : Session (σ × List Exchange) Bool) : Prop :=
  ∀ s log, ∃ x, kept.run (s, log) = ((poll.run s).1, ((poll.run s).2, log ++ [x])) ∧
    Polled IsNegative x (poll.run s).1

/-- A wait gives up behind a poll that was negative, when its time is over. -/
def TimesOut (IsNegative : Exchange → Prop) (timeout : Duration) (x : Exchange) (e : Error) :
    Prop :=
  IsNegative x ∧ e = .timeout timeout.milliseconds

theorem heeds_waitUntil (browser : Browser σ) {IsNegative : Exchange → Prop}
    {poll : Session σ Bool} {kept : Session (σ × List Exchange) Bool}
    (polls : PollsBy IsNegative poll kept) (timeout interval : Duration)
    (start count : Nat) :
    Heeds (TimesOut IsNegative timeout) (browser.waitUntil poll timeout interval start count)
      (browser.recorded.waitUntil kept timeout interval start count) := by
  induction count with
  | zero => exact .pure none
  | succ count ih =>
    intro s log
    obtain ⟨x, run, polled⟩ := polls s log
    cases answer : poll.run s with
    | mk outcome t =>
      rw [answer] at run polled
      cases polled with
      | positive answered =>
        rw [run_waitUntil_of_positive answer, run_waitUntil_of_positive run]
        exact ⟨[x], rfl, .result (List.forall_mem_singleton.mpr answered)⟩
      | failed =>
        rw [run_waitUntil_of_failed answer, run_waitUntil_of_failed run]
        exact ⟨_, rfl, .failure [] nofun⟩
      | negative answered negative =>
        by_cases late : timeout.nanoseconds ≤ browser.now t - start
        · rw [run_waitUntil_of_late answer late, run_waitUntil_of_late run late]
          exact ⟨[x], rfl, .givenUp [] (List.forall_mem_singleton.mpr answered) ⟨negative, rfl⟩⟩
        · rw [run_waitUntil_of_early answer late, run_waitUntil_of_early run late]
          obtain ⟨asked, rest, explained⟩ := ih (browser.sleep interval t) (log ++ [x])
          refine ⟨[x] ++ asked, ?_, explained.behind (List.forall_mem_singleton.mpr answered)⟩
          rw [← List.append_assoc]
          exact rest

theorem pollsBy_isDisplayed (browser : Browser σ) (l : Locator) :
    PollsBy (· = ⟨.isDisplayed l, .ok false⟩) (browser.isDisplayed l)
      (browser.recorded.isDisplayed l) := by
  intro s log
  refine ⟨⟨.isDisplayed l, ((browser.isDisplayed l).run s).1⟩, rfl, ?_⟩
  cases ((browser.isDisplayed l).run s).1 with
  | error e => exact .failed
  | ok displayed =>
    cases displayed with
    | true => exact .positive ⟨true, rfl⟩
    | false => exact .negative ⟨false, rfl⟩ rfl

theorem pollsBy_count (browser : Browser σ) (l : Locator) :
    PollsBy (fun x => ∃ n, n ≠ 0 ∧ x = ⟨.count l, .ok n⟩)
      (do return (← browser.count l) == 0) (do return (← browser.recorded.count l) == 0) := by
  intro s log
  have kept : (browser.recorded.count l).run (s, log) =
      (((browser.count l).run s).1, (((browser.count l).run s).2,
        log ++ [⟨.count l, ((browser.count l).run s).1⟩])) := rfl
  refine ⟨⟨.count l, ((browser.count l).run s).1⟩, ?_⟩
  rw [Session.run_bind, Session.run_bind, kept]
  cases (browser.count l).run s with
  | mk outcome t =>
    cases outcome with
    | error e => exact ⟨rfl, .failed⟩
    | ok n =>
      refine ⟨rfl, ?_⟩
      cases n with
      | zero => exact .positive ⟨0, rfl⟩
      | succ n => exact .negative ⟨n + 1, rfl⟩ ⟨n + 1, Nat.succ_ne_zero n, rfl⟩

theorem heeds_waitDisplayed (browser : Browser σ) (l : Locator) (polls : Nat) :
    Heeds (TimesOut (· = ⟨.isDisplayed l, .ok false⟩) l.timeout)
      (browser.waitDisplayed l polls) (browser.recorded.waitDisplayed l polls) := by
  intro s log
  rw [run_waitDisplayed, run_waitDisplayed]
  exact heeds_waitUntil browser (pollsBy_isDisplayed browser l) l.timeout l.pollInterval
    (browser.now s) polls s log

theorem heeds_waitAbsent (browser : Browser σ) (l : Locator) (polls : Nat) :
    Heeds (TimesOut (fun x => ∃ n, n ≠ 0 ∧ x = ⟨.count l, .ok n⟩) l.timeout)
      (browser.waitAbsent l polls) (browser.recorded.waitAbsent l polls) := by
  intro s log
  rw [run_waitAbsent, run_waitAbsent]
  exact heeds_waitUntil browser (pollsBy_count browser l) l.timeout l.pollInterval
    (browser.now s) polls s log

end Browser

open Browser

variable {σ : Type} (browser : Browser σ)

theorem Page.heeds_isActive (page : Page) :
    Heeds never (page.isActive browser) (page.isActive browser.recorded) :=
  .bind (.ask browser .currentUrl) fun _ => .pure _

namespace Diagram

theorem heeds_isSelected (activity : String) :
    Heeds never (isSelected browser activity) (isSelected browser.recorded activity) :=
  .bind (.ask browser (.attributeOf (shapeOf activity) "class")) fun _ => .pure _

/-- The question that is made of two requests, of which the second may be left out. -/
theorem heeds_isSuspended (activity : String) :
    Heeds never (isSuspended browser activity) (isSuspended browser.recorded activity) := by
  refine .bind (.ask browser (.count (badge .suspended activity))) fun n => ?_
  refine .ite _ (.pure false) ?_
  exact .bind (.ask browser (.attributeOf (badge .suspended activity) "class")) fun _ => .pure _

theorem heeds_countOn (kind : Badge) (activity : String) :
    Heeds never (countOn browser kind activity) (countOn browser.recorded kind activity) :=
  .bind (.ask browser (.text (badge kind activity))) fun _ => .pure _

/-- No page object hides a failure of its browser. Whatever it does, it makes one request
after another, and a request that fails is the last one and fails what was done for the same
reason. If no request fails, there is a result; only a wait may time out, behind a poll that
was negative. A wait that is cut short after so many polls has no failure behind it either. -/
theorem failures_come_through (page : Page) (route activity : String) (l : Locator)
    (polls : Nat) :
    Heeds never (page.navigateTo browser route) (page.navigateTo browser.recorded route) ∧
      Heeds never (page.isActive browser) (page.isActive browser.recorded) ∧
      Heeds (TimesOut (· = ⟨.isDisplayed l, .ok false⟩) l.timeout)
        (browser.waitDisplayed l polls) (browser.recorded.waitDisplayed l polls) ∧
      Heeds (TimesOut (fun x => ∃ n, n ≠ 0 ∧ x = ⟨.count l, .ok n⟩) l.timeout)
        (browser.waitAbsent l polls) (browser.recorded.waitAbsent l polls) ∧
      Heeds never (select browser activity) (select browser.recorded activity) ∧
      Heeds never (deselectAll browser) (deselectAll browser.recorded) ∧
      Heeds never (isSelected browser activity) (isSelected browser.recorded activity) ∧
      Heeds never (isSuspended browser activity) (isSuspended browser.recorded activity) ∧
      Heeds never (runningInstances browser activity)
        (runningInstances browser.recorded activity) ∧
      Heeds never (openIncidents browser activity) (openIncidents browser.recorded activity) := by
  refine ⟨?_, page.heeds_isActive browser, heeds_waitDisplayed browser l polls,
    heeds_waitAbsent browser l polls, ?_, ?_, heeds_isSelected browser activity,
    heeds_isSuspended browser activity, ?_, ?_⟩
  · exact .ask browser (.navigate (Route.join page.baseUrl route))
  · exact .ask browser (.click (shapeOf activity))
  · exact .ask browser (.click viewer)
  · exact heeds_countOn browser .instances activity
  · exact heeds_countOn browser .incidents activity

end Diagram
end Rehearsal
