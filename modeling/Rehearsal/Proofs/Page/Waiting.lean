import Mathlib.Algebra.Order.Floor.Div
import Rehearsal.Page.Document
import Rehearsal.Page.Request

/-!
# Waiting

A wait polls its browser until a poll decides it, and sleeps between two polls. The polls
that it would make if none decided are a sequence: `pollStart` and `pollEnd` are the states
in which they begin and end, `verdict` is what they say, `elapsed` when they end. What a wait
comes to is read off from that sequence: `run_of_goes` and `run_of_decides` say what it has
done before and behind the first poll that decides, and `answers_iff` puts them together.
-/

namespace Rehearsal

namespace Browser

/-- What is waited for. -/
inductive Awaited where
  | displayed
  | absent

namespace Awaited

/-- The request of a poll. -/
def request : Awaited → Locator → Request
  | .displayed, l => .isDisplayed l
  | .absent, l => .count l

/-- Whether an answer is the one that is waited for. -/
def isMet : (awaited : Awaited) → (l : Locator) → (awaited.request l).Answer → Bool
  | .displayed, _ => fun seen : Bool => seen
  | .absent, _ => fun count : Nat => count == 0

variable {σ : Type}

/-- Waits. -/
def wait (browser : Browser σ) (l : Locator) (polls : Nat) :
    Awaited → Session σ (Option Unit)
  | .displayed => browser.waitDisplayed l polls
  | .absent => browser.waitAbsent l polls

/-- Polls once. -/
def poll (browser : Browser σ) (l : Locator) : Awaited → Session σ Bool
  | .displayed => browser.isDisplayed l
  | .absent => do return (← browser.count l) == 0

/-- A poll is one request, and says whether its answer is the one that is waited for. -/
theorem run_poll (browser : Browser σ) (l : Locator) (awaited : Awaited) (s : σ) :
    (awaited.poll browser l).run s =
      (((browser.ask (awaited.request l)).run s).1.map (awaited.isMet l),
        ((browser.ask (awaited.request l)).run s).2) := by
  cases awaited with
  | displayed =>
    have same : ∀ o : Except Error Bool, o.map (fun seen => seen) = o := by
      intro o
      cases o <;> rfl
    exact Prod.ext (same ((browser.isDisplayed l).run s).1).symm rfl
  | absent =>
    rw [poll, Session.run_bind]
    change _ = (((browser.count l).run s).1.map (· == 0), ((browser.count l).run s).2)
    cases (browser.count l).run s with
    | mk outcome t => cases outcome <;> rfl

theorem run_poll_watched (browser : Browser σ) (l : Locator) (awaited : Awaited) (s : σ)
    (events : List Event) :
    (awaited.poll browser.watched l).run (s, events) =
      (((awaited.poll browser l).run s).1, ((awaited.poll browser l).run s).2,
        events ++ [.asked ⟨awaited.request l, ((browser.ask (awaited.request l)).run s).1⟩]) := by
  rw [run_poll, run_poll, run_ask_watched]

theorem run_wait (browser : Browser σ) (l : Locator) (awaited : Awaited) (polls : Nat) (s : σ) :
    (awaited.wait browser l polls).run s =
      (browser.waitUntil (awaited.poll browser l) l.timeout l.pollInterval (browser.now s)
        polls).run s := by
  cases awaited with
  | displayed => exact run_waitDisplayed browser l polls s
  | absent => exact run_waitAbsent browser l polls s

/-- A wait over a browser that is watched comes to the same, in the same state. -/
theorem run_waitUntil_watched (browser : Browser σ) (l : Locator) (awaited : Awaited)
    (start polls : Nat) (s : σ) (events : List Event) :
    ∃ more, (browser.watched.waitUntil (awaited.poll browser.watched l) l.timeout
        l.pollInterval start polls).run (s, events) =
      (((browser.waitUntil (awaited.poll browser l) l.timeout l.pollInterval start polls).run s).1,
        ((browser.waitUntil (awaited.poll browser l) l.timeout l.pollInterval start polls).run s).2,
        more) := by
  induction polls generalizing s events with
  | zero => exact ⟨events, rfl⟩
  | succ polls ih =>
    have watched := run_poll_watched browser l awaited s events
    rw [run_waitUntil_succ, run_waitUntil_succ, watched]
    cases (awaited.poll browser l).run s with
    | mk verdict t =>
      cases verdict with
      | error e => exact ⟨_, rfl⟩
      | ok positive =>
        cases positive with
        | true => exact ⟨_, rfl⟩
        | false =>
          by_cases late : l.timeout.nanoseconds ≤ browser.now t - start
          · simp only [if_pos late]
            exact ⟨_, if_pos late⟩
          · simp only [if_neg late]
            obtain ⟨more, rest⟩ := ih (browser.sleep l.pollInterval t) _
            exact ⟨more, (if_neg late).trans rest⟩

end Awaited

/-- A wait over a browser, from a state on. -/
structure Wait (σ : Type) where
  browser : Browser σ
  awaited : Awaited
  locator : Locator
  start : σ

namespace Wait

variable {σ : Type} (w : Wait σ)

/-- The state in which a poll begins, the first one being number 0, if none before it is the
last. -/
def pollStart : Nat → σ
  | 0 => w.start
  | k + 1 =>
    w.browser.sleep w.locator.pollInterval
      ((w.browser.ask (w.awaited.request w.locator)).run (pollStart k)).2

/-- The state in which a poll ends. -/
def pollEnd (k : Nat) : σ :=
  ((w.browser.ask (w.awaited.request w.locator)).run (w.pollStart k)).2

/-- The request of a poll and what came of it. -/
def exchange (k : Nat) : Exchange :=
  ⟨w.awaited.request w.locator,
    ((w.browser.ask (w.awaited.request w.locator)).run (w.pollStart k)).1⟩

/-- What a poll said: whether it is positive, or why it failed. -/
def verdict (k : Nat) : Except Error Bool :=
  ((w.browser.ask (w.awaited.request w.locator)).run (w.pollStart k)).1.map
    (w.awaited.isMet w.locator)

/-- The nanoseconds from the beginning of the wait to the end of a poll. -/
def elapsed (k : Nat) : Nat := w.browser.now (w.pollEnd k) - w.browser.now w.start

/-- What is done before a poll: all polls before it, and a sleep behind each of them. -/
def eventsBefore (k : Nat) : List Event :=
  (List.range k).flatMap fun i => [.asked (w.exchange i), .slept w.locator.pollInterval]

/-- What is done up to the end of a poll. -/
def events (k : Nat) : List Event := w.eventsBefore k ++ [.asked (w.exchange k)]

/-- What the wait comes to after so many polls at most, the state that it leaves behind, and
all that was done. -/
def run (polls : Nat) : Except Error (Option Unit) × σ × List Event :=
  (w.awaited.wait w.browser.watched w.locator polls).run (w.start, [])

/-- A poll that decides nothing: it is negative and ends in time. -/
def Goes (k : Nat) : Prop :=
  w.verdict k = .ok false ∧ w.elapsed k < w.locator.timeout.nanoseconds

/-- A poll that decides what the wait comes to, if none before it does. -/
inductive Decides (k : Nat) : Except Error Unit → Prop
  | positive (said : w.verdict k = .ok true) : Decides k (.ok ())
  | failed {e : Error} (said : w.verdict k = .error e) : Decides k (.error e)
  | late (said : w.verdict k = .ok false)
      (ends : w.locator.timeout.nanoseconds ≤ w.elapsed k) :
      Decides k (.error (.timeout w.locator.timeout.milliseconds))

/-- The wait comes to a result at a poll: not before, however many polls it may make, and
then with that poll as the last one. -/
def Answers (k : Nat) (result : Except Error Unit) : Prop :=
  (∀ polls ≤ k, (w.run polls).1 = .ok none) ∧
    ∀ polls, k < polls → w.run polls = (result.map some, w.pollEnd k, w.events k)

/-- What a wait comes to from a poll on, with so many polls left. -/
def rest (k polls : Nat) : Except Error (Option Unit) × σ × List Event :=
  (w.browser.watched.waitUntil (w.awaited.poll w.browser.watched w.locator) w.locator.timeout
    w.locator.pollInterval (w.browser.now w.start) polls).run (w.pollStart k, w.eventsBefore k)

theorem run_poll (k : Nat) :
    (w.awaited.poll w.browser.watched w.locator).run (w.pollStart k, w.eventsBefore k) =
      (w.verdict k, w.pollEnd k, w.events k) := by
  rw [Awaited.run_poll_watched, Awaited.run_poll]
  rfl

theorem run_eq_rest (polls : Nat) : w.run polls = w.rest 0 polls :=
  Awaited.run_wait w.browser.watched w.locator w.awaited polls (w.start, [])

/-- Watching a wait changes nothing of it. -/
theorem run_unwatched (polls : Nat) : (w.awaited.wait w.browser w.locator polls).run w.start =
    ((w.run polls).1, (w.run polls).2.1) := by
  obtain ⟨events, same⟩ := Awaited.run_waitUntil_watched w.browser w.locator w.awaited
    (w.browser.now w.start) polls w.start []
  have run : w.run polls = _ := (Awaited.run_wait ..).trans same
  rw [run, Awaited.run_wait]
  rfl

variable {w} {k : Nat}

theorem eventsBefore_succ : w.eventsBefore (k + 1) =
    w.eventsBefore k ++ [.asked (w.exchange k), .slept w.locator.pollInterval] := by
  rw [eventsBefore, List.range_succ, List.flatMap_append, List.flatMap_singleton]
  rfl

/-- Behind a poll that decides nothing comes a sleep, and the next poll. -/
theorem rest_of_goes (goes : w.Goes k) (polls : Nat) :
    w.rest k (polls + 1) = w.rest (k + 1) polls := by
  have early : ¬ w.locator.timeout.nanoseconds ≤ w.elapsed k := Nat.not_le.mpr goes.2
  have poll := w.run_poll k
  rw [goes.1] at poll
  rw [rest, run_waitUntil_of_early poll early, rest, eventsBefore_succ]
  change (waitUntil _ _ _ _ _ _).run (_, (_ ++ [_]) ++ [_]) = _
  rw [List.append_assoc]
  rfl

/-- Behind a poll that decides comes nothing. -/
theorem rest_of_decides {result : Except Error Unit} (decides : w.Decides k result)
    (polls : Nat) : w.rest k (polls + 1) = (result.map some, w.pollEnd k, w.events k) := by
  have poll := w.run_poll k
  cases decides with
  | positive said =>
    rw [said] at poll
    exact run_waitUntil_of_positive poll polls
  | failed said =>
    rw [said] at poll
    exact run_waitUntil_of_failed poll polls
  | late said ends =>
    rw [said] at poll
    exact run_waitUntil_of_late poll ends polls

/-- A poll goes on or decides. -/
theorem goes_or_decides (w : Wait σ) (k : Nat) : w.Goes k ∨ ∃ result, w.Decides k result := by
  cases said : w.verdict k with
  | error e => exact .inr ⟨_, .failed said⟩
  | ok positive =>
    cases positive with
    | true => exact .inr ⟨_, .positive said⟩
    | false =>
      obtain early | late := Nat.lt_or_ge (w.elapsed k) w.locator.timeout.nanoseconds
      · exact .inl ⟨said, early⟩
      · exact .inr ⟨_, .late said late⟩

theorem Decides.not_goes {result : Except Error Unit} (decides : w.Decides k result) :
    ¬ w.Goes k := by
  intro goes
  cases decides with
  | positive said => nomatch said.symm.trans goes.1
  | failed said => nomatch said.symm.trans goes.1
  | late said ends => exact Nat.not_lt.mpr ends goes.2

/-- The polls that decide nothing are made one after another. -/
theorem run_eq_rest_of_goes (goes : ∀ i < k, w.Goes i) (polls : Nat) :
    w.run (k + polls) = w.rest k polls := by
  induction k generalizing polls with
  | zero => rw [Nat.zero_add, run_eq_rest]
  | succ k ih =>
    have before : ∀ i < k, w.Goes i := fun i less => goes i (Nat.lt_succ_of_lt less)
    rw [Nat.add_right_comm, Nat.add_assoc, ih before (polls + 1),
      rest_of_goes (goes k (Nat.lt_succ_self k))]

/-- A wait that may make no more polls than those that decide nothing has come to nothing. -/
theorem run_of_goes (goes : ∀ i < k, w.Goes i) :
    w.run k = (.ok none, w.pollStart k, w.eventsBefore k) :=
  run_eq_rest_of_goes goes 0

/-- The first poll that decides is the last one. -/
theorem run_of_decides (goes : ∀ i < k, w.Goes i) {result : Except Error Unit}
    (decides : w.Decides k result) {polls : Nat} (enough : k < polls) :
    w.run polls = (result.map some, w.pollEnd k, w.events k) := by
  obtain ⟨more, rfl⟩ : ∃ more, polls = k + (more + 1) := Nat.exists_eq_add_of_lt enough
  rw [run_eq_rest_of_goes goes, rest_of_decides decides]

/-- A wait comes to a result exactly at the first poll that decides. -/
theorem answers_iff {result : Except Error Unit} :
    w.Answers k result ↔ (∀ i < k, w.Goes i) ∧ w.Decides k result := by
  have decided : ∀ r : Except Error Unit, r.map some ≠ .ok none := by
    intro r
    cases r <;> exact nofun
  constructor
  · rintro ⟨undecided, answer⟩
    have goes : ∀ i < k, w.Goes i := by
      intro i
      induction i using Nat.strongRecOn with
      | ind i ih =>
        intro less
        obtain goes | ⟨other, decides⟩ := w.goes_or_decides i
        · exact goes
        · have before : ∀ j < i, w.Goes j := fun j lower => ih j lower (lower.trans less)
          have none := undecided (i + 1) less
          rw [run_of_decides before decides (Nat.lt_succ_self i)] at none
          exact absurd none (decided other)
    have last := answer (k + 1) (Nat.lt_succ_self k)
    refine ⟨goes, ?_⟩
    obtain more | ⟨other, decides⟩ := w.goes_or_decides k
    · have through : ∀ i < k + 1, w.Goes i := by
        intro i less
        obtain before | rfl := Nat.lt_succ_iff_lt_or_eq.mp less
        · exact goes i before
        · exact more
      rw [run_of_goes through] at last
      exact absurd (congrArg Prod.fst last).symm (decided result)
    · rw [run_of_decides goes decides (Nat.lt_succ_self k)] at last
      have same : other.map some = result.map some := congrArg Prod.fst last
      cases other <;> cases result <;> cases same <;> exact decides
  · rintro ⟨goes, decides⟩
    constructor
    · intro polls few
      rw [run_of_goes fun i less => goes i (Nat.lt_of_lt_of_le less few)]
    · intro polls enough
      exact run_of_decides goes decides enough

/-- What a wait that decides at some poll comes to: what that poll says, unless the poll is
negative and the time is over. -/
theorem answers_ok_iff : w.Answers k (.ok ()) ↔ (∀ i < k, w.Goes i) ∧ w.verdict k = .ok true := by
  rw [answers_iff]
  constructor
  · rintro ⟨goes, decides⟩
    cases decides with
    | positive said => exact ⟨goes, said⟩
  · rintro ⟨goes, said⟩
    exact ⟨goes, .positive said⟩

theorem answers_error_iff {e : Error} : w.Answers k (.error e) ↔ (∀ i < k, w.Goes i) ∧
    (w.verdict k = .error e ∨
      w.verdict k = .ok false ∧ w.locator.timeout.nanoseconds ≤ w.elapsed k ∧
        e = .timeout w.locator.timeout.milliseconds) := by
  rw [answers_iff]
  constructor
  · rintro ⟨goes, decides⟩
    cases decides with
    | failed said => exact ⟨goes, .inl said⟩
    | late said ends => exact ⟨goes, .inr ⟨said, ends, rfl⟩⟩
  · rintro ⟨goes, said | ⟨said, ends, rfl⟩⟩
    · exact ⟨goes, .failed said⟩
    · exact ⟨goes, .late said ends⟩

/-- A wait comes to a result, or goes on as long as it may. -/
theorem answers_or_goes (w : Wait σ) :
    (∃ k result, w.Answers k result) ∨
      ∀ k, w.Goes k ∧ w.run k = (.ok none, w.pollStart k, w.eventsBefore k) := by
  by_cases goes : ∀ k, w.Goes k
  · exact .inr fun k => ⟨goes k, run_of_goes fun i _ => goes i⟩
  · left
    -- the first poll that does not go on decides
    obtain ⟨k, last, before⟩ : ∃ k, ¬ w.Goes k ∧ ∀ i < k, w.Goes i := by
      classical
      have some_last := not_forall.mp goes
      exact ⟨Nat.find some_last, Nat.find_spec some_last, fun i less =>
        not_not.mp (Nat.find_min some_last less)⟩
    obtain more | ⟨result, decides⟩ := w.goes_or_decides k
    · exact absurd more last
    · exact ⟨k, result, answers_iff.mpr ⟨before, decides⟩⟩

variable (w) in
/-- Polls take no time, and sleeps take what they are told to. -/
structure Punctual : Prop where
  polls : ∀ k, w.browser.now (w.pollEnd k) = w.browser.now (w.pollStart k)
  sleeps : ∀ k, w.browser.now (w.pollStart (k + 1)) =
    w.browser.now (w.pollEnd k) + w.locator.pollInterval.nanoseconds

variable (w) in
/-- The number of the poll with which the time is over, if polls take no time. -/
def lastPoll : Nat := w.locator.timeout.nanoseconds ⌈/⌉ w.locator.pollInterval.nanoseconds

namespace Punctual

variable (punctual : w.Punctual)

include punctual

theorem now_pollStart (k : Nat) : w.browser.now (w.pollStart k) =
    w.browser.now w.start + w.locator.pollInterval.nanoseconds * k := by
  induction k with
  | zero => rfl
  | succ k ih => rw [punctual.sleeps, punctual.polls, ih, Nat.mul_succ, Nat.add_assoc]

theorem elapsed_eq (k : Nat) : w.elapsed k = w.locator.pollInterval.nanoseconds * k := by
  rw [elapsed, punctual.polls, punctual.now_pollStart]
  exact Nat.add_sub_cancel_left ..

variable (positive : 0 < w.locator.pollInterval.nanoseconds)

include positive

/-- The time is over exactly from one poll on. -/
theorem lastPoll_le_iff {k : Nat} :
    w.lastPoll ≤ k ↔ w.locator.timeout.nanoseconds ≤ w.elapsed k := by
  rw [punctual.elapsed_eq, lastPoll]
  exact ceilDiv_le_iff_le_mul positive

/-- That poll ends less than an interval behind the time. -/
theorem elapsed_lastPoll_lt : w.elapsed w.lastPoll <
    w.locator.timeout.nanoseconds + w.locator.pollInterval.nanoseconds := by
  cases number : w.lastPoll with
  | zero =>
    rw [punctual.elapsed_eq, Nat.mul_zero]
    exact Nat.add_pos_right _ positive
  | succ k =>
    have early : ¬ w.lastPoll ≤ k := by
      rw [number]
      exact Nat.not_succ_le_self k
    rw [punctual.lastPoll_le_iff positive, Nat.not_le, punctual.elapsed_eq] at early
    rw [punctual.elapsed_eq, Nat.mul_succ]
    exact Nat.add_lt_add_right early _

/-- A poll before that one goes on exactly if it is negative. -/
theorem goes_iff {k : Nat} (before : k < w.lastPoll) : w.Goes k ↔ w.verdict k = .ok false := by
  have early : w.elapsed k < w.locator.timeout.nanoseconds := by
    rw [← Nat.not_le, ← punctual.lastPoll_le_iff positive]
    exact Nat.not_le.mpr before
  exact and_iff_left early

/-- A wait comes to a result with that poll at the latest, and gets that far exactly if all
polls before it are negative. -/
theorem answers : ∃ k result, w.Answers k result ∧ k ≤ w.lastPoll ∧
    (k = w.lastPoll ↔ ∀ i < w.lastPoll, w.verdict i = .ok false) ∧
    w.elapsed k < w.locator.timeout.nanoseconds + w.locator.pollInterval.nanoseconds := by
  have ended : ¬ w.Goes w.lastPoll := by
    intro goes
    exact Nat.not_le.mpr goes.2 ((punctual.lastPoll_le_iff positive).mp (Nat.le_refl _))
  obtain ⟨k, result, answers⟩ | goes := w.answers_or_goes
  · obtain ⟨goes, decides⟩ := answers_iff.mp answers
    have bound : k ≤ w.lastPoll := by
      by_contra more
      exact ended (goes w.lastPoll (Nat.not_le.mp more))
    refine ⟨k, result, answers, bound, ?_, ?_⟩
    · constructor
      · rintro rfl i less
        exact (goes i less).1
      · intro negative
        by_contra other
        have before : k < w.lastPoll := Nat.lt_of_le_of_ne bound other
        exact decides.not_goes ((punctual.goes_iff positive before).mpr (negative k before))
    · refine Nat.lt_of_le_of_lt ?_ (punctual.elapsed_lastPoll_lt positive)
      rw [punctual.elapsed_eq, punctual.elapsed_eq]
      exact Nat.mul_le_mul_left _ bound
  · exact absurd (goes w.lastPoll).1 ended

end Punctual

/-- How waits end, for every browser, whatever passes of time. A wait succeeds at its first
positive poll and fails like its first failing one, unless a poll before it ended with the
time over; that poll is the last one then, and the wait times out. There is one sleep between
two polls and nothing behind the last one. With polls that take no time and sleeps as long as
they should be, the number of polls is known beforehand, but for polls that decide early. -/
theorem wait_decided (w : Wait σ) :
    (∀ polls, (w.awaited.wait w.browser w.locator polls).run w.start =
        ((w.run polls).1, (w.run polls).2.1)) ∧
      (∀ k, w.Answers k (.ok ()) ↔ (∀ i < k, w.Goes i) ∧ w.verdict k = .ok true) ∧
      (∀ k e, w.Answers k (.error e) ↔ (∀ i < k, w.Goes i) ∧
        (w.verdict k = .error e ∨
          w.verdict k = .ok false ∧ w.locator.timeout.nanoseconds ≤ w.elapsed k ∧
            e = .timeout w.locator.timeout.milliseconds)) ∧
      (w.locator.timeout.nanoseconds < UInt64.size * 1000000 →
        w.locator.timeout.milliseconds = w.locator.timeout.nanoseconds / 1000000) ∧
      ((∃ k result, w.Answers k result) ∨
        ∀ k, w.Goes k ∧ w.run k = (.ok none, w.pollStart k, w.eventsBefore k)) ∧
      (0 < w.locator.pollInterval.nanoseconds → w.Punctual →
        ∃ k result, w.Answers k result ∧ k ≤ w.lastPoll ∧
          (k = w.lastPoll ↔ ∀ i < w.lastPoll, w.verdict i = .ok false) ∧
          w.elapsed k <
            w.locator.timeout.nanoseconds + w.locator.pollInterval.nanoseconds) := by
  refine ⟨w.run_unwatched, ?_, ?_, Duration.milliseconds_of_lt, w.answers_or_goes, ?_⟩
  · intro k
    exact answers_ok_iff
  · intro k e
    exact answers_error_iff
  · intro positive punctual
    exact punctual.answers positive

/-- Of a timeout that is no multiple of the interval, and an element that stays hidden. -/
theorem wait_of_hidden :
    let d := Document.blank.add "#x" { displayed := false }
    let l : Locator := ⟨.css "#x", .ofMilliseconds 25, .ofMilliseconds 10⟩
    let w : Wait Document := ⟨Document.browser, .displayed, l, d⟩
    (0 < l.pollInterval.nanoseconds ∧ w.Punctual) ∧
      (∃ result, w.Answers 3 result) ∧ w.Answers 3 (.error (.timeout 25)) ∧
      w.elapsed 3 = 30000000 := by
  intro d l w
  have punctual : w.Punctual :=
    ⟨fun _ => rfl, fun k => Document.now_sleep_ofMilliseconds (by decide) (w.pollEnd k)⟩
  have negative : ∀ i < 3, w.Goes i := by
    intro i less
    match i, less with
    | 0, _ => exact ⟨rfl, by decide⟩
    | 1, _ => exact ⟨rfl, by decide⟩
    | 2, _ => exact ⟨rfl, by decide⟩
  obtain ⟨-, -, fails, -, -, ends⟩ := w.wait_decided
  obtain ⟨k, result, answers, -, last, -⟩ := ends (by decide) punctual
  have number : w.lastPoll = 3 := by decide
  rw [number] at last
  obtain rfl := last.mpr fun i less => (negative i less).1
  refine ⟨⟨by decide, punctual⟩, ⟨result, answers⟩, ?_, by decide⟩
  have told : l.timeout.milliseconds = 25 := by decide
  exact (fails 3 (.timeout 25)).mpr
    ⟨negative, .inr ⟨rfl, by decide, congrArg Error.timeout told.symm⟩⟩

/-- A poll that fails is not positive, and is the last one all the same. It may fail with a
timeout of its own before the time of the wait is over. And a timeout of so many milliseconds
that 64 bits do not hold them is told as another one. -/
theorem wait_of_failing_poll :
    let l : Locator := ⟨.css "#x", .ofMilliseconds 10, .ofMilliseconds 10⟩
    let failing : Browser Nat :=
      answering (fun _ => throw (.timeout 10)) id fun length s => s + length.nanoseconds
    let w : Wait Nat := ⟨failing, .displayed, l, 0⟩
    let overlong : Locator := ⟨.css "#x", .ofMilliseconds UInt64.size, .ofMilliseconds 10⟩
    let slow : Browser Nat :=
      { failing with isDisplayed := fun _ => do
          modify (· + UInt64.size * 1000000)
          return false }
    (0 < l.pollInterval.nanoseconds ∧ w.Punctual ∧ (∀ k, w.verdict k ≠ .ok true) ∧
      w.lastPoll = 1 ∧ w.elapsed 0 < l.timeout.nanoseconds ∧
      w.Answers 0 (.error (.timeout 10))) ∧
    Wait.Answers ⟨slow, .displayed, overlong, 0⟩ 0 (.error (.timeout 0)) := by
  intro l failing w overlong slow
  have exact_sleep : ∀ length s,
      failing.now (failing.sleep length s) = failing.now s + length.nanoseconds :=
    fun _ _ => rfl
  have punctual : w.Punctual := ⟨fun _ => rfl, fun k => exact_sleep l.pollInterval (w.pollEnd k)⟩
  refine ⟨⟨by decide, punctual, fun _ => nofun, by decide, by decide, ?_⟩, ?_⟩
  · exact answers_iff.mpr ⟨nofun, .failed rfl⟩
  · have late : overlong.timeout.nanoseconds ≤ Wait.elapsed ⟨slow, .displayed, overlong, 0⟩ 0 := by
      decide
    have told : overlong.timeout.milliseconds = 0 := by decide
    exact answers_error_iff.mpr ⟨nofun, .inr ⟨rfl, late, congrArg Error.timeout told.symm⟩⟩

end Wait
end Browser
end Rehearsal
