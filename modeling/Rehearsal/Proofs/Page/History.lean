import Rehearsal.Page.Live
import Rehearsal.Page.Request

/-!
# The history of a page in memory

A page in memory is edited by a test, and asked and used by page objects, in any order.
`step` says what a single deed does to the page: what it adds to the history, whether it
opens a URL, which element it may change and to what, and when it leaves everything as it was. What a
whole run leaves behind follows from that by induction on the deeds.
-/

namespace Rehearsal

/-- What an edit leaves under its selector of what it finds there. Setting an attribute changes
nothing else of an element. -/
inductive Edit.Leaves : Edit → Option Element → Option Element → Prop
  | added (css : String) (element : Element) (found : Option Element) :
      Leaves (.add css element) found (some element)
  | removed (css : String) (found : Option Element) : Leaves (.remove css) found none
  | changed (css : String) {name value : String} {element element' : Element}
      (given : Table.get? name element'.attributes = some value)
      (others : ∀ other, other ≠ name →
        Table.get? other element'.attributes = Table.get? other element.attributes)
      (rest : element' = { element with attributes := element'.attributes }) :
      Leaves (.setAttribute css name value) (some element) (some element')
  | missing (css name value : String) : Leaves (.setAttribute css name value) none none

/-- Something that is done to a page in memory. -/
inductive Deed where
  | edit (e : Edit)
  | request (r : Browser.Request)
  | waitDisplayed (l : Locator) (polls : Nat)
  | waitAbsent (l : Locator) (polls : Nat)

namespace Deed

/-- What a deed answers, unless it fails. Of the edits only setting an attribute tells
whether there was an element. -/
abbrev Answer : Deed → Type
  | .edit (.add ..) => Unit
  | .edit (.remove ..) => Unit
  | .edit (.setAttribute ..) => Bool
  | .request r => r.Answer
  | .waitDisplayed .. => Option Unit
  | .waitAbsent .. => Option Unit

/-- Does a deed. -/
def perform : (deed : Deed) → Session Document deed.Answer
  | .edit (.add css element) => modify fun d => d.add css element
  | .edit (.remove css) => modify fun d => d.remove css
  | .edit (.setAttribute css name value) => do
    let (next, found) := (← get).setAttribute css name value
    set next
    return found
  | .request r => Document.browser.ask r
  | .waitDisplayed l polls => Document.browser.waitDisplayed l polls
  | .waitAbsent l polls => Document.browser.waitAbsent l polls

/-- The URL that a deed opens. -/
def opened? : Deed → Option String
  | .request (.navigate url) => some url
  | _ => none

/-- The selector whose element a deed edits. -/
def edited? : Deed → Option String
  | .edit e => some e.css
  | _ => none

/-- The locator whose element a deed uses. -/
def used? : Deed → Option Locator
  | .request (.click l) => some l
  | .request (.sendKeys l _) => some l
  | _ => none

/-- A deed and what came of it. -/
structure Done where
  deed : Deed
  outcome : Except Error deed.Answer

namespace Done

/-- Why a deed failed, if it did. -/
def failure? (x : Done) : Option Error :=
  match x.outcome with
  | .ok _ => none
  | .error e => some e

/-- What is noted of a deed: opening a URL, closing, and the uses that worked. -/
def note? : Done → Option String
  | ⟨.request (.navigate url), _⟩ => some s!"navigate:{url}"
  | ⟨.request (.click l), .ok _⟩ => some s!"click:{l.css}"
  | ⟨.request (.sendKeys l text), .ok _⟩ => some s!"send_keys:{l.css}:{text}"
  | ⟨.request .close, _⟩ => some "close"
  | _ => none

/-- Tells whether a deed only looked, or failed, or did not find the element to edit. -/
def isIdle : Done → Bool
  | ⟨.edit (.setAttribute ..), .ok found⟩ => !found
  | ⟨.edit _, _⟩ => false
  | ⟨.request (.navigate _), _⟩ => false
  | ⟨.request (.click _), .ok _⟩ => false
  | ⟨.request (.sendKeys ..), .ok _⟩ => false
  | ⟨.request .close, _⟩ => false
  | _ => true

/-- What is told of a page: its URL to who asks for it, and whether there is an element to who
sets an attribute. -/
def Tells (d : Document) : Done → Prop
  | ⟨.request .currentUrl, outcome⟩ => outcome = .ok d.currentUrl
  | ⟨.edit (.setAttribute css _ _), outcome⟩ => outcome = .ok (d.element? css).isSome
  | _ => True

end Done

/-- What comes of using what is found under a selector: it works exactly on an element that
can be used, and fails for one of two reasons otherwise. -/
structure Uses (css : String) (found : Option Element) (failure : Option Error) : Prop where
  works : failure = none ↔ ∃ element, found = some element ∧ element.interactable = true
  notFound : failure = some (.elementNotFound css) ↔ found = none
  refused : failure = some (.interactionFailed css "element is not interactable") ↔
    ∃ element, found = some element ∧ element.interactable = false

namespace Uses

variable {css : String} {element : Element}

theorem of_interactable (h : element.interactable = true) : Uses css (some element) none where
  works := by simp [h]
  notFound := by simp
  refused := by simp [h]

theorem of_missing : Uses css none (some (.elementNotFound css)) where
  works := by simp
  notFound := by simp
  refused := by simp

theorem of_refusing (h : element.interactable = false) :
    Uses css (some element)
      (some (.interactionFailed css "element is not interactable")) where
  works := by simp [h]
  notFound := by simp
  refused := by simp [h]

end Uses

/-- What a deed may do to a page. -/
structure Step (d : Document) (x : Done) (next : Document) : Prop where
  history : next.history = d.history ++ x.note?.toList
  currentUrl : next.currentUrl = x.deed.opened?.getD d.currentUrl
  elements : ∀ css, x.deed.edited? ≠ some css → next.element? css = d.element? css
  left : ∀ e, x.deed = .edit e → e.Leaves (d.element? e.css) (next.element? e.css)
  told : x.Tells d
  idle : x.isIdle = true → next = { d with clock := next.clock }
  uses : ∀ l, x.deed.used? = some l → Uses l.css (d.element? l.css) x.failure?

end Deed

namespace Document

/-- The three ways in which an element is used. -/
theorem run_use_cases (l : Locator) (entry : String) (d : Document) :
    (∃ element, d.element? l.css = some element ∧ element.interactable = true ∧
      (use l entry).run d = (.ok (), d.note entry)) ∨
    (d.element? l.css = none ∧ (use l entry).run d = (.error (.elementNotFound l.css), d)) ∨
    ∃ element, d.element? l.css = some element ∧ element.interactable = false ∧
      (use l entry).run d =
        (.error (.interactionFailed l.css "element is not interactable"), d) := by
  rw [use, Session.run_bind, Session.run_get]
  simp only
  cases found : d.element? l.css with
  | none => exact .inr (.inl ⟨rfl, rfl⟩)
  | some element =>
    simp only
    rw [Session.run_ite]
    cases works : element.interactable with
    | true => exact .inl ⟨element, rfl, works, rfl⟩
    | false => exact .inr (.inr ⟨element, rfl, works, rfl⟩)

/-- Sleeping changes nothing but the time. -/
theorem sleep_with_clock (length : Duration) (clock : Nat) (d : Document) :
    { browser.sleep length d with clock } = { d with clock } := by
  cases d
  rfl

/-- Waiting for something that a poll only looks for takes nothing but time. -/
theorem run_waitUntil (poll : Session Document Bool) (looks : ∀ d, (poll.run d).2 = d)
    (timeout interval : Duration) (start polls : Nat) (d : Document) :
    ∃ result clock, (browser.waitUntil poll timeout interval start polls).run d =
      (result, { d with clock }) := by
  induction polls generalizing d with
  | zero => exact ⟨.ok none, d.clock, rfl⟩
  | succ polls ih =>
    have same := looks d
    cases answer : poll.run d with
    | mk outcome t =>
      rw [answer] at same
      obtain rfl : t = d := same
      cases outcome with
      | error e => exact ⟨_, t.clock, Browser.run_waitUntil_of_failed answer polls⟩
      | ok positive =>
        cases positive with
        | true => exact ⟨_, t.clock, Browser.run_waitUntil_of_positive answer polls⟩
        | false =>
          by_cases late : timeout.nanoseconds ≤ browser.now t - start
          · exact ⟨_, t.clock, Browser.run_waitUntil_of_late answer late polls⟩
          · obtain ⟨result, clock, rest⟩ := ih (browser.sleep interval t)
            rw [sleep_with_clock] at rest
            rw [Browser.run_waitUntil_of_early answer late]
            exact ⟨result, clock, rest⟩

/-- An edit in a page leaves what it does under its selector. -/
theorem leaves_edit (d : Document) (e : Edit) :
    e.Leaves (d.element? e.css) ((d.edit e).element? e.css) := by
  cases e with
  | add css element =>
    rw [edit, Edit.css, element?_add, if_pos rfl]
    exact .added css element _
  | remove css =>
    rw [edit, Edit.css, element?_remove, if_pos rfl]
    exact .removed css _
  | setAttribute css name value =>
    rw [edit, Edit.css, setAttribute]
    cases found : d.element? css with
    | none =>
      rw [found]
      exact .missing css name value
    | some element =>
      rw [element?_add, if_pos rfl]
      refine .changed css ?_ (fun other different => ?_) rfl
      · rw [Element.setAttribute, Table.get?_put, if_pos rfl]
      · rw [Element.setAttribute, Table.get?_put, if_neg different.symm]

/-- An edit changes nothing but the elements. -/
theorem edit_eq (d : Document) (e : Edit) :
    d.edit e = { d with elements := (d.edit e).elements } := by
  cases e with
  | add css element => rfl
  | remove css => rfl
  | setAttribute css name value =>
    rw [edit, setAttribute]
    cases d.element? css <;> rfl

end Document

namespace Deed

open Document

/-- A deed that leaves the page as it was, but for the time. -/
theorem Step.of_idle {d : Document} {x : Done} (clock : Nat) (noted : x.note? = none)
    (opened : x.deed.opened? = none) (unedited : x.deed.edited? = none) (told : x.Tells d)
    (uses : ∀ l, x.deed.used? = some l → Uses l.css (d.element? l.css) x.failure?) :
    Step d x { d with clock } where
  history := by
    rw [noted]
    exact (List.append_nil _).symm
  currentUrl := by
    rw [opened]
    rfl
  elements _ _ := rfl
  left e edits := by
    rw [edits] at unedited
    nomatch unedited
  told := told
  idle _ := rfl
  uses := uses

/-- A use of an element, as any deed. -/
theorem step_use {d : Document} {l : Locator} {entry : String}
    (done : Except Error Unit → Done) (used : ∀ o, (done o).deed.used? = some l)
    (opened : ∀ o, (done o).deed.opened? = none) (unedited : ∀ o, (done o).deed.edited? = none)
    (told : ∀ o, (done o).Tells d)
    (works : (done (.ok ())).failure? = none ∧ (done (.ok ())).note? = some entry ∧
      (done (.ok ())).isIdle = false)
    (fails : ∀ e, (done (.error e)).failure? = some e ∧ (done (.error e)).note? = none) :
    Step d (done ((use l entry).run d).1) ((use l entry).run d).2 := by
  have uses : ∀ o, Uses l.css (d.element? l.css) (done o).failure? →
      ∀ l', (done o).deed.used? = some l' → Uses l'.css (d.element? l'.css) (done o).failure? := by
    intro o uses l' same
    obtain rfl := Option.some.inj ((used o).symm.trans same)
    exact uses
  obtain ⟨element, found, usable, run⟩ | ⟨missing, run⟩ | ⟨element, found, unusable, run⟩ :=
    run_use_cases l entry d
  · rw [run]
    refine ⟨?_, ?_, fun _ _ => rfl, fun e edits => ?_, told _, ?_, uses _ ?_⟩
    · rw [works.2.1]
      rfl
    · rw [opened]
      rfl
    · have none := unedited (.ok ())
      rw [edits] at none
      nomatch none
    · rw [works.2.2]
      nofun
    · rw [works.1, found]
      exact .of_interactable usable
  · rw [run]
    refine Step.of_idle d.clock (fails _).2 (opened _) (unedited _) (told _) (uses _ ?_)
    rw [(fails _).1, missing]
    exact .of_missing
  · rw [run]
    refine Step.of_idle d.clock (fails _).2 (opened _) (unedited _) (told _) (uses _ ?_)
    rw [(fails _).1, found]
    exact .of_refusing unusable

theorem run_edit (d : Document) (e : Edit) : ((perform (.edit e)).run d).2 = d.edit e := by
  cases e <;> rfl

/-- Setting an attribute of nothing leaves the page as it was. -/
theorem edit_of_idle {d : Document} {e : Edit}
    (idle : Done.isIdle ⟨.edit e, ((perform (.edit e)).run d).1⟩ = true) : d.edit e = d := by
  cases e with
  | add css element => nomatch idle
  | remove css => nomatch idle
  | setAttribute css name value =>
    have answer : ((perform (.edit (.setAttribute css name value))).run d).1 =
        .ok (d.setAttribute css name value).2 := rfl
    rw [answer] at idle
    rw [Document.edit]
    unfold Document.setAttribute at idle ⊢
    cases found : d.element? css with
    | none => rfl
    | some element =>
      rw [found] at idle
      exact absurd idle Bool.false_ne_true

/-- Setting an attribute tells whether there is an element. -/
theorem tells_edit (d : Document) (e : Edit) :
    Done.Tells d ⟨.edit e, ((perform (.edit e)).run d).1⟩ := by
  cases e with
  | add css element => trivial
  | remove css => trivial
  | setAttribute css name value =>
    have answer : ((perform (.edit (.setAttribute css name value))).run d).1 =
        .ok (d.setAttribute css name value).2 := rfl
    rw [answer, Document.setAttribute]
    change Except.ok _ = Except.ok _
    cases d.element? css <;> rfl

theorem step_edit (d : Document) (e : Edit) :
    Step d ⟨.edit e, ((perform (.edit e)).run d).1⟩ ((perform (.edit e)).run d).2 := by
  rw [run_edit]
  refine ⟨?_, ?_, ?_, ?_, tells_edit d e, ?_, nofun⟩
  · rw [edit_eq]
    exact (List.append_nil _).symm
  · rw [edit_eq]
    rfl
  · intro css other
    exact d.element?_edit_of_ne fun same => other (congrArg some same)
  · intro e' same
    obtain rfl := Deed.edit.inj same
    exact leaves_edit d e
  · intro idle
    rw [edit_of_idle idle]

/-- What a single deed does. -/
theorem step (d : Document) (deed : Deed) :
    Step d ⟨deed, (deed.perform.run d).1⟩ (deed.perform.run d).2 := by
  cases deed with
  | edit e => exact step_edit d e
  | request r =>
    cases r with
    | navigate url => exact ⟨rfl, rfl, fun _ _ => rfl, nofun, trivial, nofun, nofun⟩
    | currentUrl => exact .of_idle d.clock rfl rfl rfl rfl nofun
    | count l => exact .of_idle d.clock rfl rfl rfl trivial nofun
    | attributeOf l name => exact .of_idle d.clock rfl rfl rfl trivial nofun
    | text l => exact .of_idle d.clock rfl rfl rfl trivial nofun
    | isDisplayed l => exact .of_idle d.clock rfl rfl rfl trivial nofun
    | click l =>
      exact step_use (fun o => ⟨.request (.click l), o⟩) (fun _ => rfl) (fun _ => rfl)
        (fun _ => rfl) (fun _ => trivial) ⟨rfl, rfl, rfl⟩ fun _ => ⟨rfl, rfl⟩
    | sendKeys l text =>
      exact step_use (fun o => ⟨.request (.sendKeys l text), o⟩) (fun _ => rfl) (fun _ => rfl)
        (fun _ => rfl) (fun _ => trivial) ⟨rfl, rfl, rfl⟩ fun _ => ⟨rfl, rfl⟩
    | close => exact ⟨rfl, rfl, fun _ _ => rfl, nofun, trivial, nofun, nofun⟩
  | waitDisplayed l polls =>
    rw [perform, Browser.run_waitDisplayed]
    obtain ⟨result, clock, run⟩ := run_waitUntil (browser.isDisplayed l) (fun _ => rfl)
      l.timeout l.pollInterval (browser.now d) polls d
    rw [run]
    exact .of_idle clock rfl rfl rfl trivial nofun
  | waitAbsent l polls =>
    rw [perform, Browser.run_waitAbsent]
    obtain ⟨result, clock, run⟩ := run_waitUntil (do return (← browser.count l) == 0)
      (fun _ => rfl) l.timeout l.pollInterval (browser.now d) polls d
    rw [run]
    exact .of_idle clock rfl rfl rfl trivial nofun

/-- Does one deed after another. -/
def performAll : Document → List Deed → Document × List Done
  | d, [] => (d, [])
  | d, deed :: rest =>
    let (outcome, next) := deed.perform.run d
    let (last, done) := performAll next rest
    (last, ⟨deed, outcome⟩ :: done)

theorem performAll_cons (d : Document) (deed : Deed) (rest : List Deed) :
    performAll d (deed :: rest) =
      ((performAll (deed.perform.run d).2 rest).1,
        ⟨deed, (deed.perform.run d).1⟩ :: (performAll (deed.perform.run d).2 rest).2) := rfl

/-- Every deed is done, in order. -/
theorem deeds_performAll (d : Document) (deeds : List Deed) :
    (performAll d deeds).2.map Done.deed = deeds := by
  induction deeds generalizing d with
  | nil => rfl
  | cons deed rest ih => rw [performAll_cons, List.map_cons, ih]

/-- The history grows by what is noted of each deed. -/
theorem history_performAll (d : Document) (deeds : List Deed) :
    (performAll d deeds).1.history =
      d.history ++ (performAll d deeds).2.filterMap Done.note? := by
  induction deeds generalizing d with
  | nil => exact (List.append_nil _).symm
  | cons deed rest ih =>
    rw [performAll_cons, ih, (step d deed).history, List.append_assoc]
    congr 1
    cases noted : Done.note? ⟨deed, (deed.perform.run d).1⟩ with
    | none => rw [List.filterMap_cons_none noted]; rfl
    | some entry => rw [List.filterMap_cons_some noted]; rfl

/-- The URL is that of the last deed that opened one. -/
theorem currentUrl_performAll (d : Document) (deeds : List Deed) :
    (performAll d deeds).1.currentUrl = (deeds.filterMap opened?).getLast?.getD d.currentUrl := by
  induction deeds generalizing d with
  | nil => rfl
  | cons deed rest ih =>
    rw [performAll_cons, ih, (step d deed).currentUrl]
    cases opened : deed.opened? with
    | none => rw [List.filterMap_cons_none opened]; rfl
    | some url =>
      rw [List.filterMap_cons_some opened, List.getLast?_cons]
      rfl

/-- Whatever is done to a page in memory, and in whatever order: the history is what is noted
of the deeds, one entry for each page that was opened, each use that worked and each closing;
and the URL is the last one that was opened. At every single deed an element is used exactly
if it is there and can be used, what only looks or fails leaves everything as it was, and an
edit changes nothing but the element under its selector, which it leaves as it says. -/
theorem performAll_blank (deeds : List Deed) :
    (performAll .blank deeds).2.map Done.deed = deeds ∧
      (performAll .blank deeds).1.history =
        (performAll .blank deeds).2.filterMap Done.note? ∧
      (performAll .blank deeds).1.currentUrl = (deeds.filterMap opened?).getLast?.getD "" ∧
      ∀ (d : Document) (deed : Deed),
        Step d ⟨deed, (deed.perform.run d).1⟩ (deed.perform.run d).2 :=
  ⟨deeds_performAll .blank deeds, history_performAll .blank deeds,
    currentUrl_performAll .blank deeds, step⟩

/-- A click on nothing and a look at a text leave no entry. -/
example :
    let l := Locator.ofCss "#start"
    (performAll .blank [.request (.click l), .edit (.add l.css {}), .request (.click l),
      .request (.text l), .request .close]).1.history = ["click:#start", "close"] := by decide

end Deed
end Rehearsal
