import Rehearsal.Page.Browser

/-!
# Requests to browsers

What a session asks of its browser, as data: so that one can keep what was asked, in order,
and what came of it.
-/

namespace Rehearsal

namespace Browser

/-- Something that a browser is asked for. -/
inductive Request where
  | navigate (url : String)
  | currentUrl
  | count (l : Locator)
  | attributeOf (l : Locator) (name : String)
  | text (l : Locator)
  | isDisplayed (l : Locator)
  | click (l : Locator)
  | sendKeys (l : Locator) (text : String)
  | close

/-- What a request is answered with, unless it fails. -/
abbrev Request.Answer : Request → Type
  | .navigate _ => Unit
  | .currentUrl => String
  | .count _ => Nat
  | .attributeOf .. => Option String
  | .text _ => Option String
  | .isDisplayed _ => Bool
  | .click _ => Unit
  | .sendKeys .. => Unit
  | .close => Unit

/-- A request and what came of it. -/
structure Exchange where
  request : Request
  outcome : Except Error request.Answer

variable {σ : Type}

/-- Makes a request. -/
def ask (browser : Browser σ) : (r : Request) → Session σ r.Answer
  | .navigate url => browser.navigate url
  | .currentUrl => browser.currentUrl
  | .count l => browser.count l
  | .attributeOf l name => browser.attributeOf l name
  | .text l => browser.text l
  | .isDisplayed l => browser.isDisplayed l
  | .click l => browser.click l
  | .sendKeys l text => browser.sendKeys l text
  | .close => browser.close

/-- Makes a request, and keeps it with what came of it. -/
def askKept (browser : Browser σ) (r : Request) : Session (σ × List Exchange) r.Answer :=
  ExceptT.mk fun (s, log) =>
    let (outcome, next) := (browser.ask r).run s
    (outcome, (next, log ++ [⟨r, outcome⟩]))

/-- The browser that keeps every request, whatever comes of it. -/
def recorded (browser : Browser σ) : Browser (σ × List Exchange) where
  navigate url := browser.askKept (.navigate url)
  currentUrl := browser.askKept .currentUrl
  count l := browser.askKept (.count l)
  attributeOf l name := browser.askKept (.attributeOf l name)
  text l := browser.askKept (.text l)
  isDisplayed l := browser.askKept (.isDisplayed l)
  click l := browser.askKept (.click l)
  sendKeys l text := browser.askKept (.sendKeys l text)
  close := browser.askKept .close
  now s := browser.now s.1
  sleep length s := (browser.sleep length s.1, s.2)

/-- The browser that answers every request in one way. -/
def answering (answer : (r : Request) → Session σ r.Answer) (now : σ → Nat)
    (sleep : Duration → σ → σ) : Browser σ where
  navigate url := answer (.navigate url)
  currentUrl := answer .currentUrl
  count l := answer (.count l)
  attributeOf l name := answer (.attributeOf l name)
  text l := answer (.text l)
  isDisplayed l := answer (.isDisplayed l)
  click l := answer (.click l)
  sendKeys l text := answer (.sendKeys l text)
  close := answer .close
  now := now
  sleep := sleep

/-- Something that is done with a browser. -/
inductive Event where
  | asked (x : Exchange)
  | slept (length : Duration)

/-- The browser that keeps every request and every sleep, in their order. -/
def watched (browser : Browser σ) : Browser (σ × List Event) :=
  answering
    (fun r => ExceptT.mk fun (s, events) =>
      let (outcome, next) := (browser.ask r).run s
      (outcome, (next, events ++ [.asked ⟨r, outcome⟩])))
    (fun s => browser.now s.1)
    (fun length s => (browser.sleep length s.1, s.2 ++ [.slept length]))

/-- Watching a request changes nothing of it. -/
theorem run_ask_watched (browser : Browser σ) (r : Request) (s : σ) (events : List Event) :
    (browser.watched.ask r).run (s, events) = (((browser.ask r).run s).1,
      ((browser.ask r).run s).2, events ++ [.asked ⟨r, ((browser.ask r).run s).1⟩]) := by
  cases r <;> rfl

end Browser
end Rehearsal
