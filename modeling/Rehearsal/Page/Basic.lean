import Rehearsal.Page.Browser
import Rehearsal.Page.Route

/-!
# Pages

A page of the application: where the application is, and which routes show the
page.
-/

namespace Rehearsal

/-- A page below a base address. -/
structure Page where
  baseUrl : String
  pattern : RoutePattern

namespace Page

variable {σ : Type}

/-- Opens a route below the base address. -/
def navigateTo (page : Page) (browser : Browser σ) (route : String) : Session σ Unit :=
  browser.navigate (Route.join page.baseUrl route)

/-- Whether the browser shows the page. -/
def isActive (page : Page) (browser : Browser σ) : Session σ Bool := do
  return page.pattern.isMatch (Route.ofUrl (← browser.currentUrl))

end Page
end Rehearsal
