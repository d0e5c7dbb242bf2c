import Rehearsal.Json.Typed
import Rehearsal.Resource.Bundled
import Rehearsal.Text.Blank

/-!
# Configuration

Where the application and the engine are, and how the browser is started.
Every setting has a default, so that an empty file is a configuration.
-/

namespace Rehearsal

open Json Text

/-- How the browser is started. -/
structure BrowserOptions where
  headless : Bool
  viewportWidth : Nat
  viewportHeight : Nat
  /-- Where the browser is, if it is not to be looked for. -/
  chromiumPath : Option String
  sandbox : Bool
  deriving DecidableEq

/-- The configuration of an environment to test in. -/
structure Config where
  /-- The application, below which the pages are. -/
  appUrl : String
  /-- The engine, below which requests go. -/
  restUrl : String
  /-- The folder of fixture files, or the bundled one. -/
  resourcesFolder : Option String
  /-- How long to wait for an answer, in milliseconds. -/
  requestTimeout : Nat
  browser : BrowserOptions
  deriving DecidableEq

namespace BrowserOptions

def default : BrowserOptions := ⟨true, 1280, 1024, none, true⟩

def optionalText (s : Option String) : Json := s.elim .null .str

def toJson (o : BrowserOptions) : Json :=
  .obj [("headless", .bool o.headless), ("viewport_width", .int o.viewportWidth),
    ("viewport_height", .int o.viewportHeight), ("chromium_path", optionalText o.chromiumPath),
    ("sandbox", .bool o.sandbox)]

def shape : Shape BrowserOptions (Put BrowserOptions) where
  name := "BrowserConfig"
  start := default
  fields :=
    [textField "headless" .allowed (fun _ => flag) fun o headless => { o with headless },
      textField "viewport_width" .allowed (fun _ => unsigned 32 "u32") fun o viewportWidth =>
        { o with viewportWidth },
      textField "viewport_height" .allowed (fun _ => unsigned 32 "u32") fun o viewportHeight =>
        { o with viewportHeight },
      textField "chromium_path" .allowed (fun _ => Json.optional text) fun o chromiumPath =>
        { o with chromiumPath },
      textField "sandbox" .allowed (fun _ => flag) fun o sandbox => { o with sandbox }]

/-- The options of a JSON text. -/
def parse (input : String) : Except Fault BrowserOptions :=
  document (record shape maxDepth) input.toList

end BrowserOptions

namespace Config

/-- An application and an engine on this machine. -/
def default : Config where
  appUrl := "http://localhost:8080/operaton/app/cockpit/default/"
  restUrl := "http://localhost:8080/engine-rest"
  resourcesFolder := none
  requestTimeout := 30000
  browser := .default

/-- The folder from which scenarios take their files. -/
def resources (c : Config) : ResourceFolder :=
  c.resourcesFolder.elim ResourceFolder.bundled ResourceFolder.mk

/-- Holds of a text with nothing but blanks in it. -/
def isBlankText (s : String) : Bool := isAllBlank s.toList

/-- A configuration has an engine and waits for it. -/
def validate (c : Config) : Except Error Config :=
  if isBlankText c.restUrl then .error (.config "rest_url must not be empty")
  else if c.requestTimeout = 0 then .error (.config "request_timeout_ms must be positive")
  else .ok c

def toJson (c : Config) : Json :=
  .obj [("app_url", .str c.appUrl), ("rest_url", .str c.restUrl),
    ("resources_dir", BrowserOptions.optionalText c.resourcesFolder),
    ("request_timeout_ms", .int c.requestTimeout), ("browser", c.browser.toJson)]

def shape : Shape Config (Put Config) where
  name := "E2eConfig"
  start := default
  fields :=
    [textField "app_url" .allowed (fun _ => text) fun c appUrl => { c with appUrl },
      textField "rest_url" .allowed (fun _ => text) fun c restUrl => { c with restUrl },
      textField "resources_dir" .allowed (fun _ => Json.optional path) fun c resourcesFolder =>
        { c with resourcesFolder },
      textField "request_timeout_ms" .allowed (fun _ => unsigned 64 "u64") fun c requestTimeout =>
        { c with requestTimeout },
      textField "browser" .allowed (record BrowserOptions.shape) fun c browser =>
        { c with browser }]

/-- The configuration of a JSON text, whether or not it is valid. -/
def parseJson (input : String) : Except Fault Config :=
  document (record shape maxDepth) input.toList

end Config
end Rehearsal
