import Rehearsal.Json.Fault

/-!
# Errors

Everything that can go wrong between reading a configuration and looking at a
page, one constructor for each cause, and the wording of each.
-/

namespace Rehearsal

/-- Why a file could not be read. -/
inductive FileFault where
  | notFound
  | isFolder
  /-- Something on the way to it is not a folder. -/
  | notFolder
  | nameTooLong
  /-- The path holds the character U+0000. -/
  | zeroInPath
  /-- The content is not UTF-8. -/
  | notText
  | other (message : String)
  deriving DecidableEq

def FileFault.message : FileFault → String
  | .notFound => "No such file or directory (os error 2)"
  | .isFolder => "Is a directory (os error 21)"
  | .notFolder => "Not a directory (os error 20)"
  | .nameTooLong => "File name too long (os error 36)"
  | .zeroInPath => "file name contained an unexpected NUL byte"
  | .notText => "stream did not contain valid UTF-8"
  | .other message => message

/-- The cause of a failure. -/
inductive Error where
  /-- The browser did not start. -/
  | browserLaunch (message : String)
  /-- The browser answered, but the page could not be used. -/
  | page (message : String)
  | navigation (url message : String)
  /-- No element matched a locator that was to be used. -/
  | elementNotFound (selector : String)
  /-- The element is there and cannot be used. -/
  | interactionFailed (selector message : String)
  | timeout (milliseconds : Nat)
  /-- A fixture file is not there. -/
  | resourceNotFound (name path : String)
  /-- The engine has no request for an action. -/
  | unsupportedOperation (resource action : String)
  | invalidPayload (resource action message : String)
  /-- The engine refused a request, with its status, or did not answer. -/
  | backend (status : Option Nat) (message : String)
  /-- A call of a scenario failed, and the calls after it were not made. -/
  | setupFailed (resource action : String) (payloadIndex : Nat) (source : Error)
  /-- Something was used in a state that does not allow it. -/
  | invalidState (message : String)
  | config (message : String)
  | file (fault : FileFault)
  | json (message : String)
  | yaml (message : String)

namespace Error

def message : Error → String
  | .browserLaunch message => s!"Failed to launch browser: {message}"
  | .page message => s!"Page error: {message}"
  | .navigation url message => s!"Navigation to {url} failed: {message}"
  | .elementNotFound selector => s!"No element matches {selector}"
  | .interactionFailed selector message => s!"Interaction with {selector} failed: {message}"
  | .timeout milliseconds => s!"Operation timed out after {milliseconds}ms"
  | .resourceNotFound name path => s!"Resource {name} not found at {path}"
  | .unsupportedOperation resource action => s!"Unsupported operation {resource}.{action}"
  | .invalidPayload resource action message =>
    s!"Invalid payload for {resource}.{action}: {message}"
  | .backend none message => s!"Backend error: {message}"
  | .backend (some status) message => s!"Backend error {status}: {message}"
  | .setupFailed resource action payloadIndex source =>
    s!"Setup failed at {resource}.{action} payload #{payloadIndex}: {source.message}"
  | .invalidState message => s!"Invalid state: {message}"
  | .config message => s!"Configuration error: {message}"
  | .file fault => s!"I/O error: {fault.message}"
  | .json message => s!"JSON error: {message}"
  | .yaml message => s!"YAML error: {message}"

/-- The texts of the causes behind an error, the nearest first. -/
def causes : Error → List String
  | .setupFailed _ _ _ source => source.message :: source.causes
  | .file fault => [fault.message]
  | .json message => [message]
  | .yaml message => [message]
  | _ => []

/-- Tells whether a call of a scenario failed. -/
def isSetupFailure : Error → Bool
  | .setupFailed .. => true
  | _ => false

/-- What is wrong with a JSON text, as an error. -/
def ofJson (fault : Json.Fault) : Error := .json fault.message

end Error
end Rehearsal
