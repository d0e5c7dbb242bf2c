import Rehearsal.Config
import Rehearsal.Files
import Rehearsal.Yaml.Typed

/-!
# Configuration files

A configuration as a YAML text, in which every field may be left out. What is
read has to be valid, whatever is done with it afterwards.
-/

namespace Rehearsal

open Yaml

/-- The options of the browser as a mapping. -/
def BrowserOptions.yamlShape : Shape BrowserOptions (Put BrowserOptions) where
  name := "BrowserConfig"
  start := default
  fields :=
    [field "headless" flag fun o headless => { o with headless },
      field "viewport_width" (unsigned 32) fun o viewportWidth => { o with viewportWidth },
      field "viewport_height" (unsigned 32) fun o viewportHeight => { o with viewportHeight },
      field "chromium_path" textUnlessNull fun o chromiumPath => { o with chromiumPath },
      field "sandbox" flag fun o sandbox => { o with sandbox }]

namespace Config

/-- A configuration as a mapping. -/
def yamlShape : Shape Config (Put Config) where
  name := "E2eConfig"
  start := default
  fields :=
    [field "app_url" text fun c appUrl => { c with appUrl },
      field "rest_url" text fun c restUrl => { c with restUrl },
      field "resources_dir" textUnlessNull fun c resourcesFolder => { c with resourcesFolder },
      field "request_timeout_ms" (unsigned 64) fun c requestTimeout => { c with requestTimeout },
      field "browser" (record BrowserOptions.yamlShape) fun c browser => { c with browser }]

/-- The configuration of a text, valid or not. A text with nothing but blanks says nothing. -/
def readYaml (s : String) : Except Error Config :=
  if isBlankText s then .ok default else (parseRecord yamlShape s.toList).mapError .yaml

/-- The configuration of a text. -/
def parseYaml (s : String) : Except Error Config := do
  let c ← readYaml s
  c.validate

/-- The configuration of a file. -/
def load (files : Files) (path : String) : Except Error Config := do
  let text ← (files.readText path).mapError .file
  parseYaml text

end Config
end Rehearsal
