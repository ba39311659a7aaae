import CsdlHighlight.Page
import CsdlHighlight.Path
import CsdlHighlight.Toml.Document
import CsdlHighlight.Toml.Quotation

/-!
Contract: the configuration and its written form.

Owns:
- `Config` and the configuration that a directory of gists starts with;
- the document of a configuration, one line per field in a fixed order;
- the configuration of a document.

Does not own: the file in which the document is kept.
-/

namespace CsdlHighlight

structure Config where
  snippetsPath : Path
  templatePath : Option Path
  escaping : Bool
  attributionName : Text
  attributionUrl : Text
deriving DecidableEq, Repr

namespace Config

/-- The configuration for a directory of gists, everything else by default. -/
def ofSnippets (snippetsPath : Path) : Config :=
  { snippetsPath := snippetsPath
    templatePath := none
    escaping := false
    attributionName := defaultAttributionName
    attributionUrl := defaultAttributionUrl }

def renderOptions (config : Config) : RenderOptions :=
  { escaping := config.escaping
    attributionName := config.attributionName
    attributionUrl := config.attributionUrl }

/-! ## Writing -/

def line (key : String) (written : Text) : Text :=
  key.toList ++ " = ".toList ++ written ++ ['\n']

def pathLine? (key : String) (path : Path) : Option Text :=
  path.text?.map fun text => line key (Toml.quote text)

def templateLine? (config : Config) : Option Text :=
  match config.templatePath with
  | some path => pathLine? "template_path" path
  | none => some []

def plainLines (config : Config) : Text :=
  line "escape_text"
      (if config.escaping then "true".toList else "false".toList) ++
    line "attribution_name" (Toml.quote config.attributionName) ++
    line "attribution_url" (Toml.quote config.attributionUrl)

/-- The document of a configuration, unless one of its paths is no text. -/
def toToml? (config : Config) : Option Text :=
  (pathLine? "snippets_path" config.snippetsPath).bind fun snippets =>
    (templateLine? config).map fun template =>
      snippets ++ template ++ plainLines config

/-! ## Reading -/

/-- An optional text under a key; any other value is an error. -/
def textField? (pairs : Toml.Pairs) (key : String) : Option (Option Text) :=
  match pairs.find? key.toList with
  | none => some none
  | some (.text content) => some (some content)
  | some _ => none

def flagField? (pairs : Toml.Pairs) (key : String) : Option (Option Bool) :=
  match pairs.find? key.toList with
  | none => some none
  | some (.boolean value) => some (some value)
  | some _ => none

/-- The configuration of a valid document.  Only the directory of gists has to
be there; keys that are not known are passed over. -/
def ofPairs? (pairs : Toml.Pairs) : Option Config := do
  let snippets ← textField? pairs "snippets_path"
  let snippets ← snippets
  let template ← textField? pairs "template_path"
  let escaping ← flagField? pairs "escape_text"
  let name ← textField? pairs "attribution_name"
  let url ← textField? pairs "attribution_url"
  return {
    snippetsPath := Path.ofText snippets
    templatePath := template.map Path.ofText
    escaping := escaping.getD false
    attributionName := name.getD defaultAttributionName
    attributionUrl := url.getD defaultAttributionUrl }

def ofToml (document : Text) : Except Toml.ReadError Config :=
  (Toml.readDocument document).bind fun pairs =>
    Toml.ReadError.require (ofPairs? pairs)

end Config

end CsdlHighlight
