import CsdlHighlight.Config.Basic
import CsdlHighlight.Disk
import CsdlHighlight.PathExpansion

/-!
Contract: the file of the configuration.

Owns:
- where the file is;
- loading, which expands the two paths of the configuration;
- saving, which makes the directories on the way and writes the document last.

Does not own: what a command does without a configuration.
-/

namespace CsdlHighlight

inductive LoadError where
  | unreadable (path : Path) (failure : DiskError)
  | refused (path : Path) (reason : Toml.ReadError)
deriving DecidableEq, Repr

namespace LoadError

def cause : LoadError → Text
  | .unreadable _ failure => failure.message
  | .refused _ reason => reason.message

def message (failure : LoadError) : Text :=
  match failure with
  | .unreadable path _ =>
      "Failed to read config file at ".toList ++ path.display ++
        ": ".toList ++ failure.cause
  | .refused path _ =>
      "Failed to parse config file at ".toList ++ path.display ++
        ": ".toList ++ failure.cause

end LoadError

inductive SaveError where
  | disk (failure : DiskError)
  | pathNotUtf8
deriving DecidableEq, Repr

namespace SaveError

def message : SaveError → Text
  | .disk failure => failure.message
  | .pathNotUtf8 => "path contains invalid UTF-8 characters".toList

end SaveError

namespace Config

def defaultPath (environment : Environment) : Path :=
  (Path.ofText
    (PathExpansion.expandHome environment "~/.config/csdl-embed".toList)).join
      (Utf8.encode "config.toml".toList)

/-- Expand both paths of a configuration.  One that cannot be expanded stays as
it is written. -/
def expandPaths (environment : Environment) (config : Config) : Config :=
  { config with
    snippetsPath := PathExpansion.expandPath environment config.snippetsPath
    templatePath :=
      config.templatePath.map (PathExpansion.expandPath environment) }

variable {m : Type → Type} [Monad m]

/-- Load a configuration.  There is none when the file is missing. -/
def load (disk : DiskReader m) (environment : Environment) (path : Path) :
    m (Except LoadError (Option Config)) := do
  if ← disk.present path then
    match ← disk.readText path with
    | .error failure => return .error (.unreadable path failure)
    | .ok document =>
        match ofToml document with
        | .ok config => return .ok (some (config.expandPaths environment))
        | .error reason => return .error (.refused path reason)
  else
    return .ok none

def createParents (disk : DiskWriter m) (path : Path) :
    m (Except DiskError Unit) :=
  match path.parent? with
  | some parent => disk.createDirectories parent
  | none => return .ok ()

/-- Save a configuration.  Nothing is written before its whole document is
there. -/
def save (disk : DiskWriter m) (path : Path) (config : Config) :
    m (Except SaveError Unit) := do
  match ← createParents disk path with
  | .error failure => return .error (.disk failure)
  | .ok () =>
      match config.toToml? with
      | none => return .error .pathNotUtf8
      | some document =>
          match ← disk.writeFile path (Utf8.encode document) with
          | .error failure => return .error (.disk failure)
          | .ok () => return .ok ()

end Config

end CsdlHighlight
