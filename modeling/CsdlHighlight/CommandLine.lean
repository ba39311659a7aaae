import CsdlHighlight.Config.File
import CsdlHighlight.EmbedService
import CsdlHighlight.Log.Filter
import CsdlHighlight.OutputStream
import CsdlHighlight.Panic
import CsdlHighlight.Preview

/-!
Contract: the commands of the program and how a run of one ends.

Owns:
- `Command` and its recognition among the arguments;
- the plan of each command, which is made by reading alone: pieces of output, or a
  configuration to save;
- `Plan.carryOut`, in which a write may be refused after others were accepted;
- the exit status and what is said on the stream for errors.

Does not own: the disk, the environment, the input and the stream for the output;
they are handed over.
-/

namespace CsdlHighlight

def usage : Text :=
  ("Usage:\n" ++
    "  csdl-embed html <file|->              Highlight a CSDL file as an HTML fragment\n" ++
    "  csdl-embed preview <file|->           Highlight a CSDL file in the terminal\n" ++
    "  csdl-embed page <gist-id>             Render the widgets page for a gist\n" ++
    "  csdl-embed script <gist-id> [--data]  Render the embed script for a gist\n" ++
    "                                        (--data: raw snippet records via the template)\n" ++
    "  csdl-embed init <snippets-path>       Write a config file pointing at a gist directory").toList

/-! ## Commands -/

inductive Command where
  | html (operand : Text)
  | preview (operand : Text)
  | page (id : Text)
  | script (id : Text) (data : Bool)
  | init (operand : Text)
deriving DecidableEq, Repr

namespace Command

/-- The command of some arguments.  What stands behind the operand is passed
over, except that it can ask a script for the data. -/
def ofArguments? (arguments : List Text) : Option Command :=
  match arguments with
  | name :: operand :: rest =>
      if name = "html".toList then
        some (.html operand)
      else if name = "preview".toList then
        some (.preview operand)
      else if name = "page".toList then
        some (.page operand)
      else if name = "script".toList then
        some (.script operand (rest.contains "--data".toList))
      else if name = "init".toList then
        some (.init operand)
      else
        none
  | _ => none

end Command

inductive Invocation where
  | command (command : Command)
  | unknown
  /-- The first argument that is not well-formed text. -/
  | undecodable (argument : Bytes)
deriving DecidableEq, Repr

namespace Invocation

/-- All arguments as texts, or the first one that is none. -/
def texts : List Bytes → Except Bytes (List Text)
  | [] => .ok []
  | argument :: rest =>
      match Utf8.decode? argument with
      | none => .error argument
      | some text => (texts rest).map (text :: ·)

def ofArguments (arguments : List Bytes) : Invocation :=
  match texts arguments with
  | .error argument => .undecodable argument
  | .ok texts =>
      match Command.ofArguments? texts with
      | some asked => .command asked
      | none => .unknown

end Invocation

/-! ## Reports -/

inductive CommandError where
  | config (failure : LoadError)
  | noConfig (path : Path)
  | unreadableFile (operand : Text) (failure : DiskError)
  | unreadableInput (failure : DiskError)
  | unreadableTemplate (path : Path) (failure : DiskError)
  | notADirectory (path : Path)
  | unresolved (operand : Text) (failure : DiskError)
  | save (failure : SaveError)
  | refusedOutput (failure : DiskError)
deriving DecidableEq, Repr

namespace CommandError

/-- The text of a failure: what was tried, then each cause behind it. -/
def message : CommandError → Text
  | .config failure =>
      "Failed to load config file: ".toList ++ failure.message ++
        ": ".toList ++ failure.cause
  | .noConfig path =>
      "No config file found at ".toList ++ path.display ++
        ". Create one with `csdl-embed init <snippets-path>`".toList
  | .unreadableFile operand failure =>
      "Failed to read CSDL file '".toList ++ operand ++ "': ".toList ++
        failure.message
  | .unreadableInput failure =>
      "Failed to read CSDL from stdin: ".toList ++ failure.message
  | .unreadableTemplate path failure =>
      "Failed to read embed template '".toList ++ path.display ++
        "': ".toList ++ failure.message
  | .notADirectory path =>
      "Snippets path '".toList ++ path.display ++
        "' is not a directory".toList
  | .unresolved operand failure =>
      "Failed to resolve snippets path '".toList ++ operand ++ "': ".toList ++
        failure.message
  | .save failure => failure.message
  | .refusedOutput failure => failure.message

end CommandError

/-- How far a command has come: its log up to there, and what it goes on with or
why it cannot. -/
structure Report (α : Type) where
  log : List LogRecord
  result : Except CommandError α
deriving Repr

namespace Report

variable {α : Type}

def failed (log : List LogRecord) (failure : CommandError) : Report α :=
  ⟨log, .error failure⟩

def reached (log : List LogRecord) (result : α) : Report α :=
  ⟨log, .ok result⟩

end Report

def programRecord (level : LogLevel) (message : Text) : LogRecord :=
  ⟨level, "csdl_embed".toList, message⟩

/-- What is left to do when everything has been read: to write the pieces of the
output, one at a time, or to save a configuration. -/
inductive Plan where
  | write (report : Report (List Text))
  | save (path : Path) (config : Config)
deriving Repr

/-! ## The plan of a command -/

/-- What a command finds around it, apart from what it writes to. -/
structure Surroundings (m : Type → Type) where
  disk : DiskReader m
  environment : Environment
  input : m Bytes
  host : Host

namespace Surroundings

variable {m : Type → Type} [Monad m]

def configPath (around : Surroundings m) : Path :=
  Config.defaultPath around.environment

def loadConfig (around : Surroundings m) :
    m (Except LoadError (Option Config)) :=
  Config.load around.disk around.environment around.configPath

/-- Read the text to highlight: a file, or the input for a hyphen. -/
def readOperand (around : Surroundings m) (operand : Text) :
    m (Except CommandError Text) := do
  if operand = ['-'] then
    match DiskError.decode (.ok (← around.input)) with
    | .ok text => return .ok text
    | .error failure => return .error (.unreadableInput failure)
  else
    match ← around.disk.readText (Path.ofText operand) with
    | .ok text => return .ok text
    | .error failure => return .error (.unreadableFile operand failure)

/-- Highlight a text as markup, with the configuration if there is one. -/
def planHtml (around : Surroundings m) (operand : Text) :
    m (Report (List Text)) := do
  match ← around.loadConfig with
  | .error failure => return .failed [] (.config failure)
  | .ok loaded =>
      let escaping := (loaded.map Config.escaping).getD false
      match ← around.readOperand operand with
      | .error failure => return .failed [] failure
      | .ok text =>
          return .reached (classificationLog text)
            [Markup.highlight escaping text ++ ['\n']]

/-- Highlight a text, with colours on a terminal only.  Its events are written one
by one. -/
def planPreview (around : Surroundings m) (operand : Text) :
    m (Report (List Text)) := do
  match ← around.readOperand operand with
  | .error failure => return .failed [] failure
  | .ok text =>
      return .reached (classificationLog text)
        (Preview.pieces (!around.host.onTerminal) (classify text))

def readTemplate (around : Surroundings m) (config : Config) :
    m (Except CommandError ScriptTemplate) := do
  match config.templatePath with
  | none => return .ok .standard
  | some path =>
      match ← around.disk.readText path with
      | .ok script => return .ok ⟨script⟩
      | .error failure => return .error (.unreadableTemplate path failure)

def withService (around : Surroundings m)
    (serve : Config → EmbedService → m (Logged Text)) :
    m (Report (List Text)) := do
  match ← around.loadConfig with
  | .error failure => return .failed [] (.config failure)
  | .ok none => return .failed [] (.noConfig around.configPath)
  | .ok (some config) =>
      let loaded :=
        programRecord .info
          ("Loaded config from ".toList ++ around.configPath.display)
      if ← around.disk.isDirectory config.snippetsPath then
        match ← around.readTemplate config with
        | .error failure => return .failed [loaded] failure
        | .ok template =>
            let serving :=
              programRecord .debug
                ("Serving gists from ".toList ++ config.snippetsPath.display)
            let served ← serve config ⟨⟨config.snippetsPath⟩, template⟩
            return .reached
              (loaded :: (template.log ++ serving :: served.log)) [served.value]
      else
        return .failed [loaded] (.notADirectory config.snippetsPath)

def planPage (around : Surroundings m) (id : Text) : m (Report (List Text)) :=
  around.withService fun config service => do
    return (← service.page around.disk config.renderOptions id).map
      fun page => page ++ ['\n']

def planScript (around : Surroundings m) (id : Text) (data : Bool) :
    m (Report (List Text)) :=
  around.withService fun config service => do
    let script ←
      if data then
        service.dataScript around.disk id
      else
        service.script around.disk config.renderOptions id
    let writing :=
      programRecord .debug
        ("Writing script (".toList ++ scriptContentType ++ ")".toList)
    return ⟨script.value, script.log ++ [writing]⟩

def planInit (around : Surroundings m) (operand : Text) : m Plan := do
  match ← around.disk.canonicalPath (Path.ofText operand) with
  | .error failure => return .write (.failed [] (.unresolved operand failure))
  | .ok path =>
      if ← around.disk.isDirectory path then
        return .save around.configPath (Config.ofSnippets path)
      else
        return .write (.failed [] (.notADirectory path))

/-- The plan of a command.  Making it changes nothing, and everything that is read
is read for it. -/
def plan (around : Surroundings m) (command : Command) : m Plan :=
  match command with
  | .html operand => return .write (← around.planHtml operand)
  | .preview operand => return .write (← around.planPreview operand)
  | .page id => return .write (← around.planPage id)
  | .script id data => return .write (← around.planScript id data)
  | .init operand => around.planInit operand

end Surroundings

/-! ## Carrying a plan out -/

def reportOutput (log : List LogRecord) (written : Except DiskError Unit) :
    Report Unit :=
  match written with
  | .ok () => .reached log ()
  | .error failure => .failed log (.refusedOutput failure)

def reportSave (path : Path) (saved : Except SaveError Unit) : Report Unit :=
  match saved with
  | .ok () =>
      .reached
        [programRecord .info ("Wrote config file to ".toList ++ path.display)] ()
  | .error failure => .failed [] (.save failure)

section Run

-- What is read and saved happens in `m`, what is written in the larger `n`.
variable {m n : Type → Type} [Monad m] [Monad n] [MonadLiftT m n]

def Plan.carryOut (disk : DiskWriter m) (stream : OutputStream n) (plan : Plan) :
    n (Report Unit) :=
  match plan with
  | .write ⟨log, .error failure⟩ => return .failed log failure
  | .write ⟨log, .ok pieces⟩ => do
      return reportOutput log (← stream.writeAll pieces)
  | .save target config => do
      return reportSave target (← liftM (config.save disk target))

/-! ## The end of a run -/

/-- How a run ends for whoever started it: its status, and what it has said on the
stream for errors, one line after another. -/
structure Exit where
  status : Nat
  errors : List Text
deriving DecidableEq, Repr

namespace Exit

/-- The end of a command, with the lines of its log that a filter lets pass. -/
def ofReport (filter : LogFilter) (report : Report Unit) : Exit :=
  match report.result with
  | .ok () => ⟨0, filter.lines report.log⟩
  | .error failure =>
      ⟨1, filter.lines report.log ++
        ["Error: ".toList ++ failure.message ++ ['\n']]⟩

def ofUsage : Exit :=
  ⟨1, [usage ++ ['\n']]⟩

/-- The end of a run of which an argument is no text.  It stops before it looks
at any other. -/
def ofPanic (environment : Environment) (host : Host) (argument : Bytes) : Exit :=
  ⟨Panic.status, [Panic.message environment host argument]⟩

/-- The same end, with some more lines before its errors. -/
def warned (warnings : List Text) (ends : Exit) : Exit :=
  { ends with errors := warnings ++ ends.errors }

end Exit

def logVariable : Text := "RUST_LOG".toList

def Surroundings.wish (around : Surroundings m) : LogWish :=
  LogWish.ofText ((around.environment.value? logVariable).getD [])

def runInvocation (around : Surroundings m) (disk : DiskWriter m)
    (stream : OutputStream n) (filter : LogFilter) : Invocation → n Exit
  | .undecodable argument =>
      return .ofPanic around.environment around.host argument
  | .unknown => return .ofUsage
  | .command command => do
      let plan ← liftM (around.plan command)
      return .ofReport filter (← plan.carryOut disk stream)

/-- Run the program to its end.  What is wrong with the wish for records is said
before anything else. -/
def runProgram (around : Surroundings m) (disk : DiskWriter m)
    (stream : OutputStream n) (arguments : List Bytes) : n Exit := do
  let ends ← runInvocation around disk stream around.wish.filter
    (Invocation.ofArguments arguments)
  return ends.warned around.wish.warnings

end Run

end CsdlHighlight
