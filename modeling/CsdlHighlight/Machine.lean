import CsdlHighlight.Account
import CsdlHighlight.CommandLine

/-!
Contract: the machine that the program runs on.

Owns:
- its disk, as a `DiskReader` and a `DiskWriter`;
- the failures of its system as `DiskError`;
- the arguments, the environment, the input and the output of the process.

Does not own: any decision.  What is read here is handed over as it is, and
what the program writes is written out as it is.
-/

namespace CsdlHighlight.Machine

/-! ## Failures -/

def failureOfNumber (number : UInt32) (text : String) : DiskError :=
  .ofSystem (min number.toNat (-number).toNat) text.toList

def failureOf (failure : IO.Error) : DiskError :=
  match failure with
  | .alreadyExists _ number text => failureOfNumber number text
  | .noFileOrDirectory _ number text => failureOfNumber number text
  | .invalidArgument _ number text => failureOfNumber number text
  | .permissionDenied _ number text => failureOfNumber number text
  | .resourceExhausted _ number text => failureOfNumber number text
  | .resourceVanished number text => failureOfNumber number text
  | .inappropriateType _ number text => failureOfNumber number text
  | .noSuchThing _ number text => failureOfNumber number text
  | .otherError number text => failureOfNumber number text
  | other => .system 0 other.toString.toList

/-- Do something with the name of a path, which must not hold a zero byte. -/
def attempt {α : Type} (path : Path) (action : String → IO α) :
    IO (Except DiskError α) := do
  if path.bytes.contains 0 then
    return .error .zeroByte
  else
    match ← (action (String.ofList path.display)).toBaseIO with
    | .ok result => return .ok result
    | .error failure => return .error (failureOf failure)

/-! ## Disk -/

def readFile (name : String) : IO Bytes := do
  let file ← IO.FS.Handle.mk name .read
  return (← file.readBinToEnd).toList

/-- What an entry is, if it is one of the three kinds. -/
def kindOf? (kind : IO.FS.FileType) : Option EntryKind :=
  match kind with
  | .dir => some .directory
  | .file => some .file
  | .symlink => some .link
  | .other => none

def entryOf? (entry : IO.FS.DirEntry) : IO (Option (Name × EntryKind)) := do
  let metadata ← entry.path.symlinkMetadata
  return (kindOf? metadata.type).map fun kind =>
    (Utf8.encode entry.fileName.toList, kind)

/-- Reading from the disk.  Why a path has no canonical form is only told to
whoever tries to open it. -/
def reader : DiskReader IO where
  present := fun path => do
    let found ← attempt path fun name => IO.FS.realPath name
    return found.isOk
  isDirectory := fun path => do
    match ← attempt path fun name => IO.FS.realPath name with
    | .ok found => found.isDir
    | .error _ => return false
  content := fun path => attempt path readFile
  list := fun path =>
    attempt path fun name => do
      let directory ← IO.FS.realPath name
      (← directory.readDir).toList.filterMapM entryOf?
  canonicalPath := fun path => do
    match ← attempt path fun name => IO.FS.realPath name with
    | .ok found => return .ok (Path.ofText found.toString.toList)
    | .error failure =>
        match ← attempt path fun name => IO.FS.Handle.mk name .read with
        | .ok _ => return .error failure
        | .error reason => return .error reason

def writer : DiskWriter IO where
  ensureDirectory := fun path => do
    match ← attempt path fun name => IO.FS.createDir name with
    | .ok () => return .ok ()
    | .error failure =>
        if ← reader.isDirectory path then return .ok () else return .error failure
  writeFile := fun path content =>
    attempt path fun name => IO.FS.writeBinFile name content.toByteArray

/-! ## Process -/

/-- The bytes of a file of the system, or nothing where it cannot be read. -/
def systemFile (name : String) : IO Bytes := do
  match ← (readFile name).toBaseIO with
  | .ok content => return content
  | .error _ => return []

/-- The arguments of this process as bytes, without the name of the program.
Each of them is closed by a zero byte. -/
def arguments : IO (List Bytes) := do
  let line ← systemFile "/proc/self/cmdline"
  return (Bytes.cutAt 0 line).dropLast.tail

def environment : IO Environment := do
  let block ← systemFile "/proc/self/environ"
  let status ← systemFile "/proc/self/status"
  let accounts ← systemFile "/etc/passwd"
  return {
    block := Bytes.cutAt 0 block
    accountHome := Account.home? status accounts }

/-- The main thread has the number of its process.  What the runtime would write
about its stack is not known here. -/
def host : IO Host := do
  let status ← systemFile "/proc/self/status"
  let digits := (Account.process? status).bind Utf8.decode?
  return {
    thread := (digits.bind fun digits => (String.ofList digits).toNat?).getD 0
    stack := []
    onTerminal := ← (← IO.getStdout).isTty }

def surroundings : IO (Surroundings IO) := do
  return {
    disk := reader
    environment := ← environment
    input := do return (← (← IO.getStdin).readBinToEnd).toList
    host := ← host }

/-- The output of this process, which is handed on at the end of each line. -/
def output : OutputStream IO where
  write := fun piece => do
    let written : IO Unit := do
      let stream ← IO.getStdout
      stream.write (Utf8.encode piece).toByteArray
      if piece.contains '\n' then stream.flush
    match ← written.toBaseIO with
    | .ok () => return .ok ()
    | .error failure => return .error (failureOf failure)

/-- End this process.  Whether the rest of its output can be handed on is not
told to anyone. -/
def finish (ends : Exit) : IO UInt32 := do
  let _ ← (do (← IO.getStdout).flush : IO Unit).toBaseIO
  let errors ← IO.getStderr
  for line in ends.errors do
    errors.write (Utf8.encode line).toByteArray
  errors.flush
  return UInt32.ofNat ends.status

end CsdlHighlight.Machine
