import CsdlHighlight.Path

/-!
Contract: what the library asks of a file system, whichever it is.

Owns:
- `DiskError`, the reasons for which an operation can fail, and their texts;
- `DiskReader` and `DiskWriter`, the operations in any monad;
- the reading of a file as text;
- the creation of a directory with its parents.

Does not own: an implementation.  A file tree held in memory and the machine's
own disk both provide one.
-/

namespace CsdlHighlight

inductive DiskError where
  | notFound
  | alreadyExists
  | notADirectory
  | isADirectory
  | nameTooLong
  | tooManyLinks
  | zeroByte
  | notUtf8
  /-- Any other failure, with its number and its description by the system. -/
  | system (number : Nat) (description : Text)
deriving DecidableEq, Repr

namespace DiskError

def message : DiskError → Text
  | .notFound => "No such file or directory (os error 2)".toList
  | .alreadyExists => "File exists (os error 17)".toList
  | .notADirectory => "Not a directory (os error 20)".toList
  | .isADirectory => "Is a directory (os error 21)".toList
  | .nameTooLong => "File name too long (os error 36)".toList
  | .tooManyLinks => "Too many levels of symbolic links (os error 40)".toList
  | .zeroByte => "file name contained an unexpected NUL byte".toList
  | .notUtf8 => "stream did not contain valid UTF-8".toList
  | .system number description =>
      description ++ " (os error ".toList ++ Text.decimal number ++ ")".toList

/-- The failure with a number of the system. -/
def ofSystem (number : Nat) (description : Text) : DiskError :=
  if number = 2 then .notFound
  else if number = 17 then .alreadyExists
  else if number = 20 then .notADirectory
  else if number = 21 then .isADirectory
  else if number = 36 then .nameTooLong
  else if number = 40 then .tooManyLinks
  else .system number description

end DiskError

/-- What an entry of a directory is, not what it may lead to. -/
inductive EntryKind where
  | file
  | directory
  | link
deriving DecidableEq, Repr

/-- Operations that change nothing.  All but `list` follow symbolic links to
their end; `list` tells a link from what it leads to. -/
structure DiskReader (m : Type → Type) where
  present : Path → m Bool
  isDirectory : Path → m Bool
  content : Path → m (Except DiskError Bytes)
  list : Path → m (Except DiskError (List (Name × EntryKind)))
  canonicalPath : Path → m (Except DiskError Path)

/-- Operations that change the disk.  `ensureDirectory` creates a directory in
an existing one unless it is there; `writeFile` creates a file or replaces all
of its content. -/
structure DiskWriter (m : Type → Type) where
  ensureDirectory : Path → m (Except DiskError Unit)
  writeFile : Path → Bytes → m (Except DiskError Unit)

/-- The text of the bytes that were read, which have to be well formed. -/
def DiskError.decode (read : Except DiskError Bytes) : Except DiskError Text :=
  match read with
  | .ok bytes =>
      match Utf8.decode? bytes with
      | some text => .ok text
      | none => .error .notUtf8
  | .error failure => .error failure

namespace DiskReader

def readText {m : Type → Type} [Monad m] (disk : DiskReader m) (path : Path) :
    m (Except DiskError Text) := do
  return DiskError.decode (← disk.content path)

end DiskReader

namespace DiskWriter

variable {m : Type → Type} [Monad m]

/-- Create the first of some directories, each of which is the parent of the
one before it.  The others are created when, and only when, it cannot be created
without them. -/
def createChain (disk : DiskWriter m) : List Path → m (Except DiskError Unit)
  | [] => return .ok ()
  | path :: parents => do
      match ← disk.ensureDirectory path with
      | .error .notFound =>
          match ← disk.createChain parents with
          | .ok () => disk.ensureDirectory path
          | .error failure => return .error failure
      | outcome => return outcome

/-- Create a directory with all its parents.  The empty path is the working
directory, which is there. -/
def createDirectories (disk : DiskWriter m) (path : Path) :
    m (Except DiskError Unit) :=
  if path.bytes.isEmpty then
    return .ok ()
  else
    disk.createChain (path :: path.parents)

end DiskWriter

end CsdlHighlight
