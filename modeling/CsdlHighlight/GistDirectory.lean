import CsdlHighlight.Disk
import CsdlHighlight.Gist
import CsdlHighlight.Log
import CsdlHighlight.Text.Quoted
import CsdlHighlight.Toml.Document

/-!
Contract: gists kept on a disk, one directory per gist under a common root.

Owns:
- the ids that can name a gist;
- the metadata of a gist and their defaults;
- `fetch`, which reads a whole gist or tells why it cannot.

Does not own: links inside a gist; an entry that is a link is no file of it.
-/

namespace CsdlHighlight

def metadataName : Text := "gist.toml".toList

def defaultOwner : Text := "anonymous".toList

inductive FetchError where
  | invalidId (id : Text)
  | notFound (id : Text)
  | disk (failure : DiskError)
  | metadata (path : Path) (reason : Toml.ReadError)
deriving DecidableEq, Repr

namespace FetchError

def message : FetchError → Text
  | .invalidId id => "Invalid gist id: ".toList ++ Text.quoted id
  | .notFound id => "Gist not found: ".toList ++ id
  | .disk failure => "IO error: ".toList ++ failure.message
  | .metadata path reason =>
      "Failed to parse gist metadata at ".toList ++ path.display ++
        ": ".toList ++ reason.message

end FetchError

structure GistMetadata where
  owner : Option Text
  url : Option Text
deriving DecidableEq, Repr

namespace GistMetadata

def none : GistMetadata :=
  ⟨Option.none, Option.none⟩

def field? (pairs : Toml.Pairs) (key : String) : Option (Option Text) :=
  match pairs.find? key.toList with
  | Option.none => some Option.none
  | some (.text content) => some (some content)
  | some _ => Option.none

/-- The metadata in the pairs of a document, which may hold other keys. -/
def ofPairs? (pairs : Toml.Pairs) : Option GistMetadata :=
  (field? pairs "owner").bind fun owner =>
    (field? pairs "url").map fun url => ⟨owner, url⟩

def ofToml (document : Text) : Except Toml.ReadError GistMetadata :=
  (Toml.readDocument document).bind fun pairs =>
    Toml.ReadError.require (ofPairs? pairs)

end GistMetadata

def isIdChar (character : Char) : Bool :=
  ('a' ≤ character && character ≤ 'z') ||
    ('A' ≤ character && character ≤ 'Z') ||
    ('0' ≤ character && character ≤ '9') ||
    character == '-' || character == '_'

/-- Whether a text can be the id of a gist.  Such an id is always a plain name:
no path leads out of the root with it. -/
def isGistId (id : Text) : Bool :=
  !id.isEmpty && id.all isIdChar

def nameLe : Name → Name → Bool
  | [], _ => true
  | _ :: _, [] => false
  | first :: rest, other :: others =>
      first < other || (first == other && nameLe rest others)

structure GistDirectory where
  root : Path
deriving DecidableEq, Repr

namespace GistDirectory

def directoryOf (gists : GistDirectory) (id : Text) : Path :=
  gists.root.join (Utf8.encode id)

/-- The names of the files served from a listed directory, in order. -/
def servedNames (listed : List (Name × EntryKind)) : List Name :=
  ((listed.filter fun (name, kind) =>
    kind = .file && name ≠ Utf8.encode metadataName).map Prod.fst).mergeSort
      nameLe

variable {m : Type → Type} [Monad m]

/-- Read the metadata of a gist.  A gist without the file says nothing. -/
def readMetadata (disk : DiskReader m) (directory : Path) :
    m (Except FetchError GistMetadata) := do
  let path := directory.join (Utf8.encode metadataName)
  if ← disk.present path then
    match ← disk.readText path with
    | .error failure => return .error (.disk failure)
    | .ok document =>
        match GistMetadata.ofToml document with
        | .ok metadata => return .ok metadata
        | .error reason => return .error (.metadata path reason)
  else
    return .ok .none

/-- Read the files with the given names.  One that cannot be read spoils them
all. -/
def readFiles (disk : DiskReader m) (directory : Path) :
    List Name → m (Except FetchError (List GistFile))
  | [] => return .ok []
  | name :: rest => do
      match ← disk.readText (directory.join name) with
      | .error failure => return .error (.disk failure)
      | .ok content =>
          match ← readFiles disk directory rest with
          | .error failure => return .error failure
          | .ok files => return .ok (⟨Utf8.repair name, content⟩ :: files)

def readServed (disk : DiskReader m) (directory : Path) :
    m (Except FetchError (List GistFile)) := do
  match ← disk.list directory with
  | .error failure => return .error (.disk failure)
  | .ok listed => readFiles disk directory (servedNames listed)

def defaultUrl (directory : Path) : Text :=
  "file://".toList ++ directory.display

def fetch (gists : GistDirectory) (disk : DiskReader m) (id : Text) :
    m (Except FetchError Gist) := do
  if !isGistId id then
    return .error (.invalidId id)
  let directory := gists.directoryOf id
  if !(← disk.isDirectory directory) then
    return .error (.notFound id)
  match ← readMetadata disk directory with
  | .error failure => return .error failure
  | .ok metadata =>
      match ← readServed disk directory with
      | .error failure => return .error failure
      | .ok files =>
          return .ok
            { id := id
              owner := metadata.owner.getD defaultOwner
              url := metadata.url.getD (defaultUrl directory)
              files := files }

end GistDirectory

def fetchLog (fetched : Except FetchError Gist) : List LogRecord :=
  match fetched with
  | .ok gist =>
      [⟨.debug, "csdl_embed_engine::source".toList,
        "Fetched gist ".toList ++ gist.id ++ " with ".toList ++
          Text.decimal gist.files.length ++ " file(s)".toList⟩]
  | .error _ => []

end CsdlHighlight
