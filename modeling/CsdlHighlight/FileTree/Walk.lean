import CsdlHighlight.FileTree.Basic

/-!
Contract: following a path through a file tree, links included.

Owns:
- `Place`, where a path ends, and `Purpose`, what is wanted there;
- the walk along the steps of a path and the limit on links;
- `find`, the walk of a whole path with its limits on length.

Does not own: what is done at the end of a path.
-/

namespace CsdlHighlight

/-- Where a path ends: at an entry, or at a name that an existing directory
does not hold. -/
inductive Place where
  | found (location : Location) (entry : Entry)
  | missing (directory : Location) (name : FileName)
deriving DecidableEq, Repr

/-- What is wanted at the end of a path. -/
inductive Purpose where
  /-- What the path leads to, through every link. -/
  | target
  /-- The entry itself, be it a link. -/
  | entry
  /-- A file to write, which is created where it is missing. -/
  | file
deriving DecidableEq, Repr

namespace FileTree

def pathLimit : Nat := 4095

/-- The most links that one walk may follow. -/
def linkLimit : Nat := 40

/-- Whether a name is the last one of a path, given the steps behind it.  For an
entry, a slash behind it makes no difference. -/
def isLast (purpose : Purpose) (rest : List PathStep) : Bool :=
  rest.isEmpty || (purpose == .entry && rest == [.slash])

/-- Walk from a directory.  At a link, `jump` continues from the directory that
holds it with the link's target and the steps still to do; a link at the end is
kept where the entry itself is wanted.  A name with more steps behind it has to
be a directory, and no file can be written at a slash. -/
def walkFrom (tree : FileTree) (purpose : Purpose)
    (jump : Location → Path → List PathStep → Except DiskError Place)
    (here : Location) : List PathStep → Except DiskError Place
  | [] => .ok (.found here .directory)
  | .here :: rest => walkFrom tree purpose jump here rest
  | .slash :: rest => walkFrom tree purpose jump here rest
  | .up :: rest => walkFrom tree purpose jump here.dropLast rest
  | .name name :: rest =>
      if purpose = .file ∧ rest = [.slash] then
        .error .isADirectory
      else
        match FileName.ofStep name with
        | .error failure => .error failure
        | .ok name =>
            match tree.entry? (here ++ [name]) with
            | none =>
                if isLast purpose rest then
                  .ok (.missing here name)
                else
                  .error .notFound
            | some .directory =>
                walkFrom tree purpose jump (here ++ [name]) rest
            | some (.file content) =>
                if isLast purpose rest then
                  .ok (.found (here ++ [name]) (.file content))
                else
                  .error .notADirectory
            | some (.link target) =>
                if purpose = .entry ∧ isLast purpose rest then
                  .ok (.found (here ++ [name]) (.link target))
                else
                  jump here target rest

def startOf (here : Location) (path : Path) : Location :=
  if path.isAbsolute then [] else here

def walk (tree : FileTree) (purpose : Purpose) :
    Nat → Location → List PathStep → Except DiskError Place
  | 0 =>
      walkFrom tree purpose fun _ _ _ => .error .tooManyLinks
  | links + 1 =>
      walkFrom tree purpose fun here target rest =>
        walk tree purpose links (startOf here target) (target.steps ++ rest)

/-- Follow a path of any length. -/
def follow (tree : FileTree) (purpose : Purpose) (path : Path) :
    Except DiskError Place :=
  if path.bytes.contains 0 then
    .error .zeroByte
  else if path.bytes.isEmpty then
    .error .notFound
  else
    tree.walk purpose linkLimit (startOf tree.workingDirectory path) path.steps

/-- Follow a path, unless it is too long. -/
def find (tree : FileTree) (purpose : Purpose) (path : Path) :
    Except DiskError Place :=
  if !path.bytes.contains 0 && pathLimit < path.bytes.length then
    .error .nameTooLong
  else
    tree.follow purpose path

/-- The location and the entry of a place that has one. -/
def arrive (place : Except DiskError Place) : Except DiskError (Location × Entry) :=
  match place with
  | .ok (.found location entry) => .ok (location, entry)
  | .ok (.missing _ _) => .error .notFound
  | .error failure => .error failure

def resolve (tree : FileTree) (path : Path) :
    Except DiskError (Location × Entry) :=
  arrive (tree.find .target path)

end FileTree

end CsdlHighlight
