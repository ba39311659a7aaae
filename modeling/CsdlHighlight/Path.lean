import CsdlHighlight.Text.Utf8

/-!
Contract: paths of files as bytes.

Owns:
- `Path` with its text;
- the steps that a path prescribes to whoever follows it;
- the parents of a path, which need not exist.

Does not own: what a path leads to.
-/

namespace CsdlHighlight

abbrev Name := Bytes

/-- A path is any bytes; it need not be text. -/
structure Path where
  bytes : Bytes
deriving DecidableEq, Repr

inductive PathStep where
  /-- Stay, which is only possible in a directory. -/
  | here
  /-- Go to the directory around this one. -/
  | up
  /-- Go to an entry of this directory. -/
  | name (name : Name)
  /-- The slash at the end of a path, which asks for a directory. -/
  | slash
deriving DecidableEq, Repr

namespace Path

def slash : UInt8 := 0x2F

def dot : UInt8 := 0x2E

def ofText (text : Text) : Path :=
  ⟨Utf8.encode text⟩

def text? (path : Path) : Option Text :=
  Utf8.decode? path.bytes

def display (path : Path) : Text :=
  Utf8.repair path.bytes

def isAbsolute (path : Path) : Bool :=
  path.bytes.head? == some slash

def endsInSlash (path : Path) : Bool :=
  path.bytes.getLast? == some slash

/-- A name inside the directory that a path leads to.  A slash is put between
them unless the path is empty or brings one of its own. -/
def join (path : Path) (name : Name) : Path :=
  if path.bytes.isEmpty || path.endsInSlash then
    ⟨path.bytes ++ name⟩
  else
    ⟨path.bytes ++ slash :: name⟩

/-- Whether a part of a path takes no step away: there is nothing between two
slashes, and a dot is the directory itself. -/
def isIdle (part : Bytes) : Bool :=
  part.isEmpty || part == [dot]

def stepOf (part : Bytes) : PathStep :=
  if part = [dot] then
    .here
  else if part = [dot, dot] then
    .up
  else
    .name part

/-- The steps of a path, from the root or from the working directory. -/
def steps (path : Path) : List PathStep :=
  ((Bytes.cutAt slash path.bytes).filter fun part => !part.isEmpty).map stepOf ++
    (if path.endsInSlash then [.slash] else [])

/-! ## Parents -/

/-- The front of a path, which its parents keep: the slash of the root, or the
dot of a path that names the working directory. -/
def front (path : Path) : Bytes :=
  match path.bytes with
  | [] => []
  | first :: rest =>
      if first = slash then
        [slash]
      else if first = dot && (rest.isEmpty || rest.head? == some slash) then
        [dot]
      else
        []

/-- The parts behind the front of a path, the last one first. -/
def partsBack (path : Path) : List Bytes :=
  (Bytes.cutAt slash (path.bytes.drop path.front.length)).reverse

/-- The path with some parts behind its front, given the last one first. -/
def ofBack (front : Bytes) (partsBack : List Bytes) : Path :=
  ⟨front ++ List.intercalate [slash] partsBack.reverse⟩

/-- The path without its last name and the idle parts before it.  It is written
as it was up to there.  A path without a name has no parent, except that the
working directory has the empty path. -/
def parent? (path : Path) : Option Path :=
  match path.partsBack.dropWhile isIdle with
  | [] => if path.front = [dot] then some ⟨[]⟩ else none
  | _ :: earlier => some (ofBack path.front (earlier.dropWhile isIdle))

/-- The paths that end in one of some parts, idle parts left out. -/
def endings (front : Bytes) : List Bytes → List Path
  | [] => []
  | part :: earlier =>
      if isIdle part then
        endings front earlier
      else
        ofBack front (part :: earlier) :: endings front earlier

/-- The parents of a path that end in a name, the longest one first. -/
def parents (path : Path) : List Path :=
  (endings path.front path.partsBack).tail

def ofNames (names : List Name) : Path :=
  ⟨slash :: List.intercalate [slash] names⟩

end Path

end CsdlHighlight
