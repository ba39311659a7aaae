import CsdlHighlight.FileTree.FileName

/-!
Contract: file trees as data.

Owns:
- entries and their locations;
- `FileTree`, the look-up, the replacement and the removal of an entry;
- the entries of a directory.

Does not own: paths that have to be followed to a location.
-/

namespace CsdlHighlight

/-- Where an entry is: the names that lead to it from the root, none of them
through a link. -/
abbrev Location := List FileName

inductive Entry where
  | file (content : Bytes)
  | directory
  | link (target : Path)
deriving DecidableEq, Repr

namespace Entry

def kind : Entry → EntryKind
  | .file _ => .file
  | .directory => .directory
  | .link _ => .link

end Entry

/-- A tree of files, seen by a process with a working directory.

The root is a directory without an entry of its own.  Each location holds one
entry at most. -/
structure FileTree where
  workingDirectory : Location
  entries : List (Location × Entry)
  distinct : (entries.map Prod.fst).Nodup

namespace FileTree

def empty : FileTree :=
  ⟨[], [], List.nodup_nil⟩

def entry? (tree : FileTree) (location : Location) : Option Entry :=
  if location.isEmpty then
    some .directory
  else
    tree.entries.lookup location

def others (tree : FileTree) (location : Location) : List (Location × Entry) :=
  tree.entries.filter fun pair => pair.1 ≠ location

/-- Leaving entries out keeps locations distinct. -/
theorem others_distinct (tree : FileTree) (location : Location) :
    ((tree.others location).map Prod.fst).Nodup :=
  tree.distinct.sublist (List.filter_sublist.map Prod.fst)

/-- Put an entry at a location, in the place of what was there. -/
def insert (tree : FileTree) (location : Location) (entry : Entry) : FileTree :=
  { workingDirectory := tree.workingDirectory
    entries := (location, entry) :: tree.others location
    distinct := by
      rw [List.map_cons, List.nodup_cons]
      refine ⟨?_, tree.others_distinct location⟩
      simp [others] }

def erase (tree : FileTree) (location : Location) : FileTree :=
  { workingDirectory := tree.workingDirectory
    entries := tree.others location
    distinct := tree.others_distinct location }

def nameIn? (directory location : Location) : Option FileName :=
  if location.dropLast = directory then location.getLast? else none

def children (tree : FileTree) (directory : Location) : List (Name × Entry) :=
  tree.entries.filterMap fun (location, entry) =>
    (nameIn? directory location).map fun name => (name.name, entry)

end FileTree

end CsdlHighlight
