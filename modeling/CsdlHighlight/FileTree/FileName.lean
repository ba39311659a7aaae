import CsdlHighlight.Disk

/-!
Contract: the names that the entries of a file tree have.

Owns:
- the names that an entry of any directory can have, and those within the limits of
  a file system;
- `FileName`, a name that is known to be one of these.

Does not own: the names in a path; they are bytes until they are looked up.
-/

namespace CsdlHighlight

/-- The name of an entry: not empty, without a slash, and neither of the two
names that stand for the directory itself and for the one around it. -/
structure IsEntryName (name : Name) : Prop where
  nonempty : name ≠ []
  noSlash : Path.slash ∉ name
  notHere : name ≠ [Path.dot]
  notUp : name ≠ [Path.dot, Path.dot]

instance (name : Name) : Decidable (IsEntryName name) :=
  decidable_of_iff
    (name ≠ [] ∧ Path.slash ∉ name ∧ name ≠ [Path.dot] ∧
      name ≠ [Path.dot, Path.dot])
    ⟨fun ⟨nonempty, noSlash, notHere, notUp⟩ =>
        ⟨nonempty, noSlash, notHere, notUp⟩,
      fun ⟨nonempty, noSlash, notHere, notUp⟩ =>
        ⟨nonempty, noSlash, notHere, notUp⟩⟩

def FileTree.nameLimit : Nat := 255

/-- The name of a file: the name of an entry, within the limits of a file
system. -/
structure IsFileName (name : Name) : Prop extends IsEntryName name where
  noZero : 0 ∉ name
  short : name.length ≤ FileTree.nameLimit

instance (name : Name) : Decidable (IsFileName name) :=
  decidable_of_iff
    (IsEntryName name ∧ 0 ∉ name ∧ name.length ≤ FileTree.nameLimit)
    ⟨fun ⟨entryName, noZero, short⟩ => ⟨entryName, noZero, short⟩,
      fun ⟨entryName, noZero, short⟩ => ⟨entryName, noZero, short⟩⟩

structure FileName where
  name : Name
  valid : IsFileName name
deriving DecidableEq, Repr

namespace FileName

def ofText (text : Text) (valid : IsFileName (Utf8.encode text) := by decide) :
    FileName :=
  ⟨Utf8.encode text, valid⟩

/-- The name that is looked up for a step of a path.  No entry has a name that no
file can have, and one that is too long is told apart. -/
def ofStep (name : Name) : Except DiskError FileName :=
  if valid : IsFileName name then
    .ok ⟨name, valid⟩
  else if FileTree.nameLimit < name.length then
    .error .nameTooLong
  else
    .error .notFound

/-- The name of an entry is looked up as itself. -/
theorem ofStep_name (name : FileName) : ofStep name.name = .ok name :=
  dif_pos name.valid

theorem name_of_ofStep {name : Name} {fileName : FileName}
    (named : ofStep name = .ok fileName) : fileName.name = name := by
  unfold ofStep at named
  split at named
  · cases named
    rfl
  · split at named <;> cases named

end FileName

end CsdlHighlight
