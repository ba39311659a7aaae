import CsdlHighlight.FileTree.Operations
import CsdlHighlight.Proofs.FileTree.Walk
import CsdlHighlight.Proofs.Path.Join

/-!
Contract: what a file tree answers about the entries of one directory is said by
that directory alone, as long as no link is followed there.

Owns:
- `directoryEntries?`, the content of the directory that a path leads to;
- the children of a directory against the look-up of entries;
- the answers to a path joined with a name, and their agreement in two trees
  with the same directory.

Does not own: what is behind a link.
-/

namespace CsdlHighlight.FileTree

def directoryEntries? (tree : FileTree) (path : Path) :
    Option (List (Name × Entry)) :=
  match tree.resolve path with
  | .ok (place, .directory) => some (tree.children place)
  | _ => none

def entryAt (tree : FileTree) (path : Path) : Except DiskError Entry :=
  (tree.resolve path).map Prod.snd

/-- The answer to a path that ends in a name, given the entry which the directory
before it has under that name, if any.  The limits on the path come first. -/
def answerIn (held : Option Entry) (path : Path) : Except DiskError Entry :=
  if path.bytes.contains 0 then
    .error .zeroByte
  else if pathLimit < path.bytes.length then
    .error .nameTooLong
  else
    match held with
    | none => .error .notFound
    | some entry => .ok entry

variable {tree : FileTree} {path : Path} {place : Location} {name : FileName}

/-! ## The children of a directory -/

theorem lookup_eq_some_iff_mem (tree : FileTree) (location : Location)
    (entry : Entry) :
    tree.entries.lookup location = some entry ↔
      (location, entry) ∈ tree.entries := by
  rw [List.lookup_eq_some_iff]
  constructor
  · rintro ⟨before, after, split, _⟩
    simp [split]
  · intro member
    obtain ⟨before, after, split⟩ := List.append_of_mem member
    refine ⟨before, after, split, ?_⟩
    intro pair earlier
    have distinct := tree.distinct
    rw [split, List.map_append, List.nodup_append] at distinct
    have differs : pair.1 ≠ location :=
      distinct.2.2 pair.1 (List.mem_map_of_mem earlier) location (by simp)
    exact bne_iff_ne.mpr differs.symm

theorem nameIn?_eq_some_iff (directory location : Location)
    (name : FileName) :
    nameIn? directory location = some name ↔ location = directory ++ [name] := by
  constructor
  · intro named
    unfold nameIn? at named
    split at named
    · next inside =>
        rw [← inside]
        exact (List.dropLast_append_getLast? name named).symm
    · cases named
  · rintro rfl
    simp [nameIn?]

/-- The children of a directory are the entries behind its location. -/
theorem mem_children_iff {child : Name} {entry : Entry} :
    (child, entry) ∈ tree.children place ↔
      ∃ name : FileName, name.name = child ∧
        tree.entry? (place ++ [name]) = some entry := by
  have held (name : FileName) : tree.entry? (place ++ [name]) = some entry ↔
      (place ++ [name], entry) ∈ tree.entries := by
    unfold entry?
    rw [if_neg (by simp), lookup_eq_some_iff_mem]
  simp only [held, children, List.mem_filterMap]
  constructor
  · rintro ⟨⟨location, _⟩, member, shown⟩
    obtain ⟨name, inside, same⟩ := Option.map_eq_some_iff.mp shown
    obtain ⟨rfl, rfl⟩ := Prod.mk.inj same
    refine ⟨name, rfl, ?_⟩
    rwa [(nameIn?_eq_some_iff place location name).mp inside] at member
  · rintro ⟨name, rfl, member⟩
    refine ⟨_, member, ?_⟩
    simp [(nameIn?_eq_some_iff place (place ++ [name]) name).mpr rfl]

theorem name_mem_children_iff {entry : Entry} :
    (name.name, entry) ∈ tree.children place ↔
      tree.entry? (place ++ [name]) = some entry := by
  rw [mem_children_iff]
  constructor
  · rintro ⟨⟨other, valid⟩, rfl, held⟩
    exact held
  · intro held
    exact ⟨name, rfl, held⟩

/-! ## A name in a directory -/

theorem walk_name (links : Nat)
    (notLink : ∀ target, tree.entry? (place ++ [name]) ≠ some (.link target)) :
    (arrive (tree.walk .target links place [.name name.name])).map Prod.snd =
      match tree.entry? (place ++ [name]) with
      | none => .error .notFound
      | some entry => .ok entry := by
  rw [walk_eq_walkFrom, walkFrom_fileName]
  cases found : tree.entry? (place ++ [name]) with
  | none => rfl
  | some entry =>
      cases entry with
      | file content => rfl
      | directory => rfl
      | link target => exact absurd found (notLink target)

/-- What a path to a directory has passed on its way. -/
theorem walk_of_resolve (arrives : tree.resolve path = .ok (place, .directory)) :
    tree.walk .target linkLimit (startOf tree.workingDirectory path) path.steps =
      .ok (.found place .directory) := by
  apply walk_of_find
  unfold resolve at arrives
  match found : tree.find .target path, arrives with
  | .ok (.found _ _), arrives =>
      obtain ⟨rfl, rfl⟩ := Prod.mk.inj (Except.ok.inj arrives)
      rfl

/-- A name joined to the path of a directory is answered by what the directory
has under that name. -/
theorem entryAt_join {held : Option Entry} (openEnded : path.IsOpenEnded)
    (arrives : tree.resolve path = .ok (place, .directory))
    (holds : tree.entry? (place ++ [name]) = held)
    (notLink : ∀ target, held ≠ some (.link target)) :
    tree.entryAt (path.join name.name) = answerIn held (path.join name.name) := by
  subst holds
  have entryName := name.valid.toIsEntryName
  obtain ⟨left, continued⟩ :=
    walk_append (walk_of_resolve arrives) [.name name.name]
  have start : startOf tree.workingDirectory (path.join name.name) =
      startOf tree.workingDirectory path := by
    rw [startOf, Path.isAbsolute_join openEnded, startOf]
  have nonempty : (path.join name.name).bytes.isEmpty = false := by
    simpa using (Path.isOpenEnded_join path entryName).nonempty
  unfold entryAt resolve find follow answerIn
  rw [Path.steps_join openEnded entryName, start, continued, nonempty]
  cases zero : (path.join name.name).bytes.contains 0 with
  | true => rfl
  | false =>
      by_cases long : pathLimit < (path.join name.name).bytes.length
      · simp [long, arrive, Except.map]
      · simpa [long] using walk_name left notLink

/-- A name that a directory does not have leads nowhere. -/
theorem entryAt_join_of_missing (openEnded : path.IsOpenEnded)
    (arrives : tree.resolve path = .ok (place, .directory))
    (missing : tree.entry? (place ++ [name]) = none) (entry : Entry) :
    tree.entryAt (path.join name.name) ≠ .ok entry := by
  rw [entryAt_join openEnded arrives missing nofun]
  unfold answerIn
  split
  · nofun
  · split <;> nofun

/-! ## The same directory in two trees -/

theorem directoryEntries?_eq_some {entries : List (Name × Entry)}
    (held : tree.directoryEntries? path = some entries) :
    ∃ place, tree.resolve path = .ok (place, .directory) ∧
      entries = tree.children place := by
  unfold directoryEntries? at held
  split at held
  · next place arrives => exact ⟨place, arrives, (Option.some.inj held).symm⟩
  · cases held

/-- The names in a directory are names that a file can have. -/
theorem exists_fileName {entries : List (Name × Entry)} {child : Name × Entry}
    (held : tree.directoryEntries? path = some entries)
    (member : child ∈ entries) : ∃ name : FileName, name.name = child.1 := by
  obtain ⟨place, -, rfl⟩ := directoryEntries?_eq_some held
  obtain ⟨name, same, -⟩ := mem_children_iff.mp member
  exact ⟨name, same⟩

/-- A name stands for one entry of a directory. -/
theorem entry_unique {entries : List (Name × Entry)} {child : Name}
    {entry other : Entry} (held : tree.directoryEntries? path = some entries)
    (member : (child, entry) ∈ entries) (memberToo : (child, other) ∈ entries) :
    entry = other := by
  obtain ⟨name, rfl⟩ := exists_fileName held member
  obtain ⟨place, -, rfl⟩ := directoryEntries?_eq_some held
  rw [name_mem_children_iff] at member memberToo
  exact Option.some.inj (member.symm.trans memberToo)

theorem list_of_directoryEntries? {entries : List (Name × Entry)}
    (held : tree.directoryEntries? path = some entries) :
    tree.reader.list path =
      pure (.ok (entries.map fun entry => (entry.1, entry.2.kind))) := by
  obtain ⟨place, arrives, rfl⟩ := directoryEntries?_eq_some held
  simp only [reader, list, arrives]

theorem isDirectory_eq (tree : FileTree) (path : Path) :
    tree.reader.isDirectory path =
      pure (tree.directoryEntries? path).isSome := by
  show pure (tree.isDirectory path) = _
  unfold isDirectory directoryEntries?
  cases tree.resolve path with
  | error failure => rfl
  | ok found =>
      obtain ⟨location, entry⟩ := found
      cases entry <;> rfl

theorem isDirectory_of_directoryEntries? {entries : List (Name × Entry)}
    (held : tree.directoryEntries? path = some entries) :
    tree.reader.isDirectory path = pure true := by
  rw [isDirectory_eq, held]
  rfl

theorem present_eq (tree : FileTree) (path : Path) :
    tree.present path = (tree.entryAt path).isOk := by
  unfold present entryAt
  cases tree.resolve path <;> rfl

theorem content_eq (tree : FileTree) (path : Path) :
    tree.content path = (tree.entryAt path).bind fun entry =>
      match entry with
      | .file content => .ok content
      | _ => .error .isADirectory := by
  unfold content entryAt
  cases tree.resolve path with
  | error failure => rfl
  | ok found =>
      obtain ⟨location, entry⟩ := found
      cases entry <;> rfl

variable {first second : FileTree}

theorem reader_present_congr (same : first.entryAt path = second.entryAt path) :
    first.reader.present path = second.reader.present path := by
  simp only [reader, present_eq, same]

/-- Two trees in which a path leads to the same entry give it the same
content. -/
theorem reader_content_congr (same : first.entryAt path = second.entryAt path) :
    first.reader.content path = second.reader.content path := by
  simp only [reader, content_eq, same]

/-- Two directories with the same entries answer alike to a name that is no link
in them, whatever else the trees hold. -/
theorem entryAt_join_congr {mine theirs : List (Name × Entry)}
    (openEnded : path.IsOpenEnded)
    (inFirst : first.directoryEntries? path = some mine)
    (inSecond : second.directoryEntries? path = some theirs)
    (sameEntries : mine.Perm theirs)
    (notLink : ∀ target, (name.name, .link target) ∉ mine) :
    first.entryAt (path.join name.name) =
      second.entryAt (path.join name.name) := by
  obtain ⟨place, arrives, rfl⟩ := directoryEntries?_eq_some inFirst
  obtain ⟨other, arrivesToo, rfl⟩ := directoryEntries?_eq_some inSecond
  obtain ⟨held, holds⟩ : ∃ held, first.entry? (place ++ [name]) = held :=
    ⟨_, rfl⟩
  have holdsToo : second.entry? (other ++ [name]) = held := by
    rw [← holds]
    ext entry
    rw [← name_mem_children_iff, ← name_mem_children_iff, sameEntries.mem_iff]
  have notLinkHeld : ∀ target, held ≠ some (.link target) := by
    intro target linked
    exact notLink target (name_mem_children_iff.mpr (holds.trans linked))
  rw [entryAt_join openEnded arrives holds notLinkHeld,
    entryAt_join openEnded arrivesToo holdsToo notLinkHeld]

end CsdlHighlight.FileTree
