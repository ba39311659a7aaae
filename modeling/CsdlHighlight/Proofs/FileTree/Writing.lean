import CsdlHighlight.Proofs.FileTree.Directory

/-!
Contract: a file that has been written is read at the same path.

Owns:
- the look-up of entries in a tree with one more entry;
- the location at which a walk writes a file, and what may be there before;
- the walk to a file that has been written.

Does not own: which files a command writes.
-/

namespace CsdlHighlight

/-- The location of the file that is written where a walk has ended. -/
def Place.fileSpot? : Place → Option Location
  | .missing directory name => some (directory ++ [name])
  | .found location (.file _) => some location
  | .found _ _ => none

namespace FileTree

variable {tree : FileTree} {location other spot : Location} {entry : Entry}

/-! ## One more entry -/

theorem lookup_insert_self (below : location ≠ []) :
    entry? (tree.insert location entry) location = some entry := by
  unfold entry?
  rw [if_neg (by simpa using below), insert]
  exact List.lookup_cons_self

theorem lookup_insert_of_ne (differs : other ≠ location) :
    entry? (tree.insert location entry) other = tree.entry? other := by
  unfold entry?
  split
  · rfl
  · ext held
    rw [lookup_eq_some_iff_mem, lookup_eq_some_iff_mem]
    simp [insert, others, differs]

/-! ## Where a file can be written -/

/-- Nothing but a file is at a location. -/
def IsFree (tree : FileTree) (spot : Location) : Prop :=
  ∀ entry, tree.entry? spot = some entry → ∃ content, entry = .file content

/-- A walk along some steps, through so many links at most, that can end in a
file at a location. -/
inductive WritesAt (tree : FileTree) :
    Nat → Location → List PathStep → Location → Prop where
  | stay {links : Nat} {here spot : Location} {rest : List PathStep}
      (behind : WritesAt tree links here rest spot) :
      WritesAt tree links here (.here :: rest) spot
  | slash {links : Nat} {here spot : Location} {rest : List PathStep}
      (behind : WritesAt tree links here rest spot) :
      WritesAt tree links here (.slash :: rest) spot
  | up {links : Nat} {here spot : Location} {rest : List PathStep}
      (behind : WritesAt tree links here.dropLast rest spot) :
      WritesAt tree links here (.up :: rest) spot
  | enter {links : Nat} {here spot : Location} {name : FileName}
      {rest : List PathStep}
      (held : tree.entry? (here ++ [name]) = some .directory)
      (behind : WritesAt tree links (here ++ [name]) rest spot) :
      WritesAt tree links here (.name name.name :: rest) spot
  | follow {links : Nat} {here spot : Location} {name : FileName} {target : Path}
      {rest : List PathStep}
      (held : tree.entry? (here ++ [name]) = some (.link target))
      (behind : WritesAt tree links (startOf here target)
        (target.steps ++ rest) spot) :
      WritesAt tree (links + 1) here (.name name.name :: rest) spot
  | last {links : Nat} {here : Location} {name : FileName}
      (free : tree.IsFree (here ++ [name])) :
      WritesAt tree links here [.name name.name] (here ++ [name])

theorem isFree_of_none (missing : tree.entry? location = none) :
    tree.IsFree location := by
  intro entry held
  rw [missing] at held
  cases held

theorem isFree_of_file {content : Bytes}
    (held : tree.entry? location = some (.file content)) :
    tree.IsFree location := by
  intro entry heldToo
  exact ⟨content, Option.some.inj (heldToo.symm.trans held)⟩

/-- The walk to a file follows one such walk along its steps, if that is so
behind every link. -/
theorem writesAt_of_walkFrom {links : Nat}
    (jumps : ∀ {here target rest place},
      tree.jumpOf .file links here target rest = .ok place →
      place.fileSpot? = some spot →
      ∃ less, links = less + 1 ∧
        tree.WritesAt less (startOf here target) (target.steps ++ rest) spot)
    {here : Location} {steps : List PathStep} {place : Place}
    (walks :
      tree.walkFrom .file (tree.jumpOf .file links) here steps = .ok place)
    (ends : place.fileSpot? = some spot) :
    tree.WritesAt links here steps spot := by
  induction steps generalizing here with
  | nil =>
      cases walks
      cases ends
  | cons step rest inductionHypothesis =>
      cases step with
      | here => exact .stay (inductionHypothesis walks)
      | up => exact .up (inductionHypothesis walks)
      | slash => exact .slash (inductionHypothesis walks)
      | name name =>
          rw [walkFrom_name_of_ne_entry (by decide)] at walks
          split at walks
          · cases walks
          split at walks
          · cases walks
          next named =>
          obtain rfl := FileName.name_of_ofStep named
          split at walks
          · next missing =>
              split at walks
              · next isLast =>
                  cases walks
                  cases ends
                  obtain rfl := List.isEmpty_iff.mp isLast
                  exact .last (isFree_of_none missing)
              · cases walks
          · next held => exact .enter held (inductionHypothesis walks)
          · next content held =>
              split at walks
              · next isLast =>
                  cases walks
                  cases ends
                  obtain rfl := List.isEmpty_iff.mp isLast
                  exact .last (isFree_of_file held)
              · cases walks
          · next target held =>
              obtain ⟨less, rfl, behind⟩ := jumps walks ends
              exact .follow held behind

theorem writesAt_of_walk {links : Nat} {here : Location}
    {steps : List PathStep} {place : Place}
    (walks : tree.walk .file links here steps = .ok place)
    (ends : place.fileSpot? = some spot) :
    tree.WritesAt links here steps spot := by
  rw [walk_eq_walkFrom] at walks
  -- Each link that is followed leaves one less to follow.
  induction links generalizing here steps place with
  | zero =>
      refine writesAt_of_walkFrom ?_ walks ends
      intro _ _ _ _ noJump
      cases noJump
  | succ links inductionHypothesis =>
      refine writesAt_of_walkFrom ?_ walks ends
      intro _ target rest _ jumped endsToo
      rw [jumpOf_succ] at jumped
      exact ⟨links, rfl, inductionHypothesis jumped endsToo⟩

namespace WritesAt

variable {links : Nat} {here : Location} {steps : List PathStep}

theorem isFree (writes : tree.WritesAt links here steps spot) :
    tree.IsFree spot := by
  induction writes with
  | stay _ inductionHypothesis => exact inductionHypothesis
  | slash _ inductionHypothesis => exact inductionHypothesis
  | up _ inductionHypothesis => exact inductionHypothesis
  | enter _ _ inductionHypothesis => exact inductionHypothesis
  | follow _ _ inductionHypothesis => exact inductionHypothesis
  | last free => exact free

/-- The location that is written is none on the way there. -/
theorem lookup_insert (writes : tree.WritesAt links here steps spot)
    {held : Entry} (holds : tree.entry? location = some held)
    (noFile : ∀ content, held ≠ .file content) :
    entry? (tree.insert spot entry) location = some held := by
  rw [lookup_insert_of_ne, holds]
  rintro rfl
  obtain ⟨content, same⟩ := writes.isFree held holds
  exact noFile content same

/-- A walk to a file that has been written leads there. -/
theorem walk_insert (writes : tree.WritesAt links here steps spot)
    (content : Bytes) :
    (tree.insert spot (.file content)).walk .target links here steps =
      .ok (.found spot (.file content)) := by
  rw [walk_eq_walkFrom]
  induction writes with
  | stay _ inductionHypothesis => exact inductionHypothesis
  | slash _ inductionHypothesis => exact inductionHypothesis
  | up _ inductionHypothesis => exact inductionHypothesis
  | enter held behind inductionHypothesis =>
      rw [walkFrom_fileName, behind.lookup_insert held nofun]
      exact inductionHypothesis
  | follow held behind inductionHypothesis =>
      rw [walkFrom_fileName, behind.lookup_insert held nofun]
      exact (jumpOf_succ ..).trans inductionHypothesis
  | @last links here name free =>
      have below : here ++ [name] ≠ [] := by simp
      rw [walkFrom_fileName, lookup_insert_self below]
      rfl

end WritesAt

/-! ## Writing and reading -/

theorem present_of_content {path : Path} {content : Bytes}
    (held : tree.content path = .ok content) : tree.present path = true := by
  unfold FileTree.content at held
  unfold present
  cases found : tree.resolve path with
  | error failure =>
      rw [found] at held
      cases held
  | ok place => rfl

variable {path : Path} {content : Bytes} {changed : FileTree}

/-- A file is written at one location, which the same path leads to. -/
theorem exists_insert_of_writeFile
    (written : tree.writeFile path content = .ok changed) :
    ∃ spot, changed = tree.insert spot (.file content) ∧
      changed.resolve path = .ok (spot, .file content) := by
  obtain ⟨place, spot, found, ends, rfl⟩ : ∃ place spot,
      tree.find .file path = .ok place ∧ place.fileSpot? = some spot ∧
        changed = tree.insert spot (.file content) := by
    unfold writeFile at written
    split at written
    · next directory name found =>
        exact ⟨_, _, found, rfl, (Except.ok.inj written).symm⟩
    · next location old found =>
        exact ⟨_, _, found, rfl, (Except.ok.inj written).symm⟩
    · cases written
    · cases written
  have walked :=
    (writesAt_of_walk (walk_of_find found) ends).walk_insert content
  refine ⟨spot, rfl, ?_⟩
  rw [resolve, find_of_ok found]
  exact congrArg arrive walked

/-- What has been written is read back from the same path. -/
theorem content_of_writeFile
    (written : tree.writeFile path content = .ok changed) :
    changed.content path = .ok content := by
  obtain ⟨spot, -, found⟩ := exists_insert_of_writeFile written
  rw [FileTree.content, found]

end FileTree

end CsdlHighlight
