import CsdlHighlight.Proofs.FileTree.Writing

/-!
Contract: what the operations that change a tree leave as it is.

Owns:
- the file at a location, and trees that differ in their files at one location
  at most;
- `GrowsTo`, a tree with some more directories, and its composition.

Does not own: programs that change a tree several times.
-/

namespace CsdlHighlight.FileTree

/-- The bytes of the file at a location, if there is a file. -/
def fileAt? (tree : FileTree) (location : Location) : Option Bytes :=
  match tree.entry? location with
  | some (.file content) => some content
  | _ => none

/-- The second tree has every entry of the first one, and what it has besides
are directories. -/
structure GrowsTo (before after : FileTree) : Prop where
  kept : ∀ location entry, before.entry? location = some entry →
    after.entry? location = some entry
  added : ∀ location entry, before.entry? location = none →
    after.entry? location = some entry → entry = .directory

variable {tree before between after : FileTree}

namespace GrowsTo

theorem refl (tree : FileTree) : GrowsTo tree tree where
  kept := by
    intro location entry held
    exact held
  added := by
    intro location entry missing held
    rw [missing] at held
    cases held

theorem trans (first : GrowsTo before between)
    (second : GrowsTo between after) : GrowsTo before after where
  kept := by
    intro location entry held
    apply second.kept
    exact first.kept location entry held
  added := by
    intro location entry missing held
    cases atFirst : between.entry? location with
    | none => exact second.added location entry atFirst held
    | some other =>
        have kept := second.kept location other atFirst
        obtain rfl := Option.some.inj (held.symm.trans kept)
        exact first.added location entry missing atFirst

/-- Growth changes no file and creates none. -/
theorem fileAt?_eq (grows : GrowsTo before after) (location : Location) :
    after.fileAt? location = before.fileAt? location := by
  unfold fileAt?
  cases atBefore : before.entry? location with
  | some entry => rw [grows.kept location entry atBefore]
  | none =>
      cases atAfter : after.entry? location with
      | none => rfl
      | some entry => rw [grows.added location entry atBefore atAfter]

end GrowsTo

/-- Putting an entry at a location changes no file elsewhere. -/
theorem fileAt?_insert_of_ne {location other : Location} {entry : Entry}
    (differs : other ≠ location) :
    (tree.insert location entry).fileAt? other = tree.fileAt? other := by
  unfold fileAt?
  rw [lookup_insert_of_ne differs]

/-! ## Directories -/

theorem entry?_of_walkFrom_missing {purpose : Purpose}
    {jump : Location → Path → List PathStep → Except DiskError Place}
    {directory : Location} {name : FileName}
    (jumps : ∀ here target rest,
      jump here target rest = .ok (.missing directory name) →
        tree.entry? (directory ++ [name]) = none)
    {here : Location} {steps : List PathStep}
    (walks : tree.walkFrom purpose jump here steps =
      .ok (.missing directory name)) :
    tree.entry? (directory ++ [name]) = none := by
  -- A name is missing only where the walk has looked for it.
  induction steps generalizing here with
  | nil => cases walks
  | cons step rest inductionHypothesis =>
      cases step with
      | here => exact inductionHypothesis walks
      | up => exact inductionHypothesis walks
      | slash => exact inductionHypothesis walks
      | name wanted =>
          unfold walkFrom at walks
          split at walks
          · cases walks
          split at walks
          · cases walks
          split at walks
          · next missing =>
              split at walks
              · cases walks
                exact missing
              · cases walks
          · exact inductionHypothesis walks
          · split at walks <;> cases walks
          · split at walks
            · cases walks
            · exact jumps _ _ _ walks

theorem entry?_of_walk_missing {purpose : Purpose} {links : Nat}
    {directory : Location} {name : FileName} {here : Location}
    {steps : List PathStep}
    (walks : tree.walk purpose links here steps =
      .ok (.missing directory name)) :
    tree.entry? (directory ++ [name]) = none := by
  -- Each link that is followed leaves one less to follow.
  induction links generalizing here steps with
  | zero =>
      apply entry?_of_walkFrom_missing _ walks
      intro _ _ _ noJump
      cases noJump
  | succ links inductionHypothesis =>
      apply entry?_of_walkFrom_missing _ walks
      intro _ target rest jumped
      exact inductionHypothesis jumped

theorem growsTo_insert_directory {spot : Location}
    (missing : tree.entry? spot = none) :
    GrowsTo tree (tree.insert spot .directory) where
  kept := by
    intro location entry held
    rw [lookup_insert_of_ne, held]
    rintro rfl
    rw [missing] at held
    cases held
  added := by
    intro location entry missingToo held
    by_cases same : location = spot
    · subst same
      have below : location ≠ [] := by
        rintro rfl
        cases missing
      rw [lookup_insert_self below] at held
      exact (Option.some.inj held).symm
    · rw [lookup_insert_of_ne same, missingToo] at held
      cases held

/-- A directory is created where the walk to it ends at a missing name. -/
theorem exists_missing_of_createDirectory {path : Path}
    (created : tree.createDirectory path = .ok after) :
    ∃ directory name, tree.find .entry path = .ok (.missing directory name) ∧
      after = tree.insert (directory ++ [name]) .directory := by
  unfold createDirectory create at created
  split at created
  · next directory name found =>
      split at created
      · cases created
      · cases created
        exact ⟨directory, name, found, rfl⟩
  · cases created
  · cases created

/-- Creating a directory takes nothing away. -/
theorem growsTo_of_createDirectory {path : Path}
    (created : tree.createDirectory path = .ok after) :
    GrowsTo tree after := by
  obtain ⟨directory, name, found, rfl⟩ :=
    exists_missing_of_createDirectory created
  apply growsTo_insert_directory
  exact entry?_of_walk_missing (walk_of_find found)

end CsdlHighlight.FileTree
