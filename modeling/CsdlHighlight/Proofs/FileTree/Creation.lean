import CsdlHighlight.Config.File
import CsdlHighlight.Proofs.FileTree.Frame

/-!
Contract: programs that create directories create nothing else, and only where
the paths lead that they were given.

Owns:
- the walk to a directory that was missing at the end of a path;
- `GrowsAlong`, growth by directories to which some paths lead;
- `Creates`, a program whose trees grow that way, whether it succeeds or not.

Does not own: which of these programs a command asks for.
-/

namespace CsdlHighlight

/-- The paths of the directories above a path, the longest one first. -/
def Path.above (path : Path) : List Path :=
  match path.parent? with
  | some parent => parent :: parent.parents
  | none => []

namespace FileTree

variable {before between after : FileTree}

/-! ## The way to a directory that was missing -/

section Walk

variable {directory : Location} {name : FileName} (grows : GrowsTo before after)
  (created : after.entry? (directory ++ [name]) = some .directory)

include grows created

theorem walkFrom_of_created {links : Nat}
    (jumps : ∀ here target rest,
      before.jumpOf .entry links here target rest =
          .ok (.missing directory name) →
        after.jumpOf .target links here target rest =
          .ok (.found (directory ++ [name]) .directory))
    {here : Location} {steps : List PathStep}
    (walks : before.walkFrom .entry (before.jumpOf .entry links) here steps =
      .ok (.missing directory name)) :
    after.walkFrom .target (after.jumpOf .target links) here steps =
      .ok (.found (directory ++ [name]) .directory) := by
  -- What the walk has passed is still there, and at its end is the directory.
  induction steps generalizing here with
  | nil => cases walks
  | cons step rest inductionHypothesis =>
      cases step with
      | here => exact inductionHypothesis walks
      | up => exact inductionHypothesis walks
      | slash => exact inductionHypothesis walks
      | name wanted =>
          unfold walkFrom at walks
          split at walks
          · cases walks
          split at walks
          · cases walks
          next named =>
          obtain rfl := FileName.name_of_ofStep named
          rw [walkFrom_fileName]
          split at walks
          · split at walks
            · next isLast =>
                cases walks
                rw [created]
                -- A slash behind the last name is passed in a directory.
                rcases Bool.or_eq_true_iff.mp isLast with nothing | slash
                · rw [List.isEmpty_iff.mp nothing]
                  rfl
                · rw [eq_of_beq (Bool.and_eq_true_iff.mp slash).2]
                  rfl
            · cases walks
          · next held =>
              rw [grows.kept _ _ held]
              exact inductionHypothesis walks
          · split at walks <;> cases walks
          · next held =>
              split at walks
              · cases walks
              · rw [grows.kept _ _ held]
                exact jumps _ _ _ walks

theorem walk_of_created {links : Nat} {here : Location}
    {steps : List PathStep}
    (walks : before.walk .entry links here steps =
      .ok (.missing directory name)) :
    after.walk .target links here steps =
      .ok (.found (directory ++ [name]) .directory) := by
  rw [walk_eq_walkFrom] at walks ⊢
  -- Each link that is followed leaves one less to follow.
  induction links generalizing here steps with
  | zero =>
      refine walkFrom_of_created grows created ?_ walks
      intro _ _ _ noJump
      cases noJump
  | succ links inductionHypothesis =>
      refine walkFrom_of_created grows created ?_ walks
      intro _ target rest jumped
      rw [jumpOf_succ] at jumped ⊢
      exact inductionHypothesis jumped

theorem resolve_of_created {path : Path}
    (sameStart : after.workingDirectory = before.workingDirectory)
    (missing : before.find .entry path = .ok (.missing directory name)) :
    after.resolve path = .ok (directory ++ [name], .directory) := by
  have walks := walk_of_created grows created (walk_of_find missing)
  rw [resolve, find_of_ok missing, sameStart, walks]
  rfl

end Walk

/-! ## Growth along paths -/

variable {paths : List Path}

/-- The second tree has some more directories.  One of the paths leads to each of
them, and still does so when the tree grows further. -/
structure GrowsAlong (paths : List Path) (before after : FileTree) : Prop where
  grows : GrowsTo before after
  sameStart : after.workingDirectory = before.workingDirectory
  reached : ∀ location entry, before.entry? location = none →
    after.entry? location = some entry →
      ∃ path ∈ paths, ∀ later, GrowsTo after later →
        later.workingDirectory = after.workingDirectory →
          later.resolve path = .ok (location, .directory)

namespace GrowsAlong

theorem refl (paths : List Path) (tree : FileTree) :
    GrowsAlong paths tree tree where
  grows := .refl tree
  sameStart := rfl
  reached := by
    intro location entry missing held
    rw [missing] at held
    cases held

theorem trans (first : GrowsAlong paths before between)
    (second : GrowsAlong paths between after) :
    GrowsAlong paths before after where
  grows := first.grows.trans second.grows
  sameStart := second.sameStart.trans first.sameStart
  reached := by
    intro location entry missing held
    cases atFirst : between.entry? location with
    | none => exact second.reached location entry atFirst held
    | some other =>
        obtain ⟨path, member, leads⟩ :=
          first.reached location other missing atFirst
        refine ⟨path, member, ?_⟩
        intro later growsLater sameLater
        apply leads later (second.grows.trans growsLater)
        exact sameLater.trans second.sameStart

theorem fileAt?_eq (along : GrowsAlong paths before after)
    (location : Location) :
    after.fileAt? location = before.fileAt? location :=
  along.grows.fileAt?_eq location

/-- What is new is a directory, to which one of the paths leads. -/
theorem exists_path (along : GrowsAlong paths before after)
    {location : Location} {entry : Entry}
    (missing : before.entry? location = none)
    (held : after.entry? location = some entry) :
    entry = .directory ∧
      ∃ path ∈ paths, after.resolve path = .ok (location, .directory) := by
  obtain ⟨path, member, leads⟩ := along.reached location entry missing held
  exact ⟨along.grows.added location entry missing held, path, member,
    leads after (.refl after) rfl⟩

end GrowsAlong

theorem growsAlong_of_createDirectory {path : Path} (member : path ∈ paths)
    (created : before.createDirectory path = .ok after) :
    GrowsAlong paths before after := by
  have grows := growsTo_of_createDirectory created
  obtain ⟨directory, name, missing, rfl⟩ :=
    exists_missing_of_createDirectory created
  refine ⟨grows, rfl, ?_⟩
  intro location entry absent held
  have isNew : location = directory ++ [name] := by
    by_contra elsewhere
    rw [lookup_insert_of_ne elsewhere, absent] at held
    cases held
  subst isNew
  refine ⟨path, member, ?_⟩
  intro later growsLater sameLater
  have kept := growsLater.kept _ _ (lookup_insert_self (by simp))
  exact resolve_of_created (grows.trans growsLater) kept sameLater missing

/-! ## Programs that create directories -/

/-- Whatever its answer, a program leaves every tree with more directories at
most, to each of which one of the paths leads. -/
def Creates {α : Type} (paths : List Path) (program : StateM FileTree α) : Prop :=
  ∀ tree, GrowsAlong paths tree (program tree).2

namespace Creates

variable {α β : Type}

theorem pure (value : α) : Creates paths (pure value) := by
  intro tree
  exact .refl paths tree

theorem bind {program : StateM FileTree α} {next : α → StateM FileTree β}
    (first : Creates paths program)
    (second : ∀ value, Creates paths (next value)) :
    Creates paths (program >>= next) := by
  intro tree
  apply (first tree).trans
  exact second (program tree).1 (program tree).2

theorem ensureDirectory {path : Path} (member : path ∈ paths) :
    Creates paths (writer.ensureDirectory path) := by
  intro tree
  show GrowsAlong paths tree (tree.ensureDirectory path).2
  unfold FileTree.ensureDirectory
  split
  · next created => exact growsAlong_of_createDirectory member created
  · split <;> exact .refl paths tree

theorem createChain {chain : List Path} (inside : chain ⊆ paths) :
    Creates paths (writer.createChain chain) := by
  induction chain with
  | nil => exact pure _
  | cons path parents inductionHypothesis =>
      obtain ⟨member, parentsInside⟩ := List.cons_subset.mp inside
      unfold DiskWriter.createChain
      refine bind (ensureDirectory member) fun outcome => ?_
      split
      · -- The parents come first, and then the directory once more.
        refine bind (inductionHypothesis parentsInside) fun above => ?_
        split
        · exact ensureDirectory member
        · exact pure _
      · exact pure _

/-- Making the directories above a path creates nothing but directories, and
these on the path. -/
theorem createParents (path : Path) :
    Creates path.above (Config.createParents writer path) := by
  unfold Config.createParents Path.above
  cases path.parent? with
  | none => exact pure _
  | some parent =>
      show Creates (parent :: parent.parents) (writer.createDirectories parent)
      unfold DiskWriter.createDirectories
      split
      · exact pure _
      · exact createChain (List.Subset.refl _)

end Creates

end FileTree

end CsdlHighlight
