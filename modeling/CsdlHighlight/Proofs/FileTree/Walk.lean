import CsdlHighlight.FileTree.Walk

/-!
Contract: a walk that arrives at a directory can be continued from there.

Owns:
- one step of a walk that follows links;
- the composition of walks at a directory;
- the walk of a path that is within the limits.

Does not own: what is done at the end of a walk.
-/

namespace CsdlHighlight.FileTree

/-- How a walk goes on at a link when it may follow so many links. -/
def jumpOf (tree : FileTree) (purpose : Purpose) :
    Nat → Location → Path → List PathStep → Except DiskError Place
  | 0 => fun _ _ _ => .error .tooManyLinks
  | links + 1 => fun here target rest =>
      tree.walk purpose links (startOf here target) (target.steps ++ rest)

theorem walk_eq_walkFrom (tree : FileTree) (purpose : Purpose) (links : Nat) :
    tree.walk purpose links =
      tree.walkFrom purpose (tree.jumpOf purpose links) := by
  cases links <;> rfl

theorem jumpOf_succ (tree : FileTree) (purpose : Purpose) (links : Nat)
    (here : Location) (target : Path) (rest : List PathStep) :
    tree.jumpOf purpose (links + 1) here target rest =
      tree.walkFrom purpose (tree.jumpOf purpose links)
        (startOf here target) (target.steps ++ rest) := by
  rw [← walk_eq_walkFrom]
  rfl

theorem isLast_of_ne_entry {purpose : Purpose} (notEntry : purpose ≠ .entry)
    (rest : List PathStep) : isLast purpose rest = rest.isEmpty := by
  cases purpose with
  | target => exact Bool.or_false _
  | entry => exact absurd rfl notEntry
  | file => exact Bool.or_false _

variable {tree : FileTree}

/-- One step of a walk that follows every link. -/
theorem walkFrom_name_of_ne_entry {purpose : Purpose}
    (notEntry : purpose ≠ .entry)
    (jump : Location → Path → List PathStep → Except DiskError Place)
    (here : Location) (name : Name) (rest : List PathStep) :
    tree.walkFrom purpose jump here (.name name :: rest) =
      if purpose = .file ∧ rest = [.slash] then
        .error .isADirectory
      else
        match FileName.ofStep name with
        | .error failure => .error failure
        | .ok name =>
            match tree.entry? (here ++ [name]) with
            | none =>
                if rest.isEmpty then .ok (.missing here name)
                else .error .notFound
            | some .directory =>
                tree.walkFrom purpose jump (here ++ [name]) rest
            | some (.file content) =>
                if rest.isEmpty then
                  .ok (.found (here ++ [name]) (.file content))
                else
                  .error .notADirectory
            | some (.link target) => jump here target rest := by
  have last := isLast_of_ne_entry notEntry rest
  cases named : FileName.ofStep name with
  | error failure => simp [walkFrom, named]
  | ok name =>
      cases found : tree.entry? (here ++ [name]) with
      | none => simp [walkFrom, last, named, found]
      | some entry =>
          cases entry <;> simp [walkFrom, last, named, found, notEntry]

theorem walkFrom_name
    (jump : Location → Path → List PathStep → Except DiskError Place)
    (here : Location) (name : Name) (rest : List PathStep) :
    tree.walkFrom .target jump here (.name name :: rest) =
      match FileName.ofStep name with
      | .error failure => .error failure
      | .ok name =>
          match tree.entry? (here ++ [name]) with
          | none =>
              if rest.isEmpty then .ok (.missing here name) else .error .notFound
          | some .directory => tree.walkFrom .target jump (here ++ [name]) rest
          | some (.file content) =>
              if rest.isEmpty then
                .ok (.found (here ++ [name]) (.file content))
              else
                .error .notADirectory
          | some (.link target) => jump here target rest :=
  (walkFrom_name_of_ne_entry (by decide) jump here name rest).trans
    (if_neg fun isFile => absurd isFile.1 (by decide))

/-- A step by the name of a file looks for that file. -/
theorem walkFrom_fileName
    (jump : Location → Path → List PathStep → Except DiskError Place)
    (here : Location) (name : FileName) (rest : List PathStep) :
    tree.walkFrom .target jump here (.name name.name :: rest) =
      match tree.entry? (here ++ [name]) with
      | none =>
          if rest.isEmpty then .ok (.missing here name) else .error .notFound
      | some .directory => tree.walkFrom .target jump (here ++ [name]) rest
      | some (.file content) =>
          if rest.isEmpty then
            .ok (.found (here ++ [name]) (.file content))
          else
            .error .notADirectory
      | some (.link target) => jump here target rest := by
  rw [walkFrom_name, FileName.ofStep_name]

/-- More steps behind those that lead to a directory are taken from there, if
that is so behind every link. -/
theorem walkFrom_append {links : Nat} {place : Location}
    {more : List PathStep}
    (jumps : ∀ here target rest,
      tree.jumpOf .target links here target rest =
          .ok (.found place .directory) →
        ∃ left, tree.jumpOf .target links here target (rest ++ more) =
          tree.walk .target left place more)
    {here : Location} {steps : List PathStep}
    (arrives : tree.walkFrom .target (tree.jumpOf .target links) here steps =
      .ok (.found place .directory)) :
    ∃ left, tree.walkFrom .target (tree.jumpOf .target links) here
      (steps ++ more) = tree.walk .target left place more := by
  -- Along the steps of one path; what is behind a link is the hypothesis `jumps`.
  induction steps generalizing here with
  | nil =>
      cases arrives
      exact ⟨links, by rw [walk_eq_walkFrom, List.nil_append]⟩
  | cons step rest inductionHypothesis =>
      cases step with
      | here => exact inductionHypothesis arrives
      | up => exact inductionHypothesis arrives
      | slash => exact inductionHypothesis arrives
      | name name =>
          rw [walkFrom_name] at arrives
          rw [List.cons_append, walkFrom_name]
          split at arrives
          · cases arrives
          · split at arrives
            · split at arrives <;> cases arrives
            · exact inductionHypothesis arrives
            · split at arrives <;> cases arrives
            · next target _ => exact jumps here target rest arrives

/-- A walk that arrives at a directory goes on from there, with the links that
are left. -/
theorem walk_append {links : Nat} {here place : Location}
    {steps : List PathStep}
    (arrives : tree.walk .target links here steps =
      .ok (.found place .directory)) (more : List PathStep) :
    ∃ left, tree.walk .target links here (steps ++ more) =
      tree.walk .target left place more := by
  rw [walk_eq_walkFrom] at arrives ⊢
  -- Each link that is followed leaves one less to follow.
  induction links generalizing here steps with
  | zero =>
      refine walkFrom_append ?_ arrives
      intro _ _ _ noJump
      cases noJump
  | succ links inductionHypothesis =>
      refine walkFrom_append ?_ arrives
      intro _ target rest jumped
      rw [jumpOf_succ] at jumped ⊢
      rw [← List.append_assoc]
      exact inductionHypothesis jumped

/-- A path within the limits is walked. -/
theorem find_of_short {path : Path} (noZero : 0 ∉ path.bytes)
    (nonempty : path.bytes ≠ []) (short : path.bytes.length ≤ pathLimit)
    (tree : FileTree) (purpose : Purpose) :
    tree.find purpose path =
      tree.walk purpose linkLimit (startOf tree.workingDirectory path)
        path.steps := by
  have notLong : ¬ pathLimit < path.bytes.length := Nat.not_lt.mpr short
  simp [find, follow, noZero, nonempty, notLong]

/-- A path that leads somewhere is walked in every tree. -/
theorem find_of_ok {purpose : Purpose} {path : Path} {place : Place}
    (found : tree.find purpose path = .ok place) (other : FileTree)
    (wanted : Purpose) :
    other.find wanted path =
      other.walk wanted linkLimit (startOf other.workingDirectory path)
        path.steps := by
  unfold find follow at found ⊢
  split at found
  · cases found
  · next short =>
      rw [if_neg short]
      split at found
      · cases found
      · next noZero =>
          rw [if_neg noZero]
          split at found
          · cases found
          · next nonempty => rw [if_neg nonempty]

theorem walk_of_find {purpose : Purpose} {path : Path} {place : Place}
    (found : tree.find purpose path = .ok place) :
    tree.walk purpose linkLimit (startOf tree.workingDirectory path)
      path.steps = .ok place :=
  (find_of_ok found tree purpose).symm.trans found

end CsdlHighlight.FileTree
