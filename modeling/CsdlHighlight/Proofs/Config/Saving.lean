import CsdlHighlight.Proofs.Config.RoundTrip

/-!
Contract: a save touches one file, and none if it fails.

Owns:
- `Config.Refusal`, the reasons for which a save fails;
- what a save leaves of a tree, by its outcome.

Does not own: how the file is read again.
-/

namespace CsdlHighlight.Config

open FileTree

variable {config : Config} {path : Path} {before after : FileTree}

/-- Only a path that is no text keeps a configuration from being written
down. -/
theorem toToml?_eq_none_iff :
    config.toToml? = none ↔ ∃ path ∈ config.paths, path.text? = none := by
  constructor
  · intro missing
    by_contra allTexts
    push Not at allTexts
    obtain ⟨text, hasText⟩ := Option.ne_none_iff_exists'.mp
      (allTexts config.snippetsPath List.mem_cons_self)
    cases isTemplate : config.templatePath with
    | none =>
        rw [toToml?, templateLine?, isTemplate, pathLine?, hasText] at missing
        cases missing
    | some template =>
        obtain ⟨templateText, templateHasText⟩ := Option.ne_none_iff_exists'.mp
          (allTexts template (by simp [paths, isTemplate]))
        rw [toToml?, templateLine?, isTemplate, pathLine?, hasText] at missing
        simp only [pathLine?, templateHasText] at missing
        cases missing
  · rintro ⟨path, member, noText⟩
    rw [Option.eq_none_iff_forall_not_mem]
    intro document written
    obtain ⟨text, hasText⟩ := exists_text_of_toToml? written member
    rw [noText] at hasText
    cases hasText

/-- Why a save fails: the directories above its file cannot be made, some path of
the configuration is no text, or the file cannot be written although the
directories are there. -/
inductive Refusal (config : Config) (path : Path) (before after : FileTree) :
    SaveError → Prop where
  | directories {failure : DiskError}
      (refused : (createParents writer path before).1 = .error failure) :
      Refusal config path before after (.disk failure)
  | noText {unwritable : Path} (member : unwritable ∈ config.paths)
      (noText : unwritable.text? = none) :
      Refusal config path before after .pathNotUtf8
  | file {document : Text} {failure : DiskError}
      (written : config.toToml? = some document)
      (refused : after.writeFile path (Utf8.encode document) = .error failure) :
      Refusal config path before after (.disk failure)

/-- Every save that fails has one of the reasons in `Refusal`. -/
theorem refusal_of_save {failure : SaveError}
    (saved : config.save writer path before = (.error failure, after)) :
    config.Refusal path before after failure := by
  cases saves_of_save saved with
  | noDirectories refused => exact .directories (congrArg Prod.fst refused)
  | noDocument created missing =>
      obtain ⟨unwritable, member, noText⟩ := toToml?_eq_none_iff.mp missing
      exact .noText member noText
  | noFile created written refused => exact .file written refused

/-- A save that fails has been refused for a reason.  It changes no file and
creates none: all it may leave behind are directories to which paths above the
target lead.  A save that succeeds changes or creates the one file to which the
target leads, and what it writes there is the document of the configuration,
whatever was there before. -/
theorem save_touches_target_only (config : Config) (path : Path)
    (before : FileTree) :
    match config.save writer path before with
    | (.error failure, after) =>
        config.Refusal path before after failure ∧
          (∀ location, after.fileAt? location = before.fileAt? location) ∧
          (∀ location entry, before.entry? location = some entry →
            after.entry? location = some entry) ∧
          ∀ location entry, before.entry? location = none →
            after.entry? location = some entry →
              entry = .directory ∧ ∃ parent ∈ path.above,
                after.resolve parent = .ok (location, .directory)
    | (.ok (), after) =>
        ∃ document spot, config.toToml? = some document ∧
          after.resolve path = .ok (spot, .file (Utf8.encode document)) ∧
          ∀ location, location ≠ spot →
            after.fileAt? location = before.fileAt? location := by
  generalize saved : config.save writer path before = result
  obtain ⟨outcome, after⟩ := result
  rcases save_cases saved with
    ⟨failure, rfl, along⟩ | ⟨rfl, document, between, along, written, change⟩
  · refine ⟨refusal_of_save saved, along.fileAt?_eq, along.grows.kept, ?_⟩
    intro location entry missing held
    exact along.exists_path missing held
  · obtain ⟨spot, rfl, leads⟩ := exists_insert_of_writeFile change
    refine ⟨document, spot, written, leads, ?_⟩
    intro location elsewhere
    rw [fileAt?_insert_of_ne elsewhere, along.fileAt?_eq]

/-- Directories are created for every part of the target, also for one that the
next part leaves again, before it turns out that a path is no text. -/
example :
    let result := (ofSnippets ⟨[0xff]⟩).save writer
      (Path.ofText "a/../b/c".toList) FileTree.empty
    result.1 = .error .pathNotUtf8 ∧
      result.2.entries = [([.ofText "b".toList], .directory),
        ([.ofText "a".toList], .directory)] := by
  decide +kernel

end CsdlHighlight.Config
