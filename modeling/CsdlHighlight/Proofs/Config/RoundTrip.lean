import CsdlHighlight.Config.File
import CsdlHighlight.FileTree.Operations
import CsdlHighlight.Proofs.Config.Document
import CsdlHighlight.Proofs.FileTree.Creation

/-!
Contract: a configuration that has been saved is loaded again, with its paths
expanded and nothing else changed.

Owns:
- the texts that are their own expansion, and the expansion of a path with a
  text;
- `Config.Saves`, what a save has done, be it successful or not;
- `Config.LoadsAs`, and the round trip through a file.

Does not own: the document between the two.
-/

namespace CsdlHighlight

namespace PathExpansion

/-- A text in which nothing is expanded. -/
structure IsInert (text : Text) : Prop where
  noVariable : '$' ∉ text
  noHome : text.head? ≠ some '~'

variable {environment : Environment} {text : Text}

theorem expandVariablesIn_of_not_mem (noVariable : '$' ∉ text) {fuel : Nat}
    (enough : text.length ≤ fuel) :
    expandVariablesIn environment fuel text = some text := by
  induction text generalizing fuel with
  | nil => cases fuel <;> rfl
  | cons character rest inductionHypothesis =>
      obtain ⟨notHere, notBehind⟩ := not_or.mp (mt List.mem_cons.mpr noVariable)
      obtain ⟨less, rfl⟩ : ∃ less, fuel = less + 1 :=
        ⟨fuel - 1, by simp only [List.length_cons] at enough; omega⟩
      rw [expandVariablesIn,
        inductionHypothesis notBehind (Nat.le_of_succ_le_succ enough)]
      · rfl
      · exact fun same => notHere same.symm

/-- Without a dollar sign, and without a tilde at its head, a text is its own
expansion. -/
theorem IsInert.expand_eq (inert : IsInert text) (environment : Environment) :
    expand environment text = some text := by
  have home : expandHome environment text = text := by
    unfold expandHome
    split
    · exact absurd rfl inert.noHome
    · rfl
  rw [expand, expandVariables,
    expandVariablesIn_of_not_mem inert.noVariable (Nat.le_refl _),
    Option.map_some, home, ite_self]

/-- A path with a text is the expansion of its text, or stays as it is. -/
theorem expandPath_ofText (environment : Environment) (text : Text) :
    expandPath environment (Path.ofText text) =
      Path.ofText ((expand environment text).getD text) := by
  have shown : (Path.ofText text).display = text := Utf8.repair_encode text
  rw [expandPath, shown]
  cases expand environment text <;> rfl

end PathExpansion

/-! ## Paths that are loaded -/

namespace Path

/-- A path as it is loaded: the expansion of the text that was saved, or what
was saved where the text cannot be expanded. -/
def LoadsAs (environment : Environment) (saved loaded : Path) : Prop :=
  ∃ text, saved.text? = some text ∧
    ((∃ expanded, PathExpansion.expand environment text = some expanded ∧
        loaded = ofText expanded) ∨
      PathExpansion.expand environment text = none ∧ loaded = saved)

def IsInert (path : Path) : Prop :=
  ∀ text, path.text? = some text → PathExpansion.IsInert text

theorem text?_ofText (text : Text) : (ofText text).text? = some text :=
  Utf8.decode?_encode text

theorem ofText_injective : Function.Injective ofText := by
  intro first second same
  have sameText := congrArg text? same
  rw [text?_ofText, text?_ofText] at sameText
  exact Option.some.inj sameText

theorem loadsAs_expandPath (environment : Environment) {path : Path}
    {text : Text} (hasText : path.text? = some text) :
    path.LoadsAs environment (PathExpansion.expandPath environment path) := by
  obtain rfl := eq_ofText_of_text? hasText
  refine ⟨text, hasText, ?_⟩
  rw [PathExpansion.expandPath_ofText]
  cases PathExpansion.expand environment text with
  | none => exact .inr ⟨rfl, rfl⟩
  | some expanded => exact .inl ⟨expanded, rfl, rfl⟩

/-- A path with a text is loaded as it was saved exactly when the expansion of
its text fails or changes nothing. -/
theorem expandPath_eq_iff {path : Path} {text : Text}
    (hasText : path.text? = some text) (environment : Environment) :
    PathExpansion.expandPath environment path = path ↔
      PathExpansion.expand environment text = none ∨
        PathExpansion.expand environment text = some text := by
  obtain rfl := eq_ofText_of_text? hasText
  rw [PathExpansion.expandPath_ofText]
  cases PathExpansion.expand environment text with
  | none => simp
  | some expanded => simp [ofText_injective.eq_iff]

theorem IsInert.expandPath_eq {path : Path} {text : Text} (inert : path.IsInert)
    (hasText : path.text? = some text) (environment : Environment) :
    PathExpansion.expandPath environment path = path :=
  (expandPath_eq_iff hasText environment).mpr
    (.inr ((inert text hasText).expand_eq environment))

end Path

namespace Config

def paths (config : Config) : List Path :=
  config.snippetsPath :: config.templatePath.toList

/-- What a saved configuration is loaded as: the same but for its paths, which
are expanded. -/
structure LoadsAs (environment : Environment) (saved loaded : Config) :
    Prop where
  escaping : loaded.escaping = saved.escaping
  attributionName : loaded.attributionName = saved.attributionName
  attributionUrl : loaded.attributionUrl = saved.attributionUrl
  snippetsPath : saved.snippetsPath.LoadsAs environment loaded.snippetsPath
  templatePath : Option.Rel (Path.LoadsAs environment) saved.templatePath
    loaded.templatePath
  unchanged : (∀ path ∈ saved.paths, path.IsInert) → loaded = saved

variable {config : Config} {document : Text} {path : Path}

/-- Every path of a configuration that can be written has a text. -/
theorem exists_text_of_toToml? (written : config.toToml? = some document)
    {path : Path} (member : path ∈ config.paths) :
    ∃ text, path.text? = some text := by
  obtain ⟨snippets, template, snippetsPath, templatePath, -⟩ :=
    exists_entries_of_toToml? written
  rw [paths, snippetsPath, templatePath, List.mem_cons,
    Option.mem_toList] at member
  rcases member with rfl | isTemplate
  · exact ⟨snippets, Path.text?_ofText snippets⟩
  · obtain ⟨text, -, rfl⟩ := Option.map_eq_some_iff.mp isTemplate
    exact ⟨text, Path.text?_ofText text⟩

theorem loadsAs_expandPaths (written : config.toToml? = some document)
    (environment : Environment) :
    config.LoadsAs environment (config.expandPaths environment) where
  escaping := rfl
  attributionName := rfl
  attributionUrl := rfl
  snippetsPath := by
    obtain ⟨text, hasText⟩ := exists_text_of_toToml? written List.mem_cons_self
    exact Path.loadsAs_expandPath environment hasText
  templatePath := by
    rw [expandPaths]
    cases isTemplate : config.templatePath with
    | none => exact .none
    | some template =>
        have member : template ∈ config.paths := by simp [paths, isTemplate]
        obtain ⟨text, hasText⟩ := exists_text_of_toToml? written member
        exact .some (Path.loadsAs_expandPath environment hasText)
  unchanged inert := by
    have kept : ∀ path ∈ config.paths,
        PathExpansion.expandPath environment path = path := by
      intro path member
      obtain ⟨text, hasText⟩ := exists_text_of_toToml? written member
      exact (inert path member).expandPath_eq hasText environment
    have snippetsPath := kept config.snippetsPath List.mem_cons_self
    have templatePath : config.templatePath.map
        (PathExpansion.expandPath environment) = config.templatePath := by
      cases isTemplate : config.templatePath with
      | none => rfl
      | some template =>
          exact congrArg some (kept template (by simp [paths, isTemplate]))
    rw [expandPaths, snippetsPath, templatePath]

/-! ## The file -/

/-- What a save does.  It makes the directories above its file, then the document,
and writes the document as the last thing.  It stops where it is refused. -/
inductive Saves (config : Config) (path : Path) (before : FileTree) :
    Except SaveError Unit → FileTree → Prop where
  | noDirectories {failure : DiskError} {after : FileTree}
      (refused : createParents FileTree.writer path before =
        (.error failure, after)) :
      Saves config path before (.error (.disk failure)) after
  | noDocument {after : FileTree}
      (created : createParents FileTree.writer path before = (.ok (), after))
      (missing : config.toToml? = none) :
      Saves config path before (.error .pathNotUtf8) after
  | noFile {document : Text} {failure : DiskError} {after : FileTree}
      (created : createParents FileTree.writer path before = (.ok (), after))
      (written : config.toToml? = some document)
      (refused : after.writeFile path (Utf8.encode document) =
        .error failure) :
      Saves config path before (.error (.disk failure)) after
  | done {document : Text} {between after : FileTree}
      (created : createParents FileTree.writer path before = (.ok (), between))
      (written : config.toToml? = some document)
      (change : between.writeFile path (Utf8.encode document) = .ok after) :
      Saves config path before (.ok ()) after

/-- Every save is one of the cases of `Saves`. -/
theorem saves_of_save {before after : FileTree}
    {outcome : Except SaveError Unit}
    (saved : config.save FileTree.writer path before = (outcome, after)) :
    config.Saves path before outcome after := by
  simp only [save, bind, StateT.bind] at saved
  generalize created : createParents FileTree.writer path before = made at saved
  obtain ⟨parents, between⟩ := made
  cases parents with
  | error failure =>
      cases saved
      exact .noDirectories created
  | ok done =>
      cases written : config.toToml? with
      | none =>
          rw [written] at saved
          cases saved
          exact .noDocument created written
      | some document =>
          rw [written] at saved
          simp only [StateT.bind, FileTree.writer] at saved
          cases change : between.writeFile path (Utf8.encode document) with
          | error failure =>
              rw [change] at saved
              cases saved
              exact .noFile created written change
          | ok changed =>
              rw [change] at saved
              cases saved
              exact .done created written change

/-- A save that fails has created directories above its file and nothing else.
One that succeeds has written the document of the configuration as the last
thing. -/
theorem save_cases {before after : FileTree} {outcome : Except SaveError Unit}
    (saved : config.save FileTree.writer path before = (outcome, after)) :
    (∃ failure, outcome = .error failure ∧
        before.GrowsAlong path.above after) ∨
      outcome = .ok () ∧ ∃ document between,
        before.GrowsAlong path.above between ∧
        config.toToml? = some document ∧
        FileTree.writeFile between path (Utf8.encode document) = .ok after := by
  have grows := FileTree.Creates.createParents path before
  cases saves_of_save saved with
  | noDirectories refused =>
      rw [refused] at grows
      exact .inl ⟨_, rfl, grows⟩
  | noDocument created missing =>
      rw [created] at grows
      exact .inl ⟨_, rfl, grows⟩
  | noFile created written refused =>
      rw [created] at grows
      exact .inl ⟨_, rfl, grows⟩
  | done created written change =>
      rw [created] at grows
      exact .inr ⟨rfl, _, _, grows, written, change⟩

/-- A save that succeeds has written the whole document. -/
theorem exists_written_of_save {before after : FileTree}
    (saved : config.save FileTree.writer path before = (.ok (), after)) :
    ∃ document between, config.toToml? = some document ∧
      FileTree.writeFile between path (Utf8.encode document) = .ok after := by
  rcases save_cases saved with ⟨failure, isError, -⟩ | ⟨-, kept⟩
  · cases isError
  · obtain ⟨document, between, -, written, change⟩ := kept
    exact ⟨document, between, written, change⟩

/-- A file whose bytes are the document of a configuration is loaded as it. -/
theorem load_of_content {tree : FileTree}
    (held : tree.content path = .ok (Utf8.encode document))
    (written : config.toToml? = some document) (environment : Environment) :
    load tree.reader environment path =
      pure (.ok (some (config.expandPaths environment))) := by
  have readText : tree.reader.readText path = pure (.ok document) := by
    simp only [DiskReader.readText, FileTree.reader, held, pure_bind,
      DiskError.decode, Utf8.decode?_encode]
  have isThere : tree.reader.present path = pure true := by
    simp only [FileTree.reader, FileTree.present_of_content held]
  rw [load, isThere, pure_bind, if_pos rfl, readText, pure_bind]
  simp only [ofToml_of_toToml? written]

/-- A configuration that has been saved is loaded from the same path, with
nothing but its paths changed, and those only by their expansion. -/
theorem load_of_save {before after : FileTree}
    (saved : config.save FileTree.writer path before = (.ok (), after))
    (environment : Environment) :
    ∃ loaded, load after.reader environment path = pure (.ok (some loaded)) ∧
      config.LoadsAs environment loaded := by
  obtain ⟨document, between, written, change⟩ := exists_written_of_save saved
  exact ⟨config.expandPaths environment,
    load_of_content (FileTree.content_of_writeFile change) written environment,
    loadsAs_expandPaths written environment⟩

/-- A configuration that needs every form of a string, and whose paths are not
their own expansion. -/
def awkward : Config where
  snippetsPath := Path.ofText "~/it's $$ \"\"\"\n".toList
  templatePath := some (Path.ofText "/$T/'\"\t".toList)
  escaping := true
  attributionName := "'''\"\"\"\r\u007f\\".toList
  attributionUrl := "\n\"\"\"\"'".toList

def atHome : Environment :=
  ⟨[Utf8.encode "HOME=/h".toList], none⟩

def awkwardTree : FileTree :=
  (awkward.save FileTree.writer (Path.ofText "/c".toList) FileTree.empty).2

theorem load_of_save_awkward :
    awkward.save FileTree.writer (Path.ofText "/c".toList) FileTree.empty =
        (.ok (), awkwardTree) ∧
      ∃ loaded,
        load awkwardTree.reader atHome (Path.ofText "/c".toList) =
          pure (.ok (some loaded)) ∧
        awkward.LoadsAs atHome loaded := by
  have saved : awkward.save FileTree.writer (Path.ofText "/c".toList)
      FileTree.empty = (.ok (), awkwardTree) := rfl
  exact ⟨saved, load_of_save saved atHome⟩

end Config

end CsdlHighlight
