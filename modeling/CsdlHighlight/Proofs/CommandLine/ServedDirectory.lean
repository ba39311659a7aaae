import CsdlHighlight.Proofs.Config.RoundTrip
import CsdlHighlight.Proofs.FileTree.Reading

/-!
Contract: the directory whose gists are served after `init`.

Owns:
- `FileTree.Serves`, what the runs do that serve the gists of a directory;
- what an `init` that succeeds has found and saved;
- the directory that is served as long as the file of the configuration stays as
  `init` left it: the canonical path with its variables expanded.

Does not own: the gists themselves.
-/

namespace CsdlHighlight

namespace FileTree

/-- A run that writes some output if a directory is there, and fails otherwise.
It leaves the tree as it is. -/
def WritesFrom (tree : FileTree) (root : Path) (output : Text)
    (run : Ending × FileTree) : Prop :=
  (if tree.isDirectory root then
    run.1.status = 0 ∧ run.1.output = output
  else
    run.1.status = 1 ∧ run.1.output = []) ∧ run.2 = tree

/-- The runs on a tree serve the gists of a directory, with the options and the
template of a new configuration. -/
structure Serves (tree : FileTree) (environment : Environment) (root : Path) :
    Prop where
  loads : Config.load tree.reader environment (Config.defaultPath environment) =
    pure (.ok (some (Config.ofSnippets root)))
  page : ∀ input arguments id,
    Invocation.ofArguments arguments = .command (.page id) →
      tree.WritesFrom root
        ((EmbedService.page ⟨⟨root⟩, .standard⟩ tree.reader
          (Config.ofSnippets root).renderOptions id).value ++ ['\n'])
        (tree.run environment input arguments)
  script : ∀ input arguments id,
    Invocation.ofArguments arguments = .command (.script id false) →
      tree.WritesFrom root
        (EmbedService.script ⟨⟨root⟩, .standard⟩ tree.reader
          (Config.ofSnippets root).renderOptions id).value
        (tree.run environment input arguments)
  dataScript : ∀ input arguments id,
    Invocation.ofArguments arguments = .command (.script id true) →
      tree.WritesFrom root
        (EmbedService.dataScript ⟨⟨root⟩, .standard⟩ tree.reader id).value
        (tree.run environment input arguments)

variable {tree : FileTree} {environment : Environment} {root : Path}

/-- What is served with a configuration that is new but for its place. -/
theorem result_withService {host : Host} {input : Bytes}
    (loads : Config.load tree.reader environment
      (Config.defaultPath environment) =
        pure (.ok (some (Config.ofSnippets root))))
    (serve : Config → EmbedService → Id (Logged Text)) :
    Report.result ((surroundings host environment input tree).withService
      serve) =
      if tree.isDirectory root then
        .ok [Logged.value
          (serve (Config.ofSnippets root) ⟨⟨root⟩, .standard⟩)]
      else
        .error (.notADirectory root) := by
  have loaded : (surroundings host environment input tree).loadConfig =
      pure (.ok (some (Config.ofSnippets root))) := loads
  have there : (surroundings host environment input tree).disk.isDirectory
      root = pure (tree.isDirectory root) := rfl
  unfold Surroundings.withService
  rw [loaded, pure_bind]
  simp only [Config.ofSnippets, there, pure_bind]
  split <;> rfl

theorem writesFrom_of_report {input : Bytes} {arguments : List Bytes}
    {command : Command} {report : Report (List Text)} {output : Text}
    (asks : Invocation.ofArguments arguments = .command command)
    (plans : (surroundings firstHost environment input tree).plan command =
      pure (.write report))
    (result : report.result =
      if tree.isDirectory root then .ok [output]
      else .error (.notADirectory root)) :
    tree.WritesFrom root output (tree.run environment input arguments) := by
  rw [run, runOn_eq asks, plans]
  obtain ⟨log, outcome⟩ := report
  constructor
  · cases isDirectory : tree.isDirectory root with
    | true =>
        obtain rfl : outcome = .ok [output] := by
          simpa [isDirectory] using result
        exact ⟨rfl, List.append_nil output⟩
    | false =>
        obtain rfl : outcome = .error (.notADirectory root) := by
          simpa [isDirectory] using result
        exact ⟨rfl, rfl⟩
  · cases outcome <;> rfl

/-- The configuration decides what is served. -/
theorem serves_of_load
    (loads : Config.load tree.reader environment
      (Config.defaultPath environment) =
        pure (.ok (some (Config.ofSnippets root)))) :
    tree.Serves environment root where
  loads := loads
  page _ _ _ asks :=
    writesFrom_of_report asks rfl (result_withService loads _)
  script _ _ _ asks :=
    writesFrom_of_report asks rfl (result_withService loads _)
  dataScript _ _ _ asks :=
    writesFrom_of_report asks rfl (result_withService loads _)

/-! ## After `init` -/

variable {input : Bytes} {arguments : List Bytes} {operand : Text}

/-- The directory is looked at before anything is saved, and it is saved by its
canonical path. -/
theorem plan_init :
    (surroundings firstHost environment input tree).plan (.init operand) =
      match tree.canonicalPath (Path.ofText operand) with
      | .error failure => .write (.failed [] (.unresolved operand failure))
      | .ok path =>
          if tree.isDirectory path then
            .save (Config.defaultPath environment) (Config.ofSnippets path)
          else
            .write (.failed [] (.notADirectory path)) :=
  rfl

/-- An `init` that succeeds has found a directory and has saved its canonical
path. -/
theorem exists_saved_of_init {before : FileTree}
    (asks : Invocation.ofArguments arguments = .command (.init operand))
    (succeeds : (before.run environment input arguments).1.status = 0) :
    ∃ canonical,
      before.canonicalPath (Path.ofText operand) = .ok canonical ∧
      before.isDirectory canonical = true ∧
      (Config.ofSnippets canonical).save writer (Config.defaultPath environment)
        before = (.ok (), (before.run environment input arguments).2) := by
  generalize ends : before.run environment input arguments = run at succeeds ⊢
  obtain ⟨ending, after⟩ := run
  rw [run, runOn_eq asks, plan_init] at ends
  cases found : before.canonicalPath (Path.ofText operand) with
  | error failure =>
      rw [found] at ends
      cases ends
      cases succeeds
  | ok canonical =>
      rw [found] at ends
      cases isDirectory : before.isDirectory canonical with
      | false =>
          simp only [isDirectory] at ends
          cases ends
          cases succeeds
      | true =>
          refine ⟨canonical, rfl, isDirectory, ?_⟩
          simp only [isDirectory, if_true, carriedOut] at ends
          generalize (Config.ofSnippets canonical).save writer
            (Config.defaultPath environment) before = saved at ends ⊢
          obtain ⟨outcome, changed⟩ := saved
          cases outcome with
          | ok done =>
              cases ends
              rfl
          | error failure =>
              cases ends
              cases succeeds

/-- A configuration that has been saved is loaded wherever its file is as it was
left. -/
theorem load_of_untouched {config : Config} {path : Path}
    {before after later : FileTree}
    (saved : config.save writer path before = (.ok (), after))
    (untouched : later.content path = after.content path)
    (environment : Environment) :
    Config.load later.reader environment path =
      pure (.ok (some (config.expandPaths environment))) := by
  obtain ⟨document, between, written, change⟩ :=
    Config.exists_written_of_save saved
  have held : later.content path = .ok (Utf8.encode document) :=
    untouched.trans (content_of_writeFile change)
  exact Config.load_of_content held written environment

/-- A canonical path starts at the root, so no home directory is put into it. -/
theorem noHome_of_canonicalPath {path canonical : Path} {text : Text}
    (found : tree.canonicalPath path = .ok canonical)
    (hasText : canonical.text? = some text) : text.head? ≠ some '~' := by
  have absolute : canonical.isAbsolute = true := by
    unfold canonicalPath at found
    split at found
    · split at found
      · cases found
      · cases found
        rfl
    · cases found
  obtain rfl := Path.eq_ofText_of_text? hasText
  intro home
  obtain ⟨rest, rfl⟩ := List.head?_eq_some_iff.mp home
  have relative : (Path.ofText ('~' :: rest)).isAbsolute = false := rfl
  rw [relative] at absolute
  cases absolute

/-- After an `init` that succeeds, and as long as the file of the configuration
stays as it is, the gists of one directory are served: the canonical path of the
operand, but with its variables expanded.  These are the same exactly when the
expansion fails or changes nothing. -/
theorem serves_after_init {before : FileTree}
    (asks : Invocation.ofArguments arguments = .command (.init operand))
    (succeeds : (before.run environment input arguments).1.status = 0) :
    ∃ canonical text,
      before.canonicalPath (Path.ofText operand) = .ok canonical ∧
      canonical.text? = some text ∧
      (∀ later : FileTree,
        later.content (Config.defaultPath environment) =
            (before.run environment input arguments).2.content
              (Config.defaultPath environment) →
          later.Serves environment
            (PathExpansion.expandPath environment canonical)) ∧
      (PathExpansion.expandPath environment canonical = canonical ↔
        PathExpansion.expand environment text = none ∨
          PathExpansion.expand environment text = some text) ∧
      ('$' ∉ text →
        PathExpansion.expandPath environment canonical = canonical) := by
  obtain ⟨canonical, found, -, saved⟩ :=
    exists_saved_of_init asks succeeds
  obtain ⟨document, between, written, -⟩ := Config.exists_written_of_save saved
  obtain ⟨text, hasText⟩ :=
    Config.exists_text_of_toToml? written List.mem_cons_self
  refine ⟨canonical, text, found, hasText, ?_, ?_, ?_⟩
  · intro later untouched
    exact serves_of_load (load_of_untouched saved untouched environment)
  · exact Path.expandPath_eq_iff hasText environment
  · intro noVariable
    have inert : PathExpansion.IsInert text :=
      ⟨noVariable, noHome_of_canonicalPath found hasText⟩
    exact (Path.expandPath_eq_iff hasText environment).mpr
      (.inr (inert.expand_eq environment))

def initArguments (operand : Text) : List Bytes :=
  [Utf8.encode "init".toList, Utf8.encode operand]

def treeWith (name : Text)
    (valid : IsFileName (Utf8.encode name) := by decide) : FileTree :=
  FileTree.empty.insert [.ofText name valid] .directory

/-- A directory whose path has nothing to expand is served as it stands. -/
theorem serves_after_init_plain :
    Invocation.ofArguments (initArguments "g".toList) =
        .command (.init "g".toList) ∧
      ((treeWith "g".toList).run Config.atHome []
        (initArguments "g".toList)).1.status = 0 ∧
      ((treeWith "g".toList).run Config.atHome []
        (initArguments "g".toList)).2.Serves Config.atHome
          (Path.ofText "/g".toList) := by
  have asks : Invocation.ofArguments (initArguments "g".toList) =
      .command (.init "g".toList) := rfl
  have succeeds : ((treeWith "g".toList).run Config.atHome []
      (initArguments "g".toList)).1.status = 0 := by
    decide +kernel
  obtain ⟨canonical, text, found, hasText, serves, -, kept⟩ :=
    serves_after_init asks succeeds
  have isCanonical : (treeWith "g".toList).canonicalPath
      (Path.ofText "g".toList) = .ok (Path.ofText "/g".toList) := rfl
  obtain rfl := Except.ok.inj (found.symm.trans isCanonical)
  obtain rfl := Option.some.inj (hasText.symm.trans (Path.text?_ofText _))
  have untouched := serves _ (Eq.refl _)
  rw [kept (by decide)] at untouched
  exact ⟨asks, succeeds, untouched⟩

/-- A directory whose name is expanded to another one is not served. -/
theorem not_serves_after_init_dollar :
    Invocation.ofArguments (initArguments "g$$x".toList) =
        .command (.init "g$$x".toList) ∧
      ((treeWith "g$$x".toList).run Config.atHome []
        (initArguments "g$$x".toList)).1.status = 0 ∧
      (treeWith "g$$x".toList).canonicalPath (Path.ofText "g$$x".toList) =
        .ok (Path.ofText "/g$$x".toList) ∧
      ¬ ((treeWith "g$$x".toList).run Config.atHome []
        (initArguments "g$$x".toList)).2.Serves Config.atHome
          (Path.ofText "/g$$x".toList) := by
  have asks : Invocation.ofArguments (initArguments "g$$x".toList) =
      .command (.init "g$$x".toList) := rfl
  have succeeds : ((treeWith "g$$x".toList).run Config.atHome []
      (initArguments "g$$x".toList)).1.status = 0 := by
    decide +kernel
  have isCanonical : (treeWith "g$$x".toList).canonicalPath
      (Path.ofText "g$$x".toList) = .ok (Path.ofText "/g$$x".toList) := rfl
  refine ⟨asks, succeeds, isCanonical, ?_⟩
  intro serves
  obtain ⟨canonical, found, -, saved⟩ :=
    exists_saved_of_init asks succeeds
  obtain rfl := Except.ok.inj (found.symm.trans isCanonical)
  have loads := load_of_untouched saved (Eq.refl _) Config.atHome
  have same := serves.loads.symm.trans loads
  have sameRoot :=
    congrArg Config.snippetsPath (Option.some.inj (Except.ok.inj same))
  exact absurd sameRoot (by decide)

end FileTree

end CsdlHighlight
