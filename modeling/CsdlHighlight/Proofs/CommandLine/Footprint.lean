import CsdlHighlight.Proofs.CommandLine.Output
import CsdlHighlight.Proofs.CommandLine.ServedDirectory

/-!
Contract: the output and the files that a run of the program can touch.

Owns:
- the plans of the commands, of which only that of `init` saves anything;
- the output and the files of a run by its exit status, on any output stream, and
  the directories that a failing run leaves;
- failing runs that leave some output and some directories.

Does not own: what a run says on the stream for errors.
-/

namespace CsdlHighlight

/-- The plan of a command is to write, or for `init` to save a configuration in
its place. -/
theorem Surroundings.plan_cases (around : Surroundings Id) (command : Command) :
    (∃ report, around.plan command = .write report) ∨
      ∃ operand config, command = .init operand ∧
        around.plan command = .save around.configPath config := by
  cases command with
  | html operand => exact .inl ⟨around.planHtml operand, rfl⟩
  | preview operand => exact .inl ⟨around.planPreview operand, rfl⟩
  | page id => exact .inl ⟨around.planPage id, rfl⟩
  | script id data => exact .inl ⟨around.planScript id data, rfl⟩
  | init operand =>
      show (∃ report, around.planInit operand = .write report) ∨
        ∃ other config, Command.init operand = .init other ∧
          around.planInit operand = .save around.configPath config
      unfold planInit
      generalize around.disk.canonicalPath (Path.ofText operand) = found
      match found with
      | .error failure => exact .inl ⟨_, rfl⟩
      | .ok path =>
          by_cases isDirectory : around.disk.isDirectory path = true
          · exact .inr ⟨operand, Config.ofSnippets path, rfl,
              if_pos isDirectory⟩
          · exact .inl ⟨_, if_neg isDirectory⟩

namespace FileTree

variable {σ : Type} {stream : OutputStream (StateM σ)} {state : σ} {host : Host}
  {tree : FileTree} {environment : Environment} {input : Bytes}
  {arguments : List Bytes}

/-! ## The end of a run -/

/-- What a run has written, and what it has done to the files of the tree, by its
exit status.  Beside it stands the same run with every piece of output accepted. -/
structure Footprint (stream : OutputStream (StateM σ)) (state : σ)
    (tree : FileTree) (environment : Environment) (arguments : List Bytes)
    (accepted : Aftermath (List Text)) (run : Aftermath σ) : Prop where
  kept : run.ends.status ≠ 0 →
    ∀ location, run.tree.fileAt? location = tree.fileAt? location
  grown : run.ends.status ≠ 0 → run.tree ≠ tree →
    (∃ operand, Invocation.ofArguments arguments = .command (.init operand)) ∧
      tree.GrowsAlong (Config.defaultPath environment).above run.tree
  written : run.ends.status ≠ 0 → run.stream = state ∨
    accepted.ends.status = 0 ∧
      ∃ failure, stream.BreaksOff state accepted.stream failure run.stream
  asked : run.ends.status = 0 →
    ∀ location, run.tree.fileAt? location ≠ tree.fileAt? location →
      ∃ operand, Invocation.ofArguments arguments = .command (.init operand)
  named : run.ends.status = 0 →
    ∀ location, run.tree.fileAt? location ≠ tree.fileAt? location →
      ∃ content, run.tree.resolve (Config.defaultPath environment) =
        .ok (location, .file content)

namespace Footprint

variable {accepted : Aftermath (List Text)} {run : Aftermath σ}

theorem ofKept (kept : run.tree = tree)
    (written : run.ends.status ≠ 0 → run.stream = state ∨
      accepted.ends.status = 0 ∧
        ∃ failure, stream.BreaksOff state accepted.stream failure run.stream) :
    Footprint stream state tree environment arguments accepted run where
  kept _ location := by rw [kept]
  grown _ differs := absurd kept differs
  written := written
  asked _ location differs := absurd (by rw [kept]) differs
  named _ location differs := absurd (by rw [kept]) differs

/-- A plan to save writes nothing and changes at most the file it names. -/
theorem ofSave {config : Config} {operand : Text} {wish : LogWish}
    (asks : Invocation.ofArguments arguments = .command (.init operand)) :
    Footprint stream state tree environment arguments accepted
      (aftermathOf wish (carriedOut stream state tree
        (.save (Config.defaultPath environment) config))) := by
  generalize saved :
    config.save writer (Config.defaultPath environment) tree = result
  obtain ⟨outcome, after⟩ := result
  simp only [carriedOut, saved, aftermathOf]
  -- The document is made before the file is opened, so a save that fails has not
  -- emptied it.
  rcases Config.save_cases saved with
    ⟨failure, rfl, along⟩ | ⟨rfl, document, between, along, -, change⟩
  · exact ⟨fun _ => along.fileAt?_eq, fun _ _ => ⟨⟨operand, asks⟩, along⟩,
      fun _ => .inl rfl, fun done => absurd done Nat.one_ne_zero,
      fun done => absurd done Nat.one_ne_zero⟩
  · obtain ⟨spot, rfl, found⟩ := exists_insert_of_writeFile change
    refine ⟨absurd rfl, absurd rfl, absurd rfl, fun _ _ _ => ⟨operand, asks⟩,
      ?_⟩
    intro _ location differs
    -- Creating directories touches no file, so only the written one differs.
    have isSpot : location = spot := by
      by_contra elsewhere
      apply differs
      rw [fileAt?_insert_of_ne elsewhere, along.fileAt?_eq]
    subst isSpot
    exact ⟨_, found⟩

/-- A plan to write changes no file, and once it writes it fails only where a
piece is refused. -/
theorem ofWrite {report : Report (List Text)} {wish : LogWish} :
    Footprint stream state tree environment arguments
      (aftermathOf wish (carriedOut .recording [] tree (.write report)))
      (aftermathOf wish (carriedOut stream state tree (.write report))) := by
  obtain ⟨log, result⟩ := report
  cases result with
  | error failure => exact .ofKept rfl fun _ => .inl rfl
  | ok pieces =>
      generalize ends : stream.writeAll pieces state = result
      obtain ⟨outcome, after⟩ := result
      simp only [carriedOut, ends, OutputStream.writeAll_recording,
        List.nil_append]
      refine .ofKept rfl fun fails => ?_
      rcases OutputStream.writeAll_cases ends with
        ⟨rfl, -⟩ | ⟨failure, rfl, breaks⟩
      · exact absurd rfl fails
      · exact .inr ⟨rfl, failure, breaks⟩

/-- Where every piece is accepted, a run that fails has written nothing. -/
theorem silent (footprint :
      Footprint stream state tree environment arguments accepted run)
    (takesAll : ∀ piece state, (stream.write piece state).1 = .ok ())
    (fails : run.ends.status ≠ 0) : run.stream = state := by
  apply (footprint.written fails).resolve_right
  rintro ⟨-, failure, breaks⟩
  exact OutputStream.not_breaksOff takesAll breaks

end Footprint

/-- A run that fails has touched no file; if it was to `init`, it may have created
directories above the path of the configuration.  It has written nothing, unless
the output stream has refused a piece: then it has written the pieces before that
one, of those with which the run succeeds where all are accepted.  A run that
succeeds has touched a file only for `init`, and only the one that the path of the
configuration leads to. -/
theorem footprint_runOn (stream : OutputStream (StateM σ)) (state : σ)
    (host : Host) (tree : FileTree) (environment : Environment) (input : Bytes)
    (arguments : List Bytes) :
    Footprint stream state tree environment arguments
      (tree.runOn .recording [] host environment input arguments)
      (tree.runOn stream state host environment input arguments) := by
  cases asks : Invocation.ofArguments arguments with
  | undecodable argument =>
      rw [runOn_of_undecodable asks, runOn_of_undecodable asks]
      exact .ofKept rfl fun _ => .inl rfl
  | unknown =>
      rw [runOn_of_unknown asks, runOn_of_unknown asks]
      exact .ofKept rfl fun _ => .inl rfl
  | command command =>
      rw [runOn_eq asks, runOn_eq asks]
      let around := surroundings host environment input tree
      rcases around.plan_cases command with
        ⟨report, planned⟩ | ⟨operand, config, rfl, planned⟩
      · rw [planned]
        exact .ofWrite
      · rw [planned]
        exact .ofSave asks

def configLocation : Location :=
  [.ofText "h".toList, .ofText ".config".toList, .ofText "csdl-embed".toList,
    .ofText "config.toml".toList]

/-- A tree with a configuration, a directory whose name is no text, and a link
to it. -/
def configuredTree : FileTree :=
  let place (length : Nat) (entry : Entry) (tree : FileTree) : FileTree :=
    tree.insert (configLocation.take length) entry
  FileTree.empty
    |> place 1 .directory |> place 2 .directory |> place 3 .directory
    |> place 4 (.file (Utf8.encode "old".toList))
    |> (insert · [⟨[0xfe], by decide⟩] .directory)
    |> (insert · [.ofText "latest".toList] (.link ⟨[0xfe]⟩))

def configuredRun (stream : OutputStream (StateM (List Text)))
    (arguments : List Bytes) : Aftermath (List Text) :=
  configuredTree.runOn stream [] firstHost Config.atHome
    (Utf8.encode "a\nb".toList) arguments

def previewArguments : List Bytes :=
  [Utf8.encode "preview".toList, Utf8.encode ['-']]

/-- A pipe whose reader goes away behind the first line. -/
def firstLine : OutputStream (StateM (List Text)) where
  write := fun piece pieces =>
    if ['\n'] ∈ pieces then
      (.error (.system 32 "Broken pipe".toList), pieces)
    else
      (.ok (), pieces ++ [piece])

def treeWithFile : FileTree :=
  FileTree.empty.insert [.ofText "f".toList] (.file (Utf8.encode "kept".toList))

/-- A process whose home is written as a file behind a missing directory. -/
def homeInFile : Environment :=
  ⟨[Utf8.encode "HOME=x/../f".toList], none⟩

/-- The preview of two lines fails at the second one, behind the output of the
first.  Where there can be no directory for a configuration, `init` fails behind
the first directories on the way to it. -/
theorem failing_runs_leave_traces :
    let preview := configuredRun firstLine previewArguments
    let init := treeWithFile.runOn .recording [] firstHost homeInFile []
      (initArguments ['.'])
    (preview.ends = ⟨1, ["Error: Broken pipe (os error 32)\n".toList]⟩ ∧
      preview.stream = ["a".toList, ['\n']]) ∧
    init.ends = ⟨1, ["Error: File exists (os error 17)\n".toList]⟩ ∧
      treeWithFile.entry? [.ofText "x".toList] = none ∧
      init.tree.entry? [.ofText "x".toList] = some .directory := by
  decide +kernel

/-- Pointed at a directory whose path cannot be written down, `init` fails and
keeps the configuration that was there.  Pointed at another directory, it
replaces it.  A preview breaks off where its reader has gone away. -/
theorem footprint_runOn_configured :
    let failed := configuredRun .recording (initArguments "latest".toList)
    let done := configuredRun .recording (initArguments "h".toList)
    let broken := configuredRun firstLine previewArguments
    (failed.ends.status = 1 ∧ failed.stream = [] ∧
      failed.tree.fileAt? configLocation = some (Utf8.encode "old".toList)) ∧
    (done.ends.status = 0 ∧
      done.tree.fileAt? configLocation ≠
        configuredTree.fileAt? configLocation ∧
      ∃ content, done.tree.resolve (Config.defaultPath Config.atHome) =
        .ok (configLocation, .file content)) ∧
    broken.ends.status = 1 ∧
      ∃ failure, firstLine.BreaksOff []
        (configuredRun .recording previewArguments).stream failure
        broken.stream := by
  intro failed done broken
  have footprint : ∀ stream arguments, Footprint stream [] configuredTree
      Config.atHome arguments (configuredRun .recording arguments)
      (configuredRun stream arguments) := by
    intro stream arguments
    exact footprint_runOn stream [] firstHost configuredTree Config.atHome _ _
  refine ⟨⟨?_, ?_, ?_⟩, ⟨?_, ?_, ?_⟩, ?_, ?_⟩
  · decide +kernel
  · exact (footprint .recording _).silent (fun _ _ => rfl) (by decide +kernel)
  · have held : configuredTree.fileAt? configLocation =
        some (Utf8.encode "old".toList) := by
      decide +kernel
    rw [← held]
    exact (footprint .recording _).kept (by decide +kernel) configLocation
  · decide +kernel
  · decide +kernel
  · exact (footprint .recording _).named (by decide +kernel) configLocation
      (by decide +kernel)
  · decide +kernel
  · have written := (footprint firstLine previewArguments).written
      (by decide +kernel)
    exact (written.resolve_left (by decide +kernel)).2

end FileTree

end CsdlHighlight
