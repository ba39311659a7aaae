import CsdlHighlight.FileTree.Program

/-!
Contract: planning a command only reads.  It leaves the tree of the state as it
is, and its plan is the one on this tree.

Owns:
- `FileTree.Answers`, a program on the tree of the state with its answer on a
  tree, and its composition;
- the programs that a plan is made of, and the plans of all commands;
- a run as its plan and what carries it out on a tree and beside it on a stream.

Does not own: what a plan says.
-/

namespace CsdlHighlight

namespace FileTree

/-- A program that leaves a tree as it is and has an answer there. -/
def Answers {α : Type} (tree : FileTree) (program : StateM FileTree α)
    (answer : Id α) : Prop :=
  program tree = (answer, tree)

namespace Answers

variable {tree : FileTree} {α β : Type}

theorem pure (value : α) : Answers tree (pure value) (pure value) :=
  rfl

theorem bind {program : StateM FileTree α} {answer : Id α}
    {next : α → StateM FileTree β} {nextAnswer : α → Id β}
    (first : Answers tree program answer)
    (second : ∀ value, Answers tree (next value) (nextAnswer value)) :
    Answers tree (program >>= next) (answer >>= nextAnswer) := by
  show (program >>= next) tree = (nextAnswer answer, tree)
  simp only [Bind.bind, StateT.bind]
  rw [first]
  exact second answer

theorem readText (tree : FileTree) (path : Path) :
    Answers tree (stateReader.readText path) (tree.reader.readText path) :=
  rfl

theorem load (tree : FileTree) (environment : Environment) (path : Path) :
    Answers tree (Config.load stateReader environment path)
      (Config.load tree.reader environment path) := by
  unfold Config.load
  refine bind rfl fun isThere => ?_
  split
  · refine bind (readText tree path) fun document => ?_
    split
    · exact pure _
    · split <;> exact pure _
  · exact pure _

/-! ## Gists -/

theorem readMetadata (tree : FileTree) (directory : Path) :
    Answers tree (GistDirectory.readMetadata stateReader directory)
      (GistDirectory.readMetadata tree.reader directory) := by
  unfold GistDirectory.readMetadata
  refine bind rfl fun isThere => ?_
  split
  · refine bind (readText tree _) fun document => ?_
    split
    · exact pure _
    · split <;> exact pure _
  · exact pure _

theorem readFiles (tree : FileTree) (directory : Path) (names : List Name) :
    Answers tree (GistDirectory.readFiles stateReader directory names)
      (GistDirectory.readFiles tree.reader directory names) := by
  induction names with
  | nil => exact pure _
  | cons name rest inductionHypothesis =>
      unfold GistDirectory.readFiles
      refine bind (readText tree _) fun content => ?_
      split
      · exact pure _
      · refine bind inductionHypothesis fun files => ?_
        split <;> exact pure _

theorem readServed (tree : FileTree) (directory : Path) :
    Answers tree (GistDirectory.readServed stateReader directory)
      (GistDirectory.readServed tree.reader directory) := by
  unfold GistDirectory.readServed
  refine bind rfl fun listed => ?_
  split
  · exact pure _
  · exact readFiles tree directory _

theorem fetch (tree : FileTree) (gists : GistDirectory) (id : Text) :
    Answers tree (gists.fetch stateReader id) (gists.fetch tree.reader id) := by
  unfold GistDirectory.fetch
  split
  · exact pure _
  refine bind rfl fun isDirectory => ?_
  split
  · exact pure _
  refine bind (readMetadata tree _) fun metadata => ?_
  split
  · exact pure _
  refine bind (readServed tree _) fun files => ?_
  split <;> exact pure _

theorem lookup (tree : FileTree) (gists : GistDirectory) (id : Text) :
    Answers tree ((gists.source stateReader).lookup id)
      ((gists.source tree.reader).lookup id) :=
  bind (bind (fetch tree gists id) fun _ => pure _) fun _ => pure _

variable (service : EmbedService) (options : RenderOptions) (id : Text)

theorem page : Answers tree (service.page stateReader options id)
    (service.page tree.reader options id) :=
  bind (lookup tree service.gists id) fun _ => pure _

theorem script : Answers tree (service.script stateReader options id)
    (service.script tree.reader options id) :=
  bind (page service options id) fun _ => pure _

theorem dataScript : Answers tree (service.dataScript stateReader id)
    (service.dataScript tree.reader id) :=
  bind (lookup tree service.gists id) fun _ => pure _

end Answers

/-! ## Plans -/

variable (host : Host) (environment : Environment) (input : Bytes)

def stateSurroundings : Surroundings (StateM FileTree) where
  disk := stateReader
  environment := environment
  input := pure input
  host := host

def surroundings (tree : FileTree) : Surroundings Id where
  disk := tree.reader
  environment := environment
  input := pure input
  host := host

variable {host environment input}

namespace Answers

variable {tree : FileTree}

theorem loadConfig : Answers tree
    (stateSurroundings host environment input).loadConfig
    (surroundings host environment input tree).loadConfig :=
  load tree environment _

theorem readOperand (operand : Text) : Answers tree
    ((stateSurroundings host environment input).readOperand operand)
    ((surroundings host environment input tree).readOperand operand) := by
  unfold Surroundings.readOperand
  split
  · refine bind rfl fun bytes => ?_
    split <;> exact pure _
  · refine bind (readText tree _) fun text => ?_
    split <;> exact pure _

theorem readTemplate (config : Config) : Answers tree
    ((stateSurroundings host environment input).readTemplate config)
    ((surroundings host environment input tree).readTemplate config) := by
  unfold Surroundings.readTemplate
  split
  · exact pure _
  · refine bind (readText tree _) fun script => ?_
    split <;> exact pure _

theorem withService
    {serve : Config → EmbedService → StateM FileTree (Logged Text)}
    {answer : Config → EmbedService → Id (Logged Text)}
    (serves : ∀ config service,
      Answers tree (serve config service) (answer config service)) :
    Answers tree ((stateSurroundings host environment input).withService serve)
      ((surroundings host environment input tree).withService answer) := by
  unfold Surroundings.withService
  refine bind loadConfig fun loaded => ?_
  split
  · exact pure _
  · exact pure _
  · next config =>
      refine bind rfl fun isDirectory => ?_
      split
      · refine bind (readTemplate config) fun template => ?_
        split
        · exact pure _
        · exact bind (serves config _) fun _ => pure _
      · exact pure _

/-- Making a plan leaves the tree as it is. -/
theorem plan (command : Command) : Answers tree
    ((stateSurroundings host environment input).plan command)
    ((surroundings host environment input tree).plan command) := by
  cases command with
  | html operand =>
      refine bind (bind loadConfig fun loaded => ?_) fun _ => pure _
      split
      · exact pure _
      · refine bind (readOperand operand) fun text => ?_
        split <;> exact pure _
  | preview operand =>
      refine bind (bind (readOperand operand) fun text => ?_) fun _ => pure _
      split <;> exact pure _
  | page id =>
      refine bind (withService fun config service => ?_) fun _ => pure _
      exact bind (page service _ id) fun _ => pure _
  | script id data =>
      refine bind (withService fun config service => ?_) fun _ => pure _
      cases data with
      | false => exact bind (script service _ id) fun _ => pure _
      | true => exact bind (dataScript service id) fun _ => pure _
  | init operand =>
      refine bind rfl fun path => ?_
      split
      · exact pure _
      · refine bind rfl fun isDirectory => ?_
        split <;> exact pure _

end Answers

/-! ## Runs -/

variable {σ : Type} {stream : OutputStream (StateM σ)} {state : σ}
  {tree : FileTree} {arguments : List Bytes}

/-- Pieces are written beside a tree as if it were not there. -/
theorem writeAll_besideTree (pieces : List Text) :
    (besideTree stream).writeAll pieces state tree =
      (stream.writeAll pieces state, tree) := by
  induction pieces generalizing state with
  | nil => rfl
  | cons piece rest inductionHypothesis =>
      simp only [OutputStream.writeAll, besideTree, bind, StateT.bind]
      cases written : stream.write piece state with
      | mk outcome after =>
          cases outcome with
          | ok done => exact inductionHypothesis
          | error failure => rfl

/-- A plan carried out on a tree and a stream: pieces go to the stream alone, and
a configuration to the tree alone. -/
def carriedOut (stream : OutputStream (StateM σ)) (state : σ) (tree : FileTree) :
    Plan → Report Unit × σ × FileTree
  | .write ⟨log, .error failure⟩ => (.failed log failure, state, tree)
  | .write ⟨log, .ok pieces⟩ =>
      let written := stream.writeAll pieces state
      (reportOutput log written.1, written.2, tree)
  | .save path config =>
      let saved := config.save writer path tree
      (reportSave path saved.1, state, saved.2)

/-- A plan is carried out on the stream or on the tree, and never on both. -/
theorem carryOut_besideTree (plan : Plan) :
    plan.carryOut writer (besideTree stream) state tree =
      let done := carriedOut stream state tree plan
      ((done.1, done.2.1), done.2.2) := by
  match plan with
  | .write ⟨log, .error failure⟩ => rfl
  | .write ⟨log, .ok pieces⟩ =>
      simp only [Plan.carryOut, bind, StateT.bind, writeAll_besideTree]
      rfl
  | .save path config => rfl

def aftermathOf (wish : LogWish) (done : Report Unit × σ × FileTree) :
    Aftermath σ :=
  ⟨(Exit.ofReport wish.filter done.1).warned wish.warnings, done.2.1, done.2.2⟩

/-- A run plans on the tree as it is, and changes something only when the plan is
carried out. -/
theorem runOn_eq {command : Command}
    (asks : Invocation.ofArguments arguments = .command command) :
    tree.runOn stream state host environment input arguments =
      aftermathOf (surroundings host environment input tree).wish
        (carriedOut stream state tree
          ((surroundings host environment input tree).plan command)) := by
  have planned : (stateSurroundings host environment input).plan command tree =
      ((surroundings host environment input tree).plan command, tree) :=
    Answers.plan command
  unfold stateSurroundings at planned
  simp only [runOn, runProgram, asks, runInvocation, bind, StateT.bind, liftM,
    monadLift, MonadLift.monadLift, StateT.lift, planned, carryOut_besideTree]
  rfl

/-- An argument that is no text stops a run before it has read or written
anything. -/
theorem runOn_of_undecodable {argument : Bytes}
    (asks : Invocation.ofArguments arguments = .undecodable argument) :
    tree.runOn stream state host environment input arguments =
      let wish := (surroundings host environment input tree).wish
      ⟨(Exit.ofPanic environment host argument).warned wish.warnings, state,
        tree⟩ := by
  simp only [runOn, runProgram, asks, runInvocation]
  rfl

theorem runOn_of_unknown
    (asks : Invocation.ofArguments arguments = .unknown) :
    tree.runOn stream state host environment input arguments =
      let wish := (surroundings host environment input tree).wish
      ⟨Exit.ofUsage.warned wish.warnings, state, tree⟩ := by
  simp only [runOn, runProgram, asks, runInvocation]
  rfl

end FileTree

end CsdlHighlight
