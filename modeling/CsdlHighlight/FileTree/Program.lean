import CsdlHighlight.CommandLine
import CsdlHighlight.FileTree.Operations

/-!
Contract: runs of the program on a file tree.

Owns:
- the reader of a changing tree;
- `runOn`, a run with any stream for its output, and what it leaves behind;
- `run`, a run whose output is kept, with the tree after it.
-/

namespace CsdlHighlight

structure Aftermath (σ : Type) where
  ends : Exit
  stream : σ
  tree : FileTree

structure Ending where
  status : Nat
  output : Text
  errors : List Text
deriving DecidableEq, Repr

namespace FileTree

def stateReader : DiskReader (StateM FileTree) where
  present := fun path tree => (tree.present path, tree)
  isDirectory := fun path tree => (tree.isDirectory path, tree)
  content := fun path tree => (tree.content path, tree)
  list := fun path tree => (tree.list path, tree)
  canonicalPath := fun path tree => (tree.canonicalPath path, tree)

variable {σ : Type}

/-- A stream with a state of its own beside a tree. -/
def besideTree (stream : OutputStream (StateM σ)) :
    OutputStream (StateT σ (StateM FileTree)) where
  write := fun piece state tree => (stream.write piece state, tree)

/-- Run the program on a tree, with its output going to a stream in some state. -/
def runOn (stream : OutputStream (StateM σ)) (state : σ) (host : Host)
    (tree : FileTree) (environment : Environment) (input : Bytes)
    (arguments : List Bytes) : Aftermath σ :=
  let around : Surroundings (StateM FileTree) :=
    { disk := stateReader
      environment := environment
      input := pure input
      host := host }
  let done := runProgram around writer (besideTree stream) arguments state tree
  ⟨done.1.1, done.1.2, done.2⟩

/-- The first process of a system, with an empty stack and nobody at a terminal. -/
def firstHost : Host :=
  ⟨1, [], false⟩

/-- Run the program on a tree and keep its output. -/
def run (tree : FileTree) (environment : Environment) (input : Bytes)
    (arguments : List Bytes) : Ending × FileTree :=
  let done := tree.runOn .recording [] firstHost environment input arguments
  (⟨done.ends.status, done.stream.flatten, done.ends.errors⟩, done.tree)

end FileTree

end CsdlHighlight
