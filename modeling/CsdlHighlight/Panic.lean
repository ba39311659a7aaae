import CsdlHighlight.Environment
import CsdlHighlight.Text.Quoted

/-!
Contract: what a process says when an argument is no text and it stops at once.

Owns: the status and the message of such a process.

Does not own: the stack of the process; its host puts it into writing.
-/

namespace CsdlHighlight.Panic

def status : Nat := 101

/-- Where the runtime turns an argument into text. -/
def place : Text :=
  ("/rustc/b940084d7eb6a299eb4bfeb8e34901bc051e7ac4/library/std/src/" ++
    "env.rs:878:51").toList

def hint : Text :=
  ("note: run with `RUST_BACKTRACE=1` environment variable to display a " ++
    "backtrace\n").toList

/-- What follows the message: the stack for those who have asked for it, and for
everyone else the way to ask. -/
def trailer (environment : Environment) (host : Host) : Text :=
  match environment.bytes? (Utf8.encode "RUST_BACKTRACE".toList) with
  | none => hint
  | some value => if value = Utf8.encode ['0'] then hint else host.stack

def message (environment : Environment) (host : Host) (argument : Bytes) :
    Text :=
  "\nthread 'main' (".toList ++ Text.decimal host.thread ++
    ") panicked at ".toList ++ place ++ ":\n".toList ++
    "called `Result::unwrap()` on an `Err` value: ".toList ++
    Text.quotedBytes argument ++ "\n".toList ++ trailer environment host

end CsdlHighlight.Panic
