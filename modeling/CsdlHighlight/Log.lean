import CsdlHighlight.Text.Basic

/-!
Contract: the records that the library leaves about its own work.

Owns: levels, records and their severity order.

Does not own: which records are shown and where; that is up to whoever runs the
library.
-/

namespace CsdlHighlight

inductive LogLevel where
  | trace
  | debug
  | info
  | warn
  | error
deriving DecidableEq, Repr

namespace LogLevel

def name : LogLevel → Text
  | .trace => "TRACE".toList
  | .debug => "DEBUG".toList
  | .info => "INFO".toList
  | .warn => "WARN".toList
  | .error => "ERROR".toList

def severity : LogLevel → Nat
  | .trace => 0
  | .debug => 1
  | .info => 2
  | .warn => 3
  | .error => 4

end LogLevel

structure LogRecord where
  level : LogLevel
  source : Text
  message : Text
deriving DecidableEq, Repr

end CsdlHighlight
