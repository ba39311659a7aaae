import CsdlHighlight.Toml.Value

/-!
Contract: numbers and truth values of TOML.

Owns:
- digits with underscores between them;
- integers in four bases;
- fractional numbers;
- the bounds of both, past which a number has no value.

Does not own: dates and times.
-/

namespace CsdlHighlight.Toml

def isDigit (character : Char) : Bool :=
  '0' ≤ character && character ≤ '9'

/-- The digits of a numeral without its underscores, each of which has to stand
between two digits. -/
def plainDigits? (allowed : Char → Bool) : Text → Option Text
  | [] => none
  | [digit] => if allowed digit then some [digit] else none
  | digit :: '_' :: rest =>
      if allowed digit then
        (plainDigits? allowed rest).map (digit :: ·)
      else
        none
  | digit :: rest =>
      if allowed digit then
        (plainDigits? allowed rest).map (digit :: ·)
      else
        none

def digitsValue (base : Nat) (digits : Text) : Nat :=
  digits.foldl
    (fun value digit => base * value + (Text.hexDigit? digit).getD 0) 0

/-- Whether digits have no needless leading zero. -/
def hasPlainStart (digits : Text) : Bool :=
  match digits with
  | '0' :: _ :: _ => false
  | _ => true

/-! ## Integers -/

def isDigitOf (base : Nat) (character : Char) : Bool :=
  match Text.hexDigit? character with
  | some worth => worth < base
  | none => false

def basedInteger? (base : Nat) (digits : Text) : Option Int :=
  (plainDigits? (isDigitOf base) digits).map fun plain =>
    Int.ofNat (digitsValue base plain)

def decimalInteger? (digits : Text) : Option Nat :=
  (plainDigits? isDigit digits).bind fun plain =>
    if hasPlainStart plain then some (digitsValue 10 plain) else none

/-- The value of a written integer.  Only decimal integers have a sign. -/
def writtenInteger? (scalar : Text) : Option Int :=
  match scalar with
  | '0' :: 'x' :: digits => basedInteger? 16 digits
  | '0' :: 'o' :: digits => basedInteger? 8 digits
  | '0' :: 'b' :: digits => basedInteger? 2 digits
  | '+' :: digits => (decimalInteger? digits).map Int.ofNat
  | '-' :: digits => (decimalInteger? digits).map fun value => -Int.ofNat value
  | digits => (decimalInteger? digits).map Int.ofNat

def integer? (scalar : Text) : Option Value :=
  (writtenInteger? scalar).map .integer

/-- Whether an integer fits into 128 bits, signed or unsigned. -/
def isBoundedInteger (value : Int) : Bool :=
  -Int.pow 2 127 ≤ value && value < Int.pow 2 128

/-! ## Fractional numbers -/

/-- Split a text at its first character of a kind; the character is lost. -/
def splitAt? (separates : Char → Bool) (text : Text) : Option (Text × Text) :=
  match text.dropWhile fun character => !separates character with
  | [] => none
  | _ :: after =>
      some (text.takeWhile (fun character => !separates character), after)

def unsigned (text : Text) : Bool × Text :=
  match text with
  | '-' :: rest => (true, rest)
  | '+' :: rest => (false, rest)
  | rest => (false, rest)

def exponent? (written : Text) : Option Int :=
  let (negative, digits) := unsigned written
  (plainDigits? isDigit digits).map fun plain =>
    let magnitude := Int.ofNat (digitsValue 10 plain)
    if negative then -magnitude else magnitude

def mantissa? (written : Text) : Option (Text × Text) :=
  match splitAt? (· == '.') written with
  | some (whole, fraction) =>
      (plainDigits? isDigit whole).bind fun plainWhole =>
        (plainDigits? isDigit fraction).map fun plainFraction =>
          (plainWhole, plainFraction)
  | none =>
      (plainDigits? isDigit written).map fun plainWhole => (plainWhole, [])

/-- The least number that no finite number of double precision is nearest to. -/
def overflowBound : Nat :=
  Nat.pow 2 1024 - Nat.pow 2 970

/-- Whether `digits · 10 ^ scale` stays below the bound.  The number of digits
decides in all but a few cases. -/
def isFinite (digits : Nat) (scale : Int) : Bool :=
  let order := Int.ofNat (Text.decimal digits).length + scale
  if digits = 0 ∨ order ≤ 308 then
    true
  else if 310 < order then
    false
  else if 0 ≤ scale then
    digits * Nat.pow 10 scale.toNat < overflowBound
  else
    digits < overflowBound * Nat.pow 10 (-scale).toNat

/-- The digits of a fractional number before and after its point, and its
exponent.  It has a point or an exponent. -/
def floatParts? (scalar : Text) : Option ((Text × Text) × Int) :=
  let (_, numeral) := unsigned scalar
  match splitAt? (fun character => character == 'e' || character == 'E')
      numeral with
  | some (mantissa, exponent) =>
      (mantissa? mantissa).bind fun digits =>
        (exponent? exponent).map fun power => (digits, power)
  | none =>
      if numeral.contains '.' then
        (mantissa? numeral).map fun digits => (digits, 0)
      else
        none

def decimalFloat? (scalar : Text) : Option Value :=
  (floatParts? scalar).bind fun ((whole, _), _) =>
    if hasPlainStart whole then some (.float scalar) else none

def isBoundedFloat (scalar : Text) : Bool :=
  (floatParts? scalar).all fun ((whole, fraction), power) =>
    isFinite (digitsValue 10 (whole ++ fraction))
      (power - Int.ofNat fraction.length)

def namedFloat? (scalar : Text) : Option Value :=
  let (_, name) := unsigned scalar
  if name = "inf".toList ∨ name = "nan".toList then
    some (.float scalar)
  else
    none

/-! ## Truth values -/

def boolean? (scalar : Text) : Option Value :=
  if scalar = "true".toList then
    some (.boolean true)
  else if scalar = "false".toList then
    some (.boolean false)
  else
    none

end CsdlHighlight.Toml
