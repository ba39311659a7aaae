import CsdlHighlight.Toml.Numeral

/-!
Contract: dates and times of TOML.

Owns:
- the calendar, with its leap years;
- times of day, with optional seconds and fractions of a second;
- moments: a date, a time, or both with an optional offset.

Does not own: the place of a moment in a document.
-/

namespace CsdlHighlight.Toml

/-- The value of exactly two digits at the head of a text. -/
def twoDigits? : Text → Option (Nat × Text)
  | tens :: ones :: rest =>
      if isDigit tens && isDigit ones then
        some (digitsValue 10 [tens, ones], rest)
      else
        none
  | _ => none

def fourDigits? (text : Text) : Option (Nat × Text) :=
  (twoDigits? text).bind fun (high, rest) =>
    (twoDigits? rest).map fun (low, rest) => (100 * high + low, rest)

def expect? (expected : Char) : Text → Option Text
  | character :: rest => if character = expected then some rest else none
  | [] => none

/-! ## Dates -/

def isLeapYear (year : Nat) : Bool :=
  year % 4 == 0 && (year % 100 != 0 || year % 400 == 0)

def daysIn (year month : Nat) : Nat :=
  if month = 2 then
    if isLeapYear year then 29 else 28
  else if month = 4 ∨ month = 6 ∨ month = 9 ∨ month = 11 then
    30
  else
    31

/-- What stands after a date that the calendar has. -/
def afterDate? (text : Text) : Option Text := do
  let (year, rest) ← fourDigits? text
  let rest ← expect? '-' rest
  let (month, rest) ← twoDigits? rest
  let rest ← expect? '-' rest
  let (day, rest) ← twoDigits? rest
  if 1 ≤ month ∧ month ≤ 12 ∧ 1 ≤ day ∧ day ≤ daysIn year month then
    some rest
  else
    none

/-! ## Times -/

def afterFraction? : Text → Option Text
  | '.' :: digit :: rest =>
      if isDigit digit then some (rest.dropWhile isDigit) else none
  | '.' :: [] => none
  | rest => some rest

/-- What stands after optional seconds, which may be a leap second. -/
def afterSeconds? (text : Text) : Option Text :=
  match text with
  | ':' :: written =>
      (twoDigits? written).bind fun (second, rest) =>
        if second ≤ 60 then afterFraction? rest else none
  | rest => some rest

def afterTime? (text : Text) : Option Text := do
  let (hour, rest) ← twoDigits? text
  let rest ← expect? ':' rest
  let (minute, rest) ← twoDigits? rest
  if hour ≤ 23 ∧ minute ≤ 59 then
    afterSeconds? rest
  else
    none

def afterOffset? (text : Text) : Option Text :=
  match text with
  | 'Z' :: rest => some rest
  | 'z' :: rest => some rest
  | sign :: written =>
      if sign = '+' ∨ sign = '-' then do
        let (hour, rest) ← twoDigits? written
        let rest ← expect? ':' rest
        let (minute, rest) ← twoDigits? rest
        if hour ≤ 23 ∧ minute ≤ 59 then some rest else none
      else
        some text
  | [] => some []

/-! ## Moments -/

def joinsTime (character : Char) : Bool :=
  character == 'T' || character == 't' || character == ' '

/-- Whether a scalar is a date, a time, or a date with a time. -/
def isMoment (scalar : Text) : Bool :=
  match afterDate? scalar with
  | some [] => true
  | some (joint :: time) =>
      joinsTime joint && ((afterTime? time).bind afterOffset?) == some []
  | none => afterTime? scalar == some []

def moment? (scalar : Text) : Option Value :=
  if isMoment scalar then some (.moment scalar) else none

end CsdlHighlight.Toml
