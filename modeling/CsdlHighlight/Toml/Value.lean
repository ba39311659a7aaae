import CsdlHighlight.Text.Basic

/-!
Contract: the values of a TOML document and the rules by which its tables grow.

Owns:
- `Value`, with the origin of each table;
- the insertion of a pair under a dotted key;
- the opening of tables and of arrays of tables by a header.

Does not own: the written form of keys and values.
-/

namespace CsdlHighlight.Toml

/-- How a table came to be, which decides who may still add to it. -/
inductive Origin where
  /-- By a header of its own, or it is the document itself. -/
  | header
  /-- By a header of a table inside it. -/
  | implied
  /-- By a dotted key. -/
  | dotted
  /-- As a value between braces. -/
  | inline
deriving DecidableEq, Repr

/-- A value.  Fractional numbers and moments keep the form in which they were
written. -/
inductive Value where
  | text (content : Text)
  | boolean (value : Bool)
  | integer (value : Int)
  | float (numeral : Text)
  | moment (written : Text)
  | array (items : List Value)
  | table (origin : Origin) (pairs : List (Text × Value))
  | tables (elements : List (List (Text × Value)))
deriving Repr

/-- The keys of a table with their values, in the order of the document. -/
abbrev Pairs := List (Text × Value)

namespace Pairs

def find? (pairs : Pairs) (key : Text) : Option Value :=
  pairs.lookup key

/-- Give a key a value, in the place of the one it had. -/
def set (pairs : Pairs) (key : Text) (value : Value) : Pairs :=
  match pairs with
  | [] => [(key, value)]
  | (first, old) :: rest =>
      if first = key then (key, value) :: rest
      else (first, old) :: set rest key value

/-- Change the table at the end of some keys.

Tables that are missing on the way are made, with the origin that fits a dotted
key or a header.  In an array of tables the way leads through the last one.  A
table between braces is finished, and a dotted key does not enter a table that
has a header. -/
def alter (dotted : Bool) (change : Origin → Pairs → Option Pairs) :
    List Text → Origin → Pairs → Option Pairs
  | [], origin, pairs => change origin pairs
  | key :: rest, _, pairs =>
      match find? pairs key with
      | none =>
          let origin : Origin := if dotted then .dotted else .implied
          (alter dotted change rest origin []).map fun inner =>
            set pairs key (.table origin inner)
      | some (.table origin inner) =>
          if origin = .inline || (dotted && origin = .header) then
            none
          else
            (alter dotted change rest origin inner).map fun changed =>
              set pairs key (.table origin changed)
      | some (.tables elements) =>
          match elements.getLast? with
          | some last =>
              (alter dotted change rest .header last).map fun changed =>
                set pairs key (.tables (elements.dropLast ++ [changed]))
          | none => none
      | some _ => none

/-- Put a pair into a table.  The key must be new, and a dotted key only adds
to tables that dotted keys have made. -/
def insert (pairs : Pairs) (path : List Text) (key : Text) (value : Value) :
    Option Pairs :=
  alter true
    (fun origin inner =>
      if (origin == .dotted) == path.isEmpty then
        none
      else if (find? inner key).isSome then
        none
      else
        some (inner ++ [(key, value)]))
    path .header pairs

/-- Open the table of a header.  It is new, or headers of tables inside it have
implied it. -/
def openTable (pairs : Pairs) (path : List Text) (key : Text) : Option Pairs :=
  alter false
    (fun _ inner =>
      match find? inner key with
      | none => some (set inner key (.table .header []))
      | some (.table .implied held) => some (set inner key (.table .header held))
      | some _ => none)
    path .header pairs

def openElement (pairs : Pairs) (path : List Text) (key : Text) :
    Option Pairs :=
  alter false
    (fun _ inner =>
      match find? inner key with
      | none => some (set inner key (.tables [[]]))
      | some (.tables elements) =>
          some (set inner key (.tables (elements ++ [[]])))
      | some _ => none)
    path .header pairs

def insertAt (pairs : Pairs) (header path : List Text) (key : Text)
    (value : Value) : Option Pairs :=
  alter false (fun _ inner => insert inner path key value) header .header pairs

end Pairs

end CsdlHighlight.Toml
