import CsdlHighlight.Unicode.Category

/-!
Contract: sets of code points described by formulas, the way the standard
derives one property from another.

Owns:
- `CodeFormula` and the set that a formula describes;
- `NamedCodes`, sets with names, and the groups of general categories.

Does not own: the formulas of particular properties, and how loosely a name may
be written.
-/

namespace CsdlHighlight.Unicode

open CsdlHighlight.Text (Intervals)

/-- A description of a set of code points. -/
inductive CodeFormula where
  /-- The code points of a table, as `Intervals.ofTable` reads them. -/
  | listed (table : String)
  | category (category : GeneralCategory)
  /-- Every so many code points, so many times from a first one on. -/
  | every (stride count first : Nat)
  /-- The code points of all characters. -/
  | everything
  | union (left right : CodeFormula)
  | without (left right : CodeFormula)
deriving DecidableEq, Repr

namespace CodeFormula

instance : Union CodeFormula := ⟨union⟩

instance : SDiff CodeFormula := ⟨without⟩

def codes : CodeFormula → Intervals
  | .listed table => .ofTable table
  | .category kind => kind.codes
  | .every stride count first =>
      (List.range count).map fun index =>
        (first + stride * index, first + stride * index)
  | .everything => .everything
  | .union left right => left.codes.union right.codes
  | .without left right => left.codes.without right.codes

/-! ## Groups of categories -/

/-- Letters with a variant in another case. -/
def casedLetters : CodeFormula :=
  category .uppercaseLetter ∪ category .lowercaseLetter ∪ category .titlecaseLetter

def letters : CodeFormula :=
  casedLetters ∪ category .modifierLetter ∪ category .otherLetter

def marks : CodeFormula :=
  category .nonspacingMark ∪ category .spacingMark ∪ category .enclosingMark

def numbers : CodeFormula :=
  category .decimalNumber ∪ category .letterNumber ∪ category .otherNumber

def punctuation : CodeFormula :=
  category .connectorPunctuation ∪ category .dashPunctuation ∪
    category .openPunctuation ∪ category .closePunctuation ∪
    category .initialPunctuation ∪ category .finalPunctuation ∪
    category .otherPunctuation

def symbols : CodeFormula :=
  category .mathSymbol ∪ category .currencySymbol ∪ category .modifierSymbol ∪
    category .otherSymbol

def separators : CodeFormula :=
  category .spaceSeparator ∪ category .lineSeparator ∪ category .paragraphSeparator

def assigned : CodeFormula :=
  letters ∪ marks ∪ numbers ∪ punctuation ∪ symbols ∪ separators ∪
    category .control ∪ category .format ∪ category .privateUse

/-- The code points in no general category. -/
def unassigned : CodeFormula :=
  everything \ assigned

/-- Control and format characters, those of private use, and the unassigned. -/
def others : CodeFormula :=
  category .control ∪ category .format ∪ category .privateUse ∪ unassigned

end CodeFormula

/-! ## Names -/

/-- A set of code points that has names. -/
structure NamedCodes where
  names : List String
  formula : CodeFormula
deriving DecidableEq, Repr

namespace NamedCodes

open CodeFormula

def categories : List NamedCodes :=
  [⟨["Any"], everything⟩, ⟨["Assigned"], assigned⟩, ⟨["ASCII"], listed "0-7F"⟩,
    ⟨["C", "Other"], others⟩, ⟨["Cn", "Unassigned"], unassigned⟩,
    ⟨["L", "Letter"], letters⟩, ⟨["LC", "Cased_Letter"], casedLetters⟩,
    ⟨["M", "Mark", "Combining_Mark"], marks⟩, ⟨["N", "Number"], numbers⟩,
    ⟨["P", "Punctuation", "punct"], punctuation⟩, ⟨["S", "Symbol"], symbols⟩,
    ⟨["Z", "Separator"], separators⟩] ++
  GeneralCategory.all.map fun kind => ⟨kind.names, category kind⟩

end NamedCodes

end CsdlHighlight.Unicode
