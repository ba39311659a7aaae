import CsdlHighlight.Unicode.Age
import CsdlHighlight.Unicode.Boundary
import CsdlHighlight.Unicode.Script

/-!
Contract: sets of code points asked for by the names of properties.

Owns:
- how loosely a name may be written;
- the names of all properties of Unicode 16;
- `PropertyQuery`, and the set that it asks for or why there is none.

Does not own: where in a text a query is written.
-/

namespace CsdlHighlight.Unicode

open CsdlHighlight.Text (Intervals)

/-! ## Names -/

/-- A name without what makes no difference: the letter case, blanks, underscores
and hyphens, characters outside ASCII, and the word `is` at its head.  That word
stays where only the letter c stands behind it, for the name of a comment. -/
def looseName (name : Text) : Text :=
  let core (text : Text) : Text :=
    (text.filter fun character =>
      character.toNat < 0x80 && character != ' ' && character != '_' &&
        character != '-').map Char.toLower
  match name with
  | first :: second :: rest =>
      if first.toLower = 'i' ∧ second.toLower = 's' then
        if core rest = ['c'] then "isc".toList else core rest
      else
        core name
  | _ => core name

def isNamed (loose : Text) (names : List String) : Bool :=
  names.any fun name => looseName name.toList = loose

namespace NamedCodes

def find? (loose : Text) (sets : List NamedCodes) : Option NamedCodes :=
  sets.find? fun set => isNamed loose set.names

end NamedCodes

inductive ValuedProperty where
  | category
  | script
  | usedScript
  | age
  | characterBound
  | wordBound
  | sentenceBound
deriving DecidableEq, Repr

namespace ValuedProperty

def all : List ValuedProperty :=
  [.category, .script, .usedScript, .age, .characterBound, .wordBound, .sentenceBound]

def names : ValuedProperty → List String
  | .category => ["gc", "General_Category"]
  | .script => ["sc", "Script"]
  | .usedScript => ["scx", "Script_Extensions"]
  | .age => ["age", "Age"]
  | .characterBound => ["GCB", "Grapheme_Cluster_Break"]
  | .wordBound => ["WB", "Word_Break"]
  | .sentenceBound => ["SB", "Sentence_Break"]

end ValuedProperty

/-- The names of the other properties.  They have no sets here. -/
def furtherProperties : List String :=
  ["bc", "Bidi_Class", "blk", "Block", "bmg", "Bidi_Mirroring_Glyph", "bpb",
    "Bidi_Paired_Bracket", "bpt", "Bidi_Paired_Bracket_Type", "ccc",
    "Canonical_Combining_Class", "CE", "Composition_Exclusion", "cf", "Case_Folding",
    "cjkAccountingNumeric", "kAccountingNumeric", "cjkCompatibilityVariant",
    "kCompatibilityVariant", "cjkIICore", "kIICore", "cjkIRG_GSource", "kIRG_GSource",
    "cjkIRG_HSource", "kIRG_HSource", "cjkIRG_JSource", "kIRG_JSource",
    "cjkIRG_KPSource", "kIRG_KPSource", "cjkIRG_KSource", "kIRG_KSource",
    "cjkIRG_MSource", "kIRG_MSource", "cjkIRG_SSource", "kIRG_SSource",
    "cjkIRG_TSource", "kIRG_TSource", "cjkIRG_UKSource", "kIRG_UKSource",
    "cjkIRG_USource", "kIRG_USource", "cjkIRG_VSource", "kIRG_VSource",
    "cjkOtherNumeric", "kOtherNumeric", "cjkPrimaryNumeric", "kPrimaryNumeric",
    "cjkRSUnicode", "kRSUnicode", "Unicode_Radical_Stroke", "URS", "Comp_Ex",
    "Full_Composition_Exclusion", "CWKCF", "Changes_When_NFKC_Casefolded", "dm",
    "Decomposition_Mapping", "dt", "Decomposition_Type", "ea", "East_Asian_Width",
    "EqUIdeo", "Equivalent_Unified_Ideograph", "FC_NFKC", "FC_NFKC_Closure", "hst",
    "Hangul_Syllable_Type", "InCB", "Indic_Conjunct_Break", "InPC",
    "Indic_Positional_Category", "InSC", "Indic_Syllabic_Category", "isc",
    "ISO_Comment", "jg", "Joining_Group", "JSN", "Jamo_Short_Name", "jt",
    "Joining_Type", "kEH_Cat", "kEH_Desc", "kEH_HG", "kEH_IFAO", "kEH_JSesh",
    "kEH_NoMirror", "kEH_NoRotate", "lb", "Line_Break", "lc", "Lowercase_Mapping",
    "na", "Name", "na1", "Unicode_1_Name", "Name_Alias", "NFC_QC",
    "NFC_Quick_Check", "NFD_QC", "NFD_Quick_Check", "NFKC_CF", "NFKC_Casefold",
    "NFKC_QC", "NFKC_Quick_Check", "NFKC_SCF", "NFKC_Simple_Casefold", "NFKD_QC",
    "NFKD_Quick_Check", "nt", "Numeric_Type", "nv", "Numeric_Value", "scf",
    "Simple_Case_Folding", "sfc", "slc", "Simple_Lowercase_Mapping", "stc",
    "Simple_Titlecase_Mapping", "suc", "Simple_Uppercase_Mapping", "tc",
    "Titlecase_Mapping", "uc", "Uppercase_Mapping", "vo", "Vertical_Orientation",
    "XO_NFC", "Expands_On_NFC", "XO_NFD", "Expands_On_NFD", "XO_NFKC",
    "Expands_On_NFKC", "XO_NFKD", "Expands_On_NFKD"]

/-- The names of scripts and categories without a character. -/
def emptyValues : List String :=
  ["Cs", "Surrogate", "Zzzz", "Unknown", "Hrkt", "Katakana_Or_Hiragana"]

/-! ## Queries -/

inductive PropertyQuery where
  | named (name : Text)
  | valued (property value : Text)
deriving DecidableEq, Repr

inductive PropertyFault where
  | unknownProperty
  | unknownValue
deriving DecidableEq, Repr

namespace PropertyQuery

def script? (loose : Text) : Option Script :=
  (Script.common :: Script.inherited :: Script.all).find? fun script =>
    isNamed loose script.names

def valueCodes? (property : ValuedProperty) (loose : Text) : Option Intervals :=
  match property with
  | .category => (NamedCodes.find? loose NamedCodes.categories).map (·.formula.codes)
  | .script => (script? loose).map Script.codes
  | .usedScript => (script? loose).map Script.usedCodes
  | .age =>
      (Edition.all.find? fun edition => isNamed loose edition.names).map Edition.codes
  | .characterBound => (NamedCodes.find? loose characterBounds).map (·.formula.codes)
  | .wordBound => (NamedCodes.find? loose wordBounds).map (·.formula.codes)
  | .sentenceBound => (NamedCodes.find? loose sentenceBounds).map (·.formula.codes)

/-- The property with a name, and whether there is one without sets. -/
def property? (loose : Text) : Option ValuedProperty :=
  ValuedProperty.all.find? fun property => isNamed loose property.names

/-- Whether a name is that of a property without a set of its own.  Three short
names mean categories, though properties have them as well. -/
def isBareProperty (loose : Text) : Bool :=
  (isNamed loose furtherProperties || (property? loose).isSome) &&
    !isNamed loose ["cf", "sc", "lc"]

/-- The code points with a name: of a property that a code point has or has not,
of a category, or of a script. -/
def namedCodes (loose : Text) : Except PropertyFault Intervals :=
  match NamedCodes.find? loose binaryProperties with
  | some property => .ok property.formula.codes
  | none =>
      if isBareProperty loose then
        .error .unknownProperty
      else
        match NamedCodes.find? loose NamedCodes.categories, script? loose with
        | some category, _ => .ok category.formula.codes
        | none, some script => .ok script.codes
        | none, none =>
            .error (if isNamed loose emptyValues then .unknownValue
              else .unknownProperty)

def codes : PropertyQuery → Except PropertyFault Intervals
  | .named name => namedCodes (looseName name)
  | .valued property value =>
      match property? (looseName property) with
      | some property =>
          match valueCodes? property (looseName value) with
          | some codes => .ok codes
          | none => .error .unknownValue
      | none =>
          .error (if isNamed (looseName property) furtherProperties ||
              (NamedCodes.find? (looseName property) binaryProperties).isSome then
            .unknownValue
          else
            .unknownProperty)

end PropertyQuery

end CsdlHighlight.Unicode
