import CsdlHighlight.Unicode.Property

/-!
Contract: the properties by which Unicode 16 finds the bounds of characters, of
words and of sentences.

Owns: the values of the three properties, by name, with their code points.

Does not own: the value of all code points without another one.
-/

namespace CsdlHighlight.Unicode

open CodeFormula

/-! ## Formulas -/

def prepended : CodeFormula :=
  prependedConcatenationMark ∪ listed "D4E 111C2-111C3 113D1 1193F 11941 11A3A 11A84-11A89
   11D46 11F02"

def openSyllables : CodeFormula :=
  every 28 399 0xAC00

/-- What extends the character before it, with marks that take a place of their own. -/
def extending : CodeFormula :=
  (graphemeExtend ∪ category .spacingMark ∪ emojiModifier) \ listed "200D"

def katakana : CodeFormula :=
  listed "3031-3035 309B-309C 30A0-30FA 30FC-30FF 31F0-31FF 32D0-32FE 3300-3357 FF66-FF9D
   1AFF0-1AFF3 1AFF5-1AFFB 1AFFD-1AFFE 1B000 1B120-1B122 1B155 1B164-1B167"

def hebrewLetters : CodeFormula :=
  listed "5D0-5EA 5EF-5F2 FB1D FB1F-FB28 FB2A-FB36 FB38-FB3C FB3E FB40-FB41 FB43-FB44
   FB46-FB4F"

/-- The letters of scripts that set no spaces between words. -/
def unspacedLetters : CodeFormula :=
  listed "E01-E3A E40-E46 E4D E81-E82 E84 E86-E8A E8C-EA3 EA5 EA7-EB9 EBB-EBD EC0-EC4 EC6 ECD
   EDC-EDF 1000-1036 1038 103B-103F 1050-108F 109A-109D 1780-17B3 17B6-17C8 17D7 17DC
   1950-196D 1970-1974 1980-19AB 19B0-19C9 1A20-1A5E 1A61-1A74 1AA7 3041-3096 309D-309F
   A9E0-A9EF A9FA-A9FE AA60-AA76 AA7A-AABE AAC0 AAC2 AADB-AADD 11700-1171A 1171D-1172A
   11740-11746 1B001-1B11F 1B132 1B150-1B152"

/-- What has no part of its own in the bounds of a sentence. -/
def sentenceExtending : CodeFormula :=
  graphemeExtend ∪ listed "200D" ∪ category .spacingMark

/-- The small letters that tell a sentence to go on. -/
def sentenceLower : CodeFormula :=
  lowercase \ (graphemeExtend ∪ listed "10D0-10FA 10FD-10FF")

def sentenceUpper : CodeFormula :=
  (category .titlecaseLetter ∪ uppercase) \ listed "1C90-1CBA 1CBD-1CBF"

def fullStops : CodeFormula :=
  listed "2E 2024 FE52 FF0E"

/-! ## Values -/

def characterBounds : List NamedCodes :=
  [⟨["CR"], listed "D"⟩,
    ⟨["LF"], listed "A"⟩,
    ⟨["CN", "Control"],
      (category .lineSeparator ∪ category .paragraphSeparator ∪ category .control ∪
      category .format ∪ listed "2065 FFF0-FFF8 E0000 E0002-E001F E0080-E00FF E01F0-E0FFF") \
      (listed "A D 200C-200D" ∪ prepended ∪ graphemeExtend)⟩,
    ⟨["EX", "Extend"], graphemeExtend ∪ emojiModifier⟩,
    ⟨["ZWJ"], listed "200D"⟩,
    ⟨["RI", "Regional_Indicator"], regionalIndicator⟩,
    ⟨["PP", "Prepend"], prepended⟩,
    ⟨["SM", "SpacingMark"],
      (category .spacingMark ∪ listed "E33 EB3") \ (graphemeExtend ∪ listed
      "102B-102C 1038 1062-1064 1067-106D 1083 1087-108C 108F 109A-109C 1A61 1A63-1A64 AA7B
       AA7D 11720-11721")⟩,
    ⟨["L"], listed "1100-115F A960-A97C"⟩,
    ⟨["V"], listed "1160-11A7 D7B0-D7C6 16D63 16D67-16D6A"⟩,
    ⟨["T"], listed "11A8-11FF D7CB-D7FB"⟩,
    ⟨["LV"], openSyllables⟩,
    ⟨["LVT"], listed "AC00-D7A3" \ openSyllables⟩]

def wordBounds : List NamedCodes :=
  [⟨["CR"], listed "D"⟩,
    ⟨["LF"], listed "A"⟩,
    ⟨["NL", "Newline"], listed "B-C 85 2028-2029"⟩,
    ⟨["Extend"], extending⟩,
    ⟨["ZWJ"], listed "200D"⟩,
    ⟨["RI", "Regional_Indicator"], regionalIndicator⟩,
    ⟨["FO", "Format"],
      category .format \ (listed "200B-200D" ∪ graphemeExtend ∪ prependedConcatenationMark)⟩,
    ⟨["KA", "Katakana"], katakana⟩,
    ⟨["HL", "Hebrew_Letter"], hebrewLetters⟩,
    ⟨["LE", "ALetter"],
      (alphabetic ∪ listed "2C2-2C5 2D2-2D7 2DE-2DF 2E5-2EB 2ED 2EF-2FF 55A-55C 55E 58A 5F3
       70F A708-A716 A720-A721 A789-A78A AB5B") \ (ideographic ∪ katakana ∪ hebrewLetters ∪
      unspacedLetters ∪ extending)⟩,
    ⟨["SQ", "Single_Quote"], listed "27"⟩,
    ⟨["DQ", "Double_Quote"], listed "22"⟩,
    ⟨["MB", "MidNumLet"], listed "2E 2018-2019 2024 FE52 FF07 FF0E"⟩,
    ⟨["ML", "MidLetter"], listed "3A B7 387 55F 5F4 2027 FE13 FE55 FF1A"⟩,
    ⟨["MN", "MidNum"],
      listed "2C 3B 37E 589 60C-60D 66C 7F8 2044 FE10 FE14 FE50 FE54 FF0C FF1B"⟩,
    ⟨["NU", "Numeric"],
      (category .decimalNumber ∪ prependedConcatenationMark ∪ listed "66B") \ listed "66C 70F"⟩,
    ⟨["EX", "ExtendNumLet"], category .connectorPunctuation ∪ listed "202F"⟩,
    ⟨["WSegSpace"], category .spaceSeparator \ listed "A0 2007 202F"⟩]

def sentenceBounds : List NamedCodes :=
  [⟨["CR"], listed "D"⟩,
    ⟨["LF"], listed "A"⟩,
    ⟨["SE", "Sep"], listed "85 2028-2029"⟩,
    ⟨["EX", "Extend"], sentenceExtending⟩,
    ⟨["FO", "Format"],
      category .format \ (listed "200C-200D" ∪ graphemeExtend ∪ prependedConcatenationMark)⟩,
    ⟨["SP", "Sp"], whiteSpace \ listed "A D 85 2028-2029"⟩,
    ⟨["LO", "Lower"], sentenceLower⟩,
    ⟨["UP", "Upper"], sentenceUpper⟩,
    ⟨["LE", "OLetter"],
      (alphabetic ∪ listed "5F3 70F") \ (sentenceLower ∪ sentenceUpper ∪ sentenceExtending)⟩,
    ⟨["NU", "Numeric"],
      (category .decimalNumber ∪ prependedConcatenationMark ∪ listed "66B-66C") \ listed "70F"⟩,
    ⟨["AT", "ATerm"], fullStops⟩,
    ⟨["ST", "STerm"], sentenceTerminal \ fullStops⟩,
    ⟨["SC", "SContinue"],
      listed "2C-2D 3A-3B 37E 55D 60C-60D 7F8 1802 1808 2013-2014 3001 FE10-FE11 FE13-FE14
       FE31-FE32 FE50-FE51 FE54-FE55 FE58 FE63 FF0C-FF0D FF1A-FF1B FF64"⟩,
    ⟨["CL", "Close"],
      (category .openPunctuation ∪ category .closePunctuation ∪ category .initialPunctuation ∪
      category .finalPunctuation ∪ listed "22 27 275B-2760 2E00-2E01 2E06-2E08 2E0B
       1F676-1F678") \ (fullStops ∪ sentenceTerminal)⟩]

end CsdlHighlight.Unicode
