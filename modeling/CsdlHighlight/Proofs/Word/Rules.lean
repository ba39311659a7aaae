import CsdlHighlight.Proofs.Word.LetterCase

/-!
Contract: the rules for single words never compete.

Owns:
- `Word.Rule`, the rules for operators, keywords and numbers, with what each of
  them asks of a word;
- what keeps each pair of rules apart, and `Rule.eq_of_accepts`;
- `Word.categoryBy`, the rules tried in some order, and `Spans.override`, the
  rules for spans that come behind them;
- the words that are numbers, in any spans.

Does not own: the order of the rules for spans, which do compete.
-/

namespace CsdlHighlight

open Text

namespace Word

/-- A rule that may give a word a category of its own. -/
inductive Rule where
  | operator
  | keyword
  | number
deriving DecidableEq, Repr

namespace Rule

/-- Every rule, in the order in which they are tried. -/
def all : List Rule :=
  [.operator, .keyword, .number]

def accepts : Rule → Text → Bool
  | .operator, word => isOperator word
  | .keyword, word => isKeyword word || isNamespaced word
  | .number, word => isSignedDecimal word

def category : Rule → Category
  | .operator => .operator
  | .keyword => .keyword
  | .number => .int

/-- What a rule asks of a word: to be an operator or a keyword in lower case, to
hold the mark of the namespace in any letter case, or to be a signed decimal. -/
def Asks : Rule → Text → Prop
  | .operator, word => ∃ small, LowersTo word small ∧ small ∈ operators
  | .keyword, word =>
      (∃ small, LowersTo word small ∧ small ∈ keywords) ∨
        ∃ mark, mark <:+: word ∧ List.Forall₂ SameLetter namespaceMark mark
  | .number, word => SignedDecimal word

end Rule

/-- Try some rules one after another.  A word begins as a predicate, and each
rule that accepts it replaces what the rules before have said. -/
def categoryBy (rules : List Rule) (word : Text) : Category :=
  rules.foldl
    (fun category rule => if rule.accepts word then rule.category else category)
    .predicate

/-! ## The tests and what they ask -/

variable {word : Text}

theorem isOperator_iff_lowersTo :
    isOperator word = true ↔ ∃ small, LowersTo word small ∧ small ∈ operators := by
  rw [isOperator, List.contains_iff_mem]
  exact (exists_lowersTo_mem_iff fun entry member =>
    vocabulary_onlyFromAscii entry (List.mem_append_left _ member)).symm

theorem isKeyword_iff_lowersTo :
    isKeyword word = true ↔ ∃ small, LowersTo word small ∧ small ∈ keywords := by
  rw [isKeyword, List.contains_iff_mem]
  exact (exists_lowersTo_mem_iff fun entry member =>
    vocabulary_onlyFromAscii entry (List.mem_append_right _ member)).symm

theorem isNamespaced_iff_sameLetter :
    isNamespaced word = true ↔
      ∃ mark, mark <:+: word ∧ List.Forall₂ SameLetter namespaceMark mark := by
  have isSmall : namespaceMark.map Char.toLower = namespaceMark := by decide
  rw [isNamespaced_iff, List.infix_map_iff]
  simp only [forall₂_sameLetter_iff, isSmall]

/-- A rule accepts exactly the words that meet what it asks for. -/
theorem Rule.accepts_iff (rule : Rule) :
    rule.accepts word = true ↔ rule.Asks word := by
  cases rule with
  | operator => exact isOperator_iff_lowersTo
  | keyword =>
      rw [accepts, Bool.or_eq_true, isKeyword_iff_lowersTo,
        isNamespaced_iff_sameLetter]
      rfl
  | number => exact isSignedDecimal_iff

/-! ## No word obeys two rules -/

/-- No entry of the vocabulary holds a point or a digit. -/
theorem vocabulary_plain :
    ∀ entry ∈ operators ++ keywords, ∀ character ∈ entry,
      character ≠ '.' ∧ character.isDigit = false :=
  forall_vocabulary (by decide)

theorem operator_not_keyword :
    ∀ entry ∈ operators, entry ∉ keywords := by
  decide

/-- The mark of the namespace ends in a point, which no operator holds. -/
theorem not_operator_and_reserved :
    ¬ (isOperator word = true ∧
      (isKeyword word || isNamespaced word) = true) := by
  rw [isOperator_iff, Bool.or_eq_true, isKeyword_iff, isNamespaced_iff]
  rintro ⟨operator, keyword | marked⟩
  · exact operator_not_keyword _ operator keyword
  · have point : '.' ∈ word.map Char.toLower := marked.subset (by decide)
    have plain := vocabulary_plain _ (List.mem_append_left _ operator) '.' point
    exact plain.1 rfl

/-- A number is its own lower case and holds a digit. -/
theorem SignedDecimal.not_vocabulary (decimal : SignedDecimal word) :
    word.map Char.toLower ∉ operators ++ keywords := by
  rw [decimal.map_toLower]
  intro inVocabulary
  obtain ⟨digit, member, isDigit⟩ := decimal.exists_digit
  have plain := (vocabulary_plain word inVocabulary digit member).2
  rw [isDigit] at plain
  exact Bool.noConfusion plain

/-- A number holds no letter, and so not those of the mark. -/
theorem SignedDecimal.not_namespaced (decimal : SignedDecimal word) :
    ¬ namespaceMark <:+: word.map Char.toLower := by
  rw [decimal.map_toLower]
  intro marked
  have noLetter := decimal.noLetter 't' (marked.subset (by decide))
  exact absurd noLetter (by decide)

theorem not_number_and_operator :
    ¬ (isSignedDecimal word = true ∧ isOperator word = true) := by
  rw [isSignedDecimal_iff, isOperator_iff]
  rintro ⟨decimal, operator⟩
  exact decimal.not_vocabulary (List.mem_append_left _ operator)

theorem not_number_and_reserved :
    ¬ (isSignedDecimal word = true ∧
      (isKeyword word || isNamespaced word) = true) := by
  rw [isSignedDecimal_iff, Bool.or_eq_true, isKeyword_iff, isNamespaced_iff]
  rintro ⟨decimal, keyword | marked⟩
  · exact decimal.not_vocabulary (List.mem_append_right _ keyword)
  · exact decimal.not_namespaced marked

/-- No word is accepted by two rules. -/
theorem Rule.eq_of_accepts {left right : Rule}
    (leftAccepts : left.accepts word = true)
    (rightAccepts : right.accepts word = true) : left = right := by
  cases left with
  | operator =>
      cases right with
      | operator => rfl
      | keyword =>
          exact absurd ⟨leftAccepts, rightAccepts⟩ not_operator_and_reserved
      | number =>
          exact absurd ⟨rightAccepts, leftAccepts⟩ not_number_and_operator
  | keyword =>
      cases right with
      | operator =>
          exact absurd ⟨rightAccepts, leftAccepts⟩ not_operator_and_reserved
      | keyword => rfl
      | number =>
          exact absurd ⟨rightAccepts, leftAccepts⟩ not_number_and_reserved
  | number =>
      cases right with
      | operator =>
          exact absurd ⟨leftAccepts, rightAccepts⟩ not_number_and_operator
      | keyword =>
          exact absurd ⟨leftAccepts, rightAccepts⟩ not_number_and_reserved
      | number => rfl

/-! ## The order of the rules -/

/-- The category of a word is what trying the rules one after another gives. -/
theorem category_eq_categoryBy (word : Text) :
    category word = categoryBy Rule.all word := rfl

/-- Whatever the order in which the rules are tried, they say the same. -/
theorem categoryBy_of_perm {order : List Rule} (permuted : order.Perm Rule.all)
    (word : Text) : categoryBy order word = category word := by
  rw [category_eq_categoryBy]
  unfold categoryBy
  apply permuted.foldl_eq'
  intro left _ right _ given
  -- Two rules that both accept the word are one, and others do not both speak.
  by_cases leftAccepts : left.accepts word
  · by_cases rightAccepts : right.accepts word
    · rw [Rule.eq_of_accepts leftAccepts rightAccepts]
    · simp [rightAccepts]
  · simp [leftAccepts]

theorem category_eq_int_iff : category word = .int ↔ SignedDecimal word := by
  constructor
  · intro isInt
    have spelled := spelled_category word
    rw [isInt] at spelled
    cases spelled with
    | int decimal => exact decimal
  · intro decimal
    rw [category, if_pos (isSignedDecimal_iff.mpr decimal)]

end Word

/-! ## Words in their spans -/

namespace Spans

variable {spans : Spans} {word : Text}

/-- What the rules for spans make of a word, whatever it is by itself: a comment
or a string where they apply, and else what it is by itself. -/
def override (spans : Spans) (word : Text) (own : Category) : Category :=
  if spans.inComment || spans.beginsBlockComment word ||
      spans.beginsLineComment word then
    .comment
  else if spans.inString || Word.hasQuote word then
    .string
  else
    own

/-- What the rules for spans make of a word depends on the word through its own
category alone. -/
theorem category_eq_override (spans : Spans) (word : Text) :
    spans.category word = spans.override word (Word.category word) := rfl

theorem eq_closed_iff :
    spans = .closed ↔ spans.inComment = false ∧ spans.inString = false := by
  obtain ⟨inString, inLineComment, inBlockComment⟩ := spans
  cases inString <;> cases inLineComment <;> cases inBlockComment <;> decide

/-- Where nothing is open, a word with neither a quote nor a slash is what it is
by itself. -/
theorem override_closed (noQuote : '"' ∉ word) (noSlash : '/' ∉ word)
    (own : Category) : closed.override word own = own := by
  have notQuoted : Word.hasQuote word = false := by
    rw [← Bool.not_eq_true, Word.hasQuote_iff]
    exact noQuote
  have noBlock : Word.opensBlockComment word = false :=
    occurs_of_not_mem List.mem_cons_self noSlash
  have noLine : Word.opensLineComment word = false :=
    occurs_of_not_mem List.mem_cons_self noSlash
  simp [override, beginsBlockComment, beginsLineComment, closed, inComment,
    notQuoted, noBlock, noLine]

theorem category_eq_int_iff :
    spans.category word = .int ↔
      spans = .closed ∧ Word.SignedDecimal word := by
  constructor
  · intro isInt
    rw [category_eq_override, override] at isInt
    split at isInt
    · cases isInt
    · next noComment =>
        split at isInt
        · cases isInt
        · next noString =>
            simp only [Bool.or_eq_true, not_or, Bool.not_eq_true]
              at noComment noString
            exact ⟨eq_closed_iff.mpr ⟨noComment.1.1, noString.1⟩,
              Word.category_eq_int_iff.mp isInt⟩
  · rintro ⟨rfl, decimal⟩
    rw [category_eq_override, override_closed]
    · exact Word.category_eq_int_iff.mpr decimal
    · exact decimal.not_mem (by decide) (by decide)
    · exact decimal.not_mem (by decide) (by decide)

end Spans

/-- The rules for single words never compete: no word obeys two of them, so every
order of them gives every word the same category.  A word is a number exactly if
it is a signed decimal and nothing is open; no signed decimal holds a quote or
the mark of a comment. -/
theorem rules_never_compete (word : Text) :
    (∀ rule : Word.Rule, rule.accepts word = true ↔ rule.Asks word) ∧
    (∀ left right : Word.Rule, left.Asks word → right.Asks word →
      left = right) ∧
    (∀ order : List Word.Rule, order.Perm Word.Rule.all → ∀ spans : Spans,
      spans.override word (Word.categoryBy order word) =
        spans.category word) ∧
    ∀ spans : Spans, spans.category word = .int ↔
      spans = .closed ∧ Word.SignedDecimal word := by
  refine ⟨fun rule => rule.accepts_iff, ?_, ?_,
    fun spans => Spans.category_eq_int_iff⟩
  · intro left right leftAsks rightAsks
    rw [← Word.Rule.accepts_iff] at leftAsks rightAsks
    exact Word.Rule.eq_of_accepts leftAsks rightAsks
  · intro order permuted spans
    rw [Word.categoryBy_of_perm permuted]
    rfl

/-- A sign, a point and a digit make no number beside the letters of the mark,
and the keyword is found in the reversed order too. -/
theorem rules_never_compete_on_marked_digit :
    let word := "+Tag.5".toList
    let reversed := [Word.Rule.number, .keyword, .operator]
    Word.Rule.keyword.Asks word ∧ ¬ Word.Rule.number.Asks word ∧
      reversed.Perm Word.Rule.all ∧
      Spans.closed.override word (Word.categoryBy reversed word) =
        .keyword := by
  intro word reversed
  obtain ⟨tests, unique, anyOrder, -⟩ := rules_never_compete word
  have isKeyword : Word.Rule.keyword.Asks word := (tests .keyword).mp (by decide)
  have permuted : reversed.Perm Word.Rule.all := by decide
  refine ⟨isKeyword, ?_, permuted, ?_⟩
  · intro isNumber
    exact absurd (unique .keyword .number isKeyword isNumber) (by decide)
  · rw [anyOrder reversed permuted]
    decide

end CsdlHighlight
