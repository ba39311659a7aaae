import CsdlHighlight.Proofs.Text.LowerCase
import CsdlHighlight.Proofs.Text.Search
import CsdlHighlight.Word
import Mathlib.Data.List.TakeWhile

/-!
Contract: what the rules for single words accept, stated without the tests
that decide them.

Owns:
- the quotes and the marks of comments, as parts of a word;
- the grammar of signed decimals and the characters in them;
- the vocabulary and the namespace in any letter case;
- `Spelled`, the category that a word has by its spelling.

Does not own: spans.
-/

namespace CsdlHighlight.Word

/-! ## Marks -/

theorem hasQuote_iff {word : Text} : hasQuote word = true ↔ '"' ∈ word :=
  List.contains_iff_mem

theorem isQuoted_iff {word : Text} :
    isQuoted word = true ↔ ['"'] <+: word ∧ ['"'] <:+ word := by
  rw [List.singleton_prefix_iff_head?_eq_some,
    List.singleton_suffix_iff_getLast?_eq_some]
  simp only [isQuoted, Bool.and_eq_true, beq_iff_eq]

/-- A word between quotes holds one. -/
theorem hasQuote_of_isQuoted {word : Text} (quoted : isQuoted word = true) :
    hasQuote word = true := by
  have atHead := (isQuoted_iff.mp quoted).1
  exact hasQuote_iff.mpr (atHead.subset List.mem_cons_self)

theorem opensBlockComment_iff {word : Text} :
    opensBlockComment word = true ↔ ['/', '*'] <:+: word :=
  Text.occurs_iff

theorem closesBlockComment_iff {word : Text} :
    closesBlockComment word = true ↔ ['*', '/'] <:+: word :=
  Text.occurs_iff

theorem opensLineComment_iff {word : Text} :
    opensLineComment word = true ↔ ['/', '/'] <:+: word :=
  Text.occurs_iff

/-! ## Signed decimals -/

/-- At least one digit, then an optional point, then any number of digits. -/
def UnsignedDecimal (text : Text) : Prop :=
  ∃ whole point fraction : Text,
    text = whole ++ (point ++ fraction) ∧
    whole ≠ [] ∧ (∀ digit ∈ whole, digit.isDigit) ∧
    (point = [] ∨ point = ['.']) ∧
    ∀ digit ∈ fraction, digit.isDigit

def SignedDecimal (word : Text) : Prop :=
  ∃ sign number : Text,
    word = sign ++ number ∧
    (sign = [] ∨ sign = ['+'] ∨ sign = ['-']) ∧
    UnsignedDecimal number

theorem isDigit_eq : isDigit = Char.isDigit := rfl

theorem isUnsignedDecimal_of {text : Text} (decimal : UnsignedDecimal text) :
    isUnsignedDecimal text = true := by
  obtain ⟨whole, point, fraction, rfl, nonempty, wholeDigits, optional,
    fractionDigits⟩ := decimal
  have taken : ((whole ++ (point ++ fraction)).takeWhile isDigit).isEmpty =
      false := by
    rw [isDigit_eq, List.takeWhile_append_of_pos wholeDigits]
    cases whole with
    | nil => exact absurd rfl nonempty
    | cons digit digits => rfl
  unfold isUnsignedDecimal
  rw [taken, isDigit_eq, List.dropWhile_append_of_pos wholeDigits]
  rcases optional with rfl | rfl
  · have nothing : fraction.dropWhile Char.isDigit = [] :=
      List.dropWhile_eq_nil_iff.mpr fractionDigits
    rw [List.nil_append, nothing]
    rfl
  · exact List.all_eq_true.mpr fractionDigits

theorem unsignedDecimal_of {text : Text}
    (accepted : isUnsignedDecimal text = true) : UnsignedDecimal text := by
  unfold isUnsignedDecimal at accepted
  obtain ⟨taken, rest⟩ := Bool.and_eq_true_iff.mp accepted
  have wholeDigits : ∀ digit ∈ text.takeWhile isDigit, digit.isDigit :=
    List.all_eq_true.mp List.all_takeWhile
  have nonempty : text.takeWhile isDigit ≠ [] := by
    intro empty
    rw [empty] at taken
    exact Bool.noConfusion taken
  have whole := (List.takeWhile_append_dropWhile (p := isDigit) (l := text)).symm
  split at rest
  · next ends =>
      rw [ends] at whole
      exact ⟨_, [], [], whole, nonempty, wholeDigits, .inl rfl, by simp⟩
  · next fraction follows =>
      rw [follows] at whole
      exact ⟨_, ['.'], fraction, whole, nonempty, wholeDigits, .inr rfl,
        List.all_eq_true.mp rest⟩
  · exact Bool.noConfusion rest

/-- The recogniser of unsigned decimals follows their grammar. -/
theorem isUnsignedDecimal_iff {text : Text} :
    isUnsignedDecimal text = true ↔ UnsignedDecimal text :=
  ⟨unsignedDecimal_of, isUnsignedDecimal_of⟩

/-- A sign is no digit, so at most one reading of the head applies. -/
theorem isSignedDecimal_iff {word : Text} :
    isSignedDecimal word = true ↔ SignedDecimal word := by
  constructor
  · intro accepted
    unfold isSignedDecimal at accepted
    split at accepted
    · exact ⟨['+'], _, rfl, .inr (.inl rfl), isUnsignedDecimal_iff.mp accepted⟩
    · exact ⟨['-'], _, rfl, .inr (.inr rfl), isUnsignedDecimal_iff.mp accepted⟩
    · exact ⟨[], _, rfl, .inl rfl, isUnsignedDecimal_iff.mp accepted⟩
  · rintro ⟨sign, number, rfl, rfl | rfl | rfl, decimal⟩
    · have accepted := isUnsignedDecimal_iff.mpr decimal
      unfold isSignedDecimal
      split
      · next digits signed =>
          rw [List.nil_append] at signed
          rw [signed] at accepted
          exact Bool.noConfusion accepted
      · next digits signed =>
          rw [List.nil_append] at signed
          rw [signed] at accepted
          exact Bool.noConfusion accepted
      · exact accepted
    · exact isUnsignedDecimal_iff.mpr decimal
    · exact isUnsignedDecimal_iff.mpr decimal

/-- A number is written with digits, signs and a point. -/
theorem SignedDecimal.isDigit_or_mark {word : Text}
    (decimal : SignedDecimal word) {character : Char}
    (member : character ∈ word) :
    character.isDigit = true ∨ character ∈ ['+', '-', '.'] := by
  obtain ⟨sign, number, rfl, optional, whole, point, fraction, rfl, -,
    wholeDigits, optionalPoint, fractionDigits⟩ := decimal
  simp only [List.mem_append] at member
  rcases member with inSign | inWhole | inPoint | inFraction
  · apply Or.inr
    rcases optional with rfl | rfl | rfl
    · cases inSign
    · simpa using .inl (List.mem_singleton.mp inSign)
    · simpa using .inr (.inl (List.mem_singleton.mp inSign))
  · exact .inl (wholeDigits character inWhole)
  · apply Or.inr
    rcases optionalPoint with rfl | rfl
    · cases inPoint
    · simpa using .inr (.inr (List.mem_singleton.mp inPoint))
  · exact .inl (fractionDigits character inFraction)

theorem SignedDecimal.not_mem {word : Text} (decimal : SignedDecimal word)
    {character : Char} (noDigit : character.isDigit = false)
    (noMark : character ∉ ['+', '-', '.']) : character ∉ word := by
  intro member
  rcases decimal.isDigit_or_mark member with isDigit | isMark
  · rw [isDigit] at noDigit
    exact Bool.noConfusion noDigit
  · exact noMark isMark

theorem SignedDecimal.exists_digit {word : Text}
    (decimal : SignedDecimal word) : ∃ digit ∈ word, digit.isDigit = true := by
  obtain ⟨sign, number, rfl, -, whole, point, fraction, rfl, nonempty,
    wholeDigits, -⟩ := decimal
  obtain ⟨digit, inWhole⟩ := List.exists_mem_of_ne_nil whole nonempty
  refine ⟨digit, ?_, wholeDigits digit inWhole⟩
  apply List.mem_append_right
  exact List.mem_append_left _ inWhole

/-! ## Vocabulary -/

/-- What a table of the vocabulary says of all its characters. -/
theorem forall_vocabulary {Holds : Char → Prop} [DecidablePred Holds]
    (table : ((operators ++ keywords).all fun entry =>
      entry.all fun character => decide (Holds character)) = true) :
    ∀ entry ∈ operators ++ keywords, ∀ character ∈ entry,
      Holds character := by
  intro entry inVocabulary character inEntry
  have ofEntry := List.all_eq_true.mp table entry inVocabulary
  exact of_decide_eq_true (List.all_eq_true.mp ofEntry character inEntry)

/-- Every letter of the vocabulary is the small letter of ASCII letters only. -/
theorem vocabulary_onlyFromAscii :
    ∀ entry ∈ operators ++ keywords, ∀ character ∈ entry,
      Text.OnlyFromAscii character :=
  forall_vocabulary (by decide)

theorem isOperator_iff {word : Text} :
    isOperator word = true ↔ word.map Char.toLower ∈ operators := by
  rw [isOperator, List.contains_iff_mem]
  exact Text.lowered_mem_iff fun entry member =>
    vocabulary_onlyFromAscii entry (List.mem_append_left _ member)

theorem isKeyword_iff {word : Text} :
    isKeyword word = true ↔ word.map Char.toLower ∈ keywords := by
  rw [isKeyword, List.contains_iff_mem]
  exact Text.lowered_mem_iff fun entry member =>
    vocabulary_onlyFromAscii entry (List.mem_append_right _ member)

def namespaceMark : Text := ['t', 'a', 'g', '.']

/-- The letters of the mark come from their two forms only. -/
theorem toLower_eq_iff {small : Char} (inMark : small ∈ namespaceMark)
    (character : Char) :
    character.toLower = small ↔ character = small ∨ character = small.toUpper := by
  have table : small.toUpper.toNat < 128 ∧
      ∀ code < 128, ((Char.ofNat code).toLower = small ↔
        Char.ofNat code = small ∨ Char.ofNat code = small.toUpper) := by
    simp only [namespaceMark, List.mem_cons, List.not_mem_nil, or_false]
      at inMark
    rcases inMark with rfl | rfl | rfl | rfl <;> decide
  obtain ⟨upperAscii, inAscii⟩ := table
  by_cases ascii : character.toNat < 128
  · simpa using inAscii character.toNat ascii
  · rw [Text.toLower_of_not_ascii (Nat.le_of_not_lt ascii)]
    constructor
    · exact .inl
    · rintro (rfl | rfl)
      · rfl
      · exact absurd upperAscii ascii

theorem startsWithTag_iff {word : Text} :
    startsWithTag word = true ↔ namespaceMark <+: word.map Char.toLower := by
  unfold startsWithTag
  split
  · next first second third rest =>
      have isFirst := toLower_eq_iff (show 't' ∈ namespaceMark by decide) first
      have isSecond :=
        toLower_eq_iff (show 'a' ∈ namespaceMark by decide) second
      have isThird := toLower_eq_iff (show 'g' ∈ namespaceMark by decide) third
      simp [namespaceMark, List.cons_prefix_cons, eq_comm (a := 't'),
        eq_comm (a := 'a'), eq_comm (a := 'g'), isFirst, isSecond, isThird,
        and_assoc]
  · next noMark =>
      constructor
      · exact fun accepted => Bool.noConfusion accepted
      · rintro ⟨rest, whole⟩
        obtain ⟨first, afterFirst, rfl, -, whole⟩ :=
          List.map_eq_cons_iff.mp whole.symm
        obtain ⟨second, afterSecond, rfl, -, whole⟩ :=
          List.map_eq_cons_iff.mp whole
        obtain ⟨third, afterThird, rfl, -, whole⟩ :=
          List.map_eq_cons_iff.mp whole
        obtain ⟨fourth, behind, rfl, atPoint, -⟩ :=
          List.map_eq_cons_iff.mp whole
        have isPoint : fourth = '.' :=
          ((toLower_eq_iff (by decide) fourth).mp atPoint).elim id id
        subst isPoint
        exact absurd rfl (noMark first second third behind)

theorem isNamespaced_iff {word : Text} :
    isNamespaced word = true ↔ namespaceMark <:+: word.map Char.toLower := by
  induction word with
  | nil => simp [isNamespaced, namespaceMark]
  | cons first rest inductionHypothesis =>
      rw [isNamespaced, Bool.or_eq_true, startsWithTag_iff,
        inductionHypothesis, List.map_cons, List.infix_cons_iff]

/-! ## Category by spelling -/

/-- The category of a word by its spelling alone: a signed decimal before a
keyword or a namespace, these before an operator, and in any letter case. -/
inductive Spelled (word : Text) : Category → Prop where
  | int (decimal : SignedDecimal word) : Spelled word .int
  | keyword (noDecimal : ¬ SignedDecimal word)
      (reserved : word.map Char.toLower ∈ keywords ∨
        namespaceMark <:+: word.map Char.toLower) :
      Spelled word .keyword
  | operator (noDecimal : ¬ SignedDecimal word)
      (notReserved : word.map Char.toLower ∉ keywords)
      (notNamespaced : ¬ namespaceMark <:+: word.map Char.toLower)
      (known : word.map Char.toLower ∈ operators) :
      Spelled word .operator
  | predicate (noDecimal : ¬ SignedDecimal word)
      (notReserved : word.map Char.toLower ∉ keywords)
      (notNamespaced : ¬ namespaceMark <:+: word.map Char.toLower)
      (unknown : word.map Char.toLower ∉ operators) :
      Spelled word .predicate

/-- Every word has the category of its spelling. -/
theorem spelled_category (word : Text) : Spelled word (category word) := by
  unfold category
  split
  · next decimal => exact .int (isSignedDecimal_iff.mp decimal)
  · next noDecimal =>
      have noDecimal := isSignedDecimal_iff.not.mp noDecimal
      split
      · next reserved =>
          rw [Bool.or_eq_true, isKeyword_iff, isNamespaced_iff] at reserved
          exact .keyword noDecimal reserved
      · next free =>
          rw [Bool.or_eq_true, isKeyword_iff, isNamespaced_iff,
            not_or] at free
          split
          · next known =>
              exact .operator noDecimal free.1 free.2 (isOperator_iff.mp known)
          · next unknown =>
              exact .predicate noDecimal free.1 free.2
                (isOperator_iff.not.mp unknown)

/-- No word has two categories by its spelling. -/
theorem Spelled.unique {word : Text} {left right : Category}
    (leftSpelled : Spelled word left) (rightSpelled : Spelled word right) :
    left = right := by
  cases leftSpelled <;> cases rightSpelled <;> simp_all

/-- The spelling alone makes no word a comment. -/
theorem Spelled.ne_comment {word : Text} {category : Category}
    (spelled : Spelled word category) : category ≠ .comment := by
  cases spelled <;> decide

/-- The spelling alone makes no word a string. -/
theorem Spelled.ne_string {word : Text} {category : Category}
    (spelled : Spelled word category) : category ≠ .string := by
  cases spelled <;> decide

end CsdlHighlight.Word
