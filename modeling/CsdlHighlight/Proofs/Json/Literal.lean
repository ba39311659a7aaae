import CsdlHighlight.Json.Skip
import Mathlib.Tactic.SplitIfs

/-!
Contract: a written JSON literal reads back as its text, whatever stands behind
it.

Owns:
- the reading of each kind of escape;
- the reading of a whole literal;
- `IsLiteralOf`, literals that a reader takes in full and no sooner.

Does not own: literals that the writer never writes.
-/

namespace CsdlHighlight.Json

/-! ## What a reader takes -/

theorem consRead_append {character : Char} {found grown : Option (Text × Text)}
    {read rest more : Text}
    (consumed : consRead character found = some (read, rest))
    (grows : ∀ {others : Text}, found = some (others, rest) →
      grown = some (others, rest ++ more)) :
    consRead character grown = some (read, rest ++ more) := by
  obtain ⟨⟨others, behind⟩, isFound, same⟩ := Option.map_eq_some_iff.mp consumed
  obtain ⟨rfl, rfl⟩ := Prod.mk.inj same
  rw [grows isFound]
  rfl

/-- A reader that has found the closing quote does not look at what stands
behind it. -/
theorem readInside_append {pending : Option Nat} {text read rest : Text}
    (found : readInside pending text = some (read, rest)) (more : Text) :
    readInside pending (text ++ more) = some (read, rest ++ more) := by
  fun_induction readInside pending text generalizing read with
  | case1 => cases found
  | case2 pending rest closes =>
      cases found
      simp [readInside, closes]
  | case3 => cases found
  | case4 => cases found
  | case5 a b c d rest number value high inductionHypothesis =>
      simpa [readInside, value, high] using inductionHypothesis found
  | case6 a b c d rest number value notHigh inductionHypothesis =>
      obtain ⟨character, scalar, consumed⟩ := Option.bind_eq_some_iff.mp found
      simpa [readInside, value, notHigh, scalar] using
        consRead_append consumed inductionHypothesis
  | case7 a b c d rest number high value low inductionHypothesis =>
      obtain ⟨character, scalar, consumed⟩ := Option.bind_eq_some_iff.mp found
      simpa [readInside, value, low, scalar] using
        consRead_append consumed inductionHypothesis
  | case8 => cases found
  | case9 pending letter rest notCode free inductionHypothesis =>
      obtain ⟨character, escape, consumed⟩ := Option.bind_eq_some_iff.mp found
      have notHex : letter ≠ 'u' := by
        rintro rfl
        cases escape
      simpa [readInside, notHex, free, escape] using
        consRead_append consumed inductionHypothesis
  | case10 => cases found
  | case11 pending character rest notQuote notCode notEscape plain
      inductionHypothesis =>
      -- A backslash at the very end has nothing behind it that could be read.
      have notBackslash : character ≠ '\\' := by
        rintro rfl
        cases rest with
        | nil => cases found
        | cons letter others => exact notEscape letter others rfl rfl
      rw [List.cons_append, readInside]
      · simp only [plain, if_true]
        exact consRead_append found inductionHypothesis
      · exact notQuote
      · exact fun _ _ _ _ _ isBackslash => absurd isBackslash notBackslash
      · exact fun _ _ isBackslash => absurd isBackslash notBackslash
  | case12 => cases found

theorem readLiteral_append {text read rest : Text}
    (found : readLiteral text = some (read, rest)) (more : Text) :
    readLiteral (text ++ more) = some (read, rest ++ more) := by
  unfold readLiteral at found
  split at found
  · exact readInside_append found more
  · cases found

/-! ## One character -/

theorem readInside_letter {letter character : Char}
    (escape : letterEscape? letter = some character) (rest : Text) :
    readInside none ('\\' :: letter :: rest) =
      consRead character (readInside none rest) := by
  have notHex : letter ≠ 'u' := by
    rintro rfl
    cases escape
  simp [readInside, notHex, escape]

theorem isHighSurrogate_toNat (character : Char) :
    isHighSurrogate character.toNat = false := by
  have valid := character.valid
  simp only [UInt32.isValidChar, Nat.isValidChar] at valid
  simp only [isHighSurrogate, Char.toNat, Bool.and_eq_false_iff,
    decide_eq_false_iff_not]
  omega

theorem scalar?_toNat (character : Char) :
    Text.scalar? character.toNat = some character := by
  have valid : character.toNat.isValidChar := character.valid
  rw [Text.scalar?, if_pos valid, Char.ofNat_toNat]

/-- Four digits that write the code of a character. -/
theorem readInside_code {a b c d character : Char}
    (code : Text.hexValue? [a, b, c, d] = some character.toNat)
    (rest : Text) :
    readInside none ('\\' :: 'u' :: a :: b :: c :: d :: rest) =
      consRead character (readInside none rest) := by
  simp [readInside, code, isHighSurrogate_toNat, scalar?_toNat]

theorem readInside_plain {character : Char} (notQuote : character ≠ '"')
    (notBackslash : character ≠ '\\') (printable : 0x20 ≤ character.toNat)
    (rest : Text) :
    readInside none (character :: rest) =
      consRead character (readInside none rest) := by
  simp [readInside, notBackslash, printable]

/-- The escape of a control character has four digits that write its code. -/
theorem controlEscape_ofNat : ∀ code < 0x20,
    controlEscape (Char.ofNat code) =
        ['\\', 'u', '0', '0', Nat.digitChar (code / 16),
          Nat.digitChar (code % 16)] ∧
      Text.hexValue? ['0', '0', Nat.digitChar (code / 16),
        Nat.digitChar (code % 16)] = some code := by
  decide

/-- Behind an escaped character the reader goes on where the escape ends. -/
theorem readInside_escapeChar (character : Char) (rest : Text) :
    readInside none (escapeChar character ++ rest) =
      consRead character (readInside none rest) := by
  unfold escapeChar
  split_ifs with quote backslash backspace formFeed lineFeed carriageReturn tab
    control
  · exact readInside_letter (by rw [quote]; rfl) rest
  · exact readInside_letter (by rw [backslash]; rfl) rest
  · exact readInside_letter (by rw [backspace]; rfl) rest
  · exact readInside_letter (by rw [formFeed]; rfl) rest
  · exact readInside_letter (by rw [lineFeed]; rfl) rest
  · exact readInside_letter (by rw [carriageReturn]; rfl) rest
  · exact readInside_letter (by rw [tab]; rfl) rest
  · obtain ⟨digits, code⟩ := controlEscape_ofNat character.toNat control
    rw [Char.ofNat_toNat] at digits
    rw [digits]
    exact readInside_code code rest
  · exact readInside_plain quote backslash (Nat.le_of_not_lt control) rest

/-- What stands for a character is no control character. -/
theorem printable_escapeChar (character : Char) :
    ∀ written ∈ escapeChar character, 0x20 ≤ written.toNat := by
  unfold escapeChar
  split_ifs with quote backslash backspace formFeed lineFeed carriageReturn tab
    control
  · simp
  · simp
  · simp
  · simp
  · simp
  · simp
  · simp
  · have printable : ∀ code < 0x20,
        (controlEscape (Char.ofNat code)).all
          (fun written => decide (0x20 ≤ written.toNat)) = true := by
      decide
    have here := printable character.toNat control
    rw [Char.ofNat_toNat] at here
    intro written member
    exact of_decide_eq_true (List.all_eq_true.mp here written member)
  · intro written member
    obtain rfl := List.mem_singleton.mp member
    exact Nat.le_of_not_lt control

/-! ## The whole literal -/

/-- The inside of a literal ends at the quote behind its text. -/
theorem readInside_flatMap_escapeChar (text rest : Text) :
    readInside none (text.flatMap escapeChar ++ '"' :: rest) =
      some (text, rest) := by
  induction text with
  | nil => simp [readInside]
  | cons character others inductionHypothesis =>
      rw [List.flatMap_cons, List.append_assoc, readInside_escapeChar,
        inductionHypothesis]
      rfl

/-- A literal is read back as the text it was made from, whatever follows it. -/
theorem readLiteral_literal (text rest : Text) :
    readLiteral (literal text ++ rest) = some (text, rest) := by
  simp only [literal, List.cons_append, List.append_assoc, List.nil_append,
    readLiteral, readInside_flatMap_escapeChar]

/-- No spacing stands in front of a literal. -/
theorem skipSpacing_literal (text rest : Text) :
    skipSpacing (literal text ++ rest) = literal text ++ rest := by
  rfl

/-- A literal of a text: whatever stands behind it, a reader that starts at its
first quote takes all of it and finds the text.  No part at its head is a
literal, and it holds no control character. -/
structure IsLiteralOf (text literal : Text) : Prop where
  read_append : ∀ rest, readLiteral (literal ++ rest) = some (text, rest)
  read_front : ∀ front, front <+: literal → front ≠ literal →
    readLiteral front = none
  printable : ∀ character ∈ literal, 0x20 ≤ character.toNat

theorem readLiteral_of_isPrefix_literal {text front : Text}
    (within : front <+: literal text) (shorter : front ≠ literal text) :
    readLiteral front = none := by
  obtain ⟨behind, whole⟩ := within
  cases found : readLiteral front with
  | none => rfl
  | some taken =>
      -- The reader would stop at the same place in the whole literal.
      have continued := readLiteral_append found behind
      have ended := readLiteral_literal text []
      rw [List.append_nil, ← whole, continued] at ended
      obtain ⟨-, noRest⟩ := Prod.mk.inj (Option.some.inj ended)
      refine absurd ?_ shorter
      rw [← whole, (List.append_eq_nil_iff.mp noRest).2, List.append_nil]

theorem printable_literal (text : Text) :
    ∀ character ∈ literal text, 0x20 ≤ character.toNat := by
  intro written member
  simp only [literal, List.mem_cons, List.mem_append, List.mem_flatMap,
    List.not_mem_nil, or_false] at member
  rcases member with rfl | ⟨character, -, escaped⟩ | rfl
  · decide
  · exact printable_escapeChar character written escaped
  · decide

theorem isLiteralOf_literal (text : Text) : IsLiteralOf text (literal text) where
  read_append := readLiteral_literal text
  read_front _ := readLiteral_of_isPrefix_literal
  printable := printable_literal text

end CsdlHighlight.Json
