import CsdlHighlight.Proofs.Text.Search
import CsdlHighlight.Proofs.Toml.Escape

/-!
Contract: every text comes back out of its written string.

Owns:
- the inside of a string up to its closing delimiter, in each form;
- the texts that a form can hold, and that the chosen form can hold its text;
- the cut of a written string out of a document, and its text.

Does not own: the single characters inside a string.
-/

namespace CsdlHighlight.Toml

namespace Quotation

variable {quotation : Quotation}

/-! ## The closing delimiter -/

/-- The inside of a string in a form: in front of the closing delimiter it is
cut and read in full, if no quote follows that could belong to the string. -/
structure IsInside (quotation : Quotation) (written shown : Text) : Prop where
  cut_close : ∀ rest, rest.head? ≠ some quotation.quote →
    quotation.cut (written ++ (quotation.delimiter ++ rest)) =
      (written ++ quotation.delimiter, rest)
  read_close : ∀ rest, rest.head? ≠ some quotation.quote →
    quotation.read (written ++ (quotation.delimiter ++ rest)) =
      some (shown, rest)

theorem StandsFor.isInside {written shown behind shownBehind : Text}
    (here : StandsFor quotation written shown)
    (there : IsInside quotation behind shownBehind) :
    IsInside quotation (written ++ behind) (shown ++ shownBehind) where
  cut_close rest noQuote := by
    rw [List.append_assoc, here.cut_append, there.cut_close rest noQuote, ahead,
      List.append_assoc]
  read_close rest noQuote := by
    rw [List.append_assoc, here.read_append, there.read_close rest noQuote]
    rfl

theorem cutExtra_quotes {quote : Char} {count : Nat} (few : count ≤ 2)
    {rest : Text} (noQuote : rest.head? ≠ some quote) :
    cutExtra quote (List.replicate count quote ++ rest) =
      (List.replicate count quote, rest) := by
  match count, few with
  | 0, _ =>
      match rest with
      | [] => rfl
      | [only] =>
          have differs : only ≠ quote := fun same =>
            noQuote (congrArg some same)
          simp [cutExtra, differs]
      | first :: second :: more =>
          have differs : first ≠ quote := fun same =>
            noQuote (congrArg some same)
          simp [cutExtra, differs]
  | 1, _ =>
      match rest with
      | [] => simp [cutExtra]
      | first :: more =>
          have differs : first ≠ quote := fun same =>
            noQuote (congrArg some same)
          simp [cutExtra, differs]
  | 2, _ => simp [cutExtra]

theorem delimiter_of_isMulti (multi : quotation.isMulti = true) :
    quotation.delimiter = List.replicate 3 quotation.quote := by
  cases quotation with
  | basic => cases multi
  | literal => cases multi
  | multiBasic => rfl
  | multiLiteral => rfl

/-- Quotes at the end of a string of several lines go into its closing row. -/
theorem isInside_quotes (multi : quotation.isMulti = true) {count : Nat}
    (few : count ≤ 2) :
    IsInside quotation (List.replicate count quotation.quote)
      (List.replicate count quotation.quote) := by
  have gathered : ∀ rest, List.replicate count quotation.quote ++
      (quotation.delimiter ++ rest) =
        quotation.delimiter ++
          (List.replicate count quotation.quote ++ rest) := by
    intro rest
    rw [delimiter_of_isMulti multi, ← List.append_assoc, ← List.append_assoc,
      List.replicate_append_replicate, List.replicate_append_replicate,
      Nat.add_comm]
  have cutClosing : ∀ behind, quotation.cut (quotation.delimiter ++ behind) =
      ahead quotation.delimiter (cutExtra quotation.quote behind) := by
    intro behind
    cases quotation with
    | basic => cases multi
    | literal => cases multi
    | multiBasic => rfl
    | multiLiteral => rfl
  have readClosing : ∀ behind, quotation.read (quotation.delimiter ++ behind) =
      some (cutExtra quotation.quote behind) := by
    intro behind
    cases quotation with
    | basic => cases multi
    | literal => cases multi
    | multiBasic => rfl
    | multiLiteral => rfl
  constructor
  · intro rest noQuote
    have backwards := gathered []
    rw [List.append_nil, List.append_nil] at backwards
    rw [gathered, cutClosing, cutExtra_quotes few noQuote, ahead, backwards]
  · intro rest noQuote
    rw [gathered, readClosing, cutExtra_quotes few noQuote]

theorem isInside_nil : IsInside quotation [] [] := by
  cases quotation with
  | basic => exact ⟨fun _ _ => rfl, fun _ _ => rfl⟩
  | literal => exact ⟨fun _ _ => rfl, fun _ _ => rfl⟩
  | multiBasic => exact isInside_quotes rfl (Nat.zero_le 2)
  | multiLiteral => exact isInside_quotes rfl (Nat.zero_le 2)

/-! ## Quotes in a string of several lines -/

section Quotes

variable (multi : quotation.isMulti = true)

include multi

theorem cut_quote {next : Text}
    (lone : ∀ more, next ≠ quotation.quote :: quotation.quote :: more) :
    quotation.cut (quotation.quote :: next) =
      ahead [quotation.quote] (quotation.cut next) := by
  cases quotation with
  | basic => cases multi
  | literal => cases multi
  | multiBasic =>
      simp only [quote] at lone
      simp [cut, cutMultiBasic, quote, lone]
  | multiLiteral =>
      simp only [quote] at lone
      simp [cut, cutMultiLiteral, quote, lone]

theorem read_quote {next : Text}
    (lone : ∀ more, next ≠ quotation.quote :: quotation.quote :: more) :
    quotation.read (quotation.quote :: next) =
      before [quotation.quote] (quotation.read next) := by
  cases quotation with
  | basic => cases multi
  | literal => cases multi
  | multiBasic =>
      simp only [quote] at lone
      simp [read, readMultiBasic, quote, isPlainChar, lone]
  | multiLiteral =>
      simp only [quote] at lone
      simp [read, readMultiLiteral, quote, isPlainChar, lone]

theorem standsFor_quote {written shown : Text}
    (lone : ∀ rest more,
      written ++ rest ≠ quotation.quote :: quotation.quote :: more)
    (here : StandsFor quotation written shown) :
    StandsFor quotation (quotation.quote :: written)
      (quotation.quote :: shown) where
  cut_append rest := by
    rw [List.cons_append, cut_quote multi (lone rest), here.cut_append,
      ahead_append]
    rfl
  read_append rest := by
    rw [List.cons_append, read_quote multi (lone rest), here.read_append,
      before_append]
    rfl

/-- Up to two quotes stand for themselves in front of another character. -/
theorem standsFor_quotes {count : Nat} (few : count ≤ 2) {head : Char}
    {written shown : Text} (notQuote : head ≠ quotation.quote)
    (here : StandsFor quotation (head :: written) shown) :
    StandsFor quotation
      (List.replicate count quotation.quote ++ head :: written)
      (List.replicate count quotation.quote ++ shown) := by
  have one : StandsFor quotation (quotation.quote :: head :: written)
      (quotation.quote :: shown) := by
    refine standsFor_quote multi ?_ here
    rintro rest more same
    exact notQuote (List.cons.inj same).1
  match count, few with
  | 0, _ => exact here
  | 1, _ => exact one
  | 2, _ =>
      refine standsFor_quote multi ?_ one
      rintro rest more same
      exact notQuote (List.cons.inj (List.cons.inj same).2).1

end Quotes

/-! ## The inside of each form -/

def Holds : Quotation → Text → Prop
  | .basic, _ => True
  | .literal, text => ∀ character ∈ text, IsPlain .literal character
  | .multiBasic, _ => True
  | .multiLiteral, text =>
      (∀ character ∈ text,
        character ≠ '\'' → IsPlain .multiLiteral character) ∧
      ¬ ['\'', '\'', '\''] <:+: text

theorem isInside_basic (text : Text) :
    IsInside .basic (text.flatMap escapeBasicChar) text := by
  have inside := (StandsFor.flatMap text fun character _ =>
    standsFor_escapeBasicChar character).isInside isInside_nil
  rwa [List.append_nil, List.append_nil] at inside

theorem isInside_literal {text : Text}
    (plain : ∀ character ∈ text, IsPlain .literal character) :
    IsInside .literal text text := by
  have inside := (StandsFor.flatMap text fun character member =>
    (plain character member).standsFor).isInside isInside_nil
  rwa [List.append_nil, List.append_nil, List.flatMap_singleton'] at inside

/-- The quotes that have been written directly before the text belong to the
claim, since only the character behind them decides how they are read. -/
theorem isInside_multiBasic (text : Text) {quotes : Nat} (few : quotes ≤ 2) :
    IsInside .multiBasic
      (List.replicate quotes '"' ++ escapeMultiBasic quotes text)
      (List.replicate quotes '"' ++ text) := by
  induction text generalizing quotes with
  | nil =>
      rw [escapeMultiBasic, List.append_nil]
      exact isInside_quotes rfl few
  | cons character rest inductionHypothesis =>
      have behind := inductionHypothesis (Nat.zero_le 2)
      by_cases isQuote : character = '"'
      · subst isQuote
        by_cases full : quotes = 2
        · subst full
          have escaped : StandsFor .multiBasic ['\\', '"'] ['"'] :=
            standsFor_letter (.inr rfl) rfl
          have row := standsFor_quotes rfl (Nat.le_refl 2) (by decide) escaped
          rw [escapeMultiBasic, if_pos rfl]
          exact row.isInside behind
        · have more := inductionHypothesis
            (show quotes + 1 ≤ 2 by omega)
          rw [escapeMultiBasic, if_neg full]
          rw [List.replicate_succ', List.append_assoc,
            List.append_assoc] at more
          exact more
      · obtain ⟨head, tail, written, shape⟩ := exists_escapeChar character
        have here := standsFor_escapeChar (.inr rfl) isQuote fun _ => rfl
        rw [written] at here
        have notQuote : head ≠ '"' := by
          rcases shape with rfl | ⟨rfl, -⟩
          · decide
          · exact isQuote
        have all := (standsFor_quotes rfl few notQuote here).isInside behind
        rw [List.append_assoc, List.append_assoc] at all
        rw [escapeMultiBasic, written]
        · exact all
        · exact isQuote

theorem isInside_multiLiteral {text : Text} {quotes : Nat} (few : quotes ≤ 2)
    (plain : ∀ character ∈ text,
      character ≠ '\'' → IsPlain .multiLiteral character)
    (noRow : ¬ ['\'', '\'', '\''] <:+: List.replicate quotes '\'' ++ text) :
    IsInside .multiLiteral (List.replicate quotes '\'' ++ text)
      (List.replicate quotes '\'' ++ text) := by
  induction text generalizing quotes with
  | nil =>
      rw [List.append_nil]
      exact isInside_quotes rfl few
  | cons character rest inductionHypothesis =>
      obtain ⟨plainHere, plainBehind⟩ := List.forall_mem_cons.mp plain
      by_cases isQuote : character = '\''
      · subst isQuote
        have joined : List.replicate quotes '\'' ++ '\'' :: rest =
            List.replicate (quotes + 1) '\'' ++ rest := by
          rw [List.replicate_succ', List.append_assoc]
          rfl
        rw [joined] at noRow ⊢
        have fewer : quotes + 1 ≤ 2 := by
          refine Nat.lt_succ_iff.mp (Nat.lt_of_le_of_ne (by omega) ?_)
          intro row
          rw [row] at noRow
          exact noRow ⟨[], rest, rfl⟩
        exact inductionHypothesis fewer plainBehind noRow
      · have noRowBehind : ¬ ['\'', '\'', '\''] <:+:
            List.replicate 0 '\'' ++ rest := fun row =>
          noRow (row.trans
            ⟨List.replicate quotes '\'' ++ [character], [], by simp⟩)
        have behind :=
          inductionHypothesis (Nat.zero_le 2) plainBehind noRowBehind
        have all := (standsFor_quotes rfl few isQuote
          (plainHere isQuote).standsFor).isInside behind
        rw [List.append_assoc] at all
        exact all

/-- In every form that can hold a text, the text is cut and read back in
full. -/
theorem isInside_inside {text : Text} (holds : quotation.Holds text) :
    IsInside quotation (quotation.inside text) text := by
  cases quotation with
  | basic => exact isInside_basic text
  | literal => exact isInside_literal holds
  | multiBasic => exact isInside_multiBasic text (Nat.zero_le 2)
  | multiLiteral => exact isInside_multiLiteral (Nat.zero_le 2) holds.1 holds.2

/-- The form that is chosen for a text can hold it. -/
theorem holds_choose (text : Text) : (choose text).Holds text := by
  unfold choose
  simp only
  split_ifs with basic literal multiBasic multiLiteral lines
  · trivial
  · simp only [Bool.and_eq_true, Bool.not_eq_true', List.any_eq_false,
      Bool.not_eq_true, List.contains_eq_mem, decide_eq_false_iff_not] at literal
    obtain ⟨⟨plain, noQuote⟩, noNewline⟩ := literal
    intro character member
    have notNewline : character ≠ '\n' := fun same => noNewline (same ▸ member)
    have notQuote : character ≠ '\'' := fun same => noQuote (same ▸ member)
    exact ⟨notQuote, by simp [HasEscapes],
      .inl (isPlainChar_of_not_isControl (plain character member) notNewline)⟩
  · trivial
  · simp only [Bool.and_eq_true, Bool.not_eq_true', List.any_eq_false,
      Bool.not_eq_true] at multiLiteral
    obtain ⟨plain, noRow⟩ := multiLiteral
    refine ⟨?_, Text.occurs_eq_false_iff.mp noRow⟩
    intro character member notQuote
    refine ⟨notQuote, by simp [HasEscapes], ?_⟩
    by_cases newline : character = '\n'
    · exact .inr ⟨newline, rfl⟩
    · exact .inl (isPlainChar_of_not_isControl (plain character member) newline)
  · trivial
  · trivial

/-! ## Tokens -/

theorem not_row {quote : Char} {written rest : Text}
    (opens : written.head? ≠ some quote) (noQuote : rest.head? ≠ some quote)
    (more : Text) : written ++ quote :: rest ≠ quote :: quote :: more := by
  cases written with
  | nil =>
      intro same
      exact noQuote (by rw [(List.cons.inj same).2]; rfl)
  | cons head tail =>
      intro same
      exact opens (congrArg some (List.cons.inj same).1)

/-- The inside of a string begins with a backslash, or with the first character
of the text. -/
theorem exists_inside_cons {character : Char} {text : Text}
    (holds : quotation.Holds (character :: text)) :
    ∃ head tail, quotation.inside (character :: text) = head :: tail ∧
      (head = '\\' ∨ head = character ∧ character ≠ '\r' ∧
        (quotation.isMulti = false → character ≠ quotation.quote)) := by
  obtain ⟨head, tail, written, shape⟩ := exists_escapeChar character
  cases quotation with
  | basic =>
      simp only [inside, List.flatMap_cons, escapeBasicChar]
      split_ifs with isQuote newline
      · exact ⟨_, _, rfl, .inl rfl⟩
      · exact ⟨_, _, rfl, .inl rfl⟩
      · rw [written]
        refine ⟨_, _, rfl, shape.imp_right ?_⟩
        rintro ⟨same, notReturn⟩
        exact ⟨same, notReturn, fun _ => isQuote⟩
  | literal =>
      have plain := holds character List.mem_cons_self
      exact ⟨_, _, rfl, .inr ⟨rfl, plain.notReturn, fun _ => plain.notQuote⟩⟩
  | multiBasic =>
      by_cases isQuote : character = '"'
      · subst isQuote
        exact ⟨_, _, rfl, .inr ⟨rfl, by decide, nofun⟩⟩
      · rw [inside, escapeMultiBasic, written]
        · refine ⟨_, _, rfl, shape.imp_right ?_⟩
          rintro ⟨same, notReturn⟩
          exact ⟨same, notReturn, nofun⟩
        · exact isQuote
  | multiLiteral =>
      have notReturn : character ≠ '\r' := by
        rintro rfl
        exact (holds.1 '\r' List.mem_cons_self (by decide)).notReturn rfl
      exact ⟨_, _, rfl, .inr ⟨rfl, notReturn, nofun⟩⟩

theorem head?_inside {text : Text} (holds : quotation.Holds text)
    (oneLine : quotation.isMulti = false) :
    (quotation.inside text).head? ≠ some quotation.quote := by
  cases text with
  | nil => cases quotation <;> simp [inside, escapeMultiBasic]
  | cons character rest =>
      obtain ⟨head, tail, written, shape⟩ := exists_inside_cons holds
      rw [written, List.head?_cons]
      rcases shape with rfl | ⟨rfl, -, notQuote⟩
      · cases quotation <;> decide
      · exact fun same => notQuote oneLine (Option.some.inj same)

/-- A string of several lines without a newline does not begin with one. -/
theorem skipFirstNewline_inside {text : Text} (holds : quotation.Holds text)
    (noNewline : '\n' ∉ text) (rest : Text) :
    skipFirstNewline (quotation.inside text ++ (quotation.delimiter ++ rest)) =
      quotation.inside text ++ (quotation.delimiter ++ rest) := by
  cases text with
  | nil => cases quotation <;> rfl
  | cons character others =>
      obtain ⟨head, tail, written, shape⟩ := exists_inside_cons holds
      have notNewline : character ≠ '\n' := by
        rintro rfl
        exact noNewline List.mem_cons_self
      rw [written]
      rcases shape with rfl | ⟨rfl, notReturn, -⟩
      · rfl
      · simp [skipFirstNewline, notNewline, notReturn]

/-- The newline that a text of several lines starts with. -/
def firstLine (quotation : Quotation) (text : Text) : Text :=
  if quotation.isMulti && text.contains '\n' then ['\n'] else []

theorem write_append (text rest : Text) :
    quotation.write text ++ rest = quotation.delimiter ++
      (quotation.firstLine text ++
        (quotation.inside text ++ (quotation.delimiter ++ rest))) := by
  simp only [write, firstLine, List.append_assoc]

/-- A written string opens with the quote of its form. -/
theorem exists_write_cons (quotation : Quotation) (text : Text) :
    ∃ behind, quotation.write text = quotation.quote :: behind := by
  cases quotation <;> exact ⟨_, rfl⟩

theorem standsFor_newline (multi : quotation.isMulti = true) :
    StandsFor quotation ['\n'] ['\n'] := by
  refine IsPlain.standsFor ⟨?_, fun _ => by decide, .inr ⟨rfl, multi⟩⟩
  cases quotation <;> decide

variable {text rest : Text}

theorem cut_firstLine (holds : quotation.Holds text)
    (noQuote : rest.head? ≠ some quotation.quote) :
    quotation.cut (quotation.firstLine text ++
        (quotation.inside text ++ (quotation.delimiter ++ rest))) =
      (quotation.firstLine text ++
        (quotation.inside text ++ quotation.delimiter), rest) := by
  have closes := (isInside_inside holds).cut_close rest noQuote
  unfold firstLine
  split_ifs with lines
  · obtain ⟨multi, -⟩ := Bool.and_eq_true_iff.mp lines
    rw [(standsFor_newline multi).cut_append, closes]
    rfl
  · exact closes

theorem read_firstLine (holds : quotation.Holds text)
    (multi : quotation.isMulti = true)
    (noQuote : rest.head? ≠ some quotation.quote) :
    quotation.read (skipFirstNewline (quotation.firstLine text ++
        (quotation.inside text ++ (quotation.delimiter ++ rest)))) =
      some (text, rest) := by
  have closes := (isInside_inside holds).read_close rest noQuote
  unfold firstLine
  split_ifs with lines
  · exact closes
  · have noNewline : '\n' ∉ text := by simpa [multi] using lines
    rw [List.nil_append, skipFirstNewline_inside holds noNewline, closes]

/-- A string that is no row of quotes is opened by the delimiter of its form. -/
theorem cutString?_delimiter {inner : Text}
    (lone : quotation.isMulti = false →
      ∀ more, inner ≠ quotation.quote :: quotation.quote :: more) :
    cutString? (quotation.delimiter ++ inner) =
      some (ahead quotation.delimiter (quotation.cut inner)) := by
  cases quotation with
  | basic =>
      have single := lone rfl
      simp only [quote] at single
      simp [cutString?, delimiter, cut]
  | literal =>
      have single := lone rfl
      simp only [quote] at single
      simp [cutString?, delimiter, cut]
  | multiBasic => rfl
  | multiLiteral => rfl

theorem readToken?_delimiter {inner : Text}
    (lone : quotation.isMulti = false →
      ∀ more, inner ≠ quotation.quote :: quotation.quote :: more) :
    readToken? (quotation.delimiter ++ inner) =
      quotation.read
        (if quotation.isMulti then skipFirstNewline inner else inner) := by
  cases quotation with
  | basic =>
      have single := lone rfl
      simp only [quote] at single
      simp [readToken?, delimiter, read, isMulti]
  | literal =>
      have single := lone rfl
      simp only [quote] at single
      simp [readToken?, delimiter, read, isMulti]
  | multiBasic => rfl
  | multiLiteral => rfl

theorem lone_inner (holds : quotation.Holds text)
    (noQuote : rest.head? ≠ some quotation.quote)
    (oneLine : quotation.isMulti = false) (more : Text) :
    quotation.firstLine text ++
        (quotation.inside text ++ (quotation.delimiter ++ rest)) ≠
      quotation.quote :: quotation.quote :: more := by
  have row := not_row (head?_inside holds oneLine) noQuote more
  rw [firstLine, oneLine]
  cases quotation with
  | basic => exact row
  | literal => exact row
  | multiBasic => cases oneLine
  | multiLiteral => cases oneLine

/-- A written string is cut out of a document as it was written. -/
theorem cutString?_write (holds : quotation.Holds text)
    (noQuote : rest.head? ≠ some quotation.quote) :
    cutString? (quotation.write text ++ rest) =
      some (quotation.write text, rest) := by
  rw [write_append, cutString?_delimiter (lone_inner holds noQuote),
    cut_firstLine holds noQuote]
  simp only [ahead, write, firstLine, List.append_assoc]

/-- A written string is read as the text that was written. -/
theorem readToken?_write (holds : quotation.Holds text)
    (noQuote : rest.head? ≠ some quotation.quote) :
    readToken? (quotation.write text ++ rest) = some (text, rest) := by
  rw [write_append, readToken?_delimiter (lone_inner holds noQuote)]
  cases multi : quotation.isMulti with
  | true => exact read_firstLine holds multi noQuote
  | false =>
      rw [firstLine, multi]
      exact (isInside_inside holds).read_close rest noQuote

end Quotation

section Quote

variable {rest : Text}

/-- What can stand behind any string: no quote that could belong to it. -/
structure IsUnquoted (rest : Text) : Prop where
  notDouble : rest.head? ≠ some '"'
  notSingle : rest.head? ≠ some '\''

theorem IsUnquoted.noQuote (unquoted : IsUnquoted rest)
    (quotation : Quotation) : rest.head? ≠ some quotation.quote := by
  cases quotation with
  | basic => exact unquoted.notDouble
  | literal => exact unquoted.notSingle
  | multiBasic => exact unquoted.notDouble
  | multiLiteral => exact unquoted.notSingle

/-- A written string is cut off where it ends. -/
theorem cutString?_quote (text : Text) (unquoted : IsUnquoted rest) :
    cutString? (quote text ++ rest) = some (quote text, rest) :=
  Quotation.cutString?_write (Quotation.holds_choose text) (unquoted.noQuote _)

/-- A written string stands for the text that was written. -/
theorem unquote?_quote (text : Text) : unquote? (quote text) = some text := by
  have unquoted : IsUnquoted [] := ⟨nofun, nofun⟩
  have found := Quotation.readToken?_write (Quotation.holds_choose text)
    (unquoted.noQuote _)
  rw [List.append_nil] at found
  rw [unquote?, quote, found]

end Quote

end CsdlHighlight.Toml
