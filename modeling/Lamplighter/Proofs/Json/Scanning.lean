import Lamplighter.Json.Printing
import Lamplighter.Json.Token
import Lamplighter.Proofs.Json.Numeral

/-!
# Scalars are scanned back from their spelling

A scanner reads the spelling of a scalar character by character and comes to one token, that of the
scalar, `Scan.run_scalarSpelling`. Every way in which a text spells a character is undone; a text
that is no string stays one. A word or number ends only where no further character of words follows.
-/

namespace Lamplighter.Json

namespace Scan

/-! ## Single characters -/

/-- A character that can be read is read, and the rest of the text after it. -/
theorem run_cons {scan next : Scan} {char : Char} {tokens : List Token}
    (step : scan.step char = some (next, tokens)) (rest : List Char) :
    scan.run (char :: rest) = (next.run rest).map (tokens ++ ·) := by
  simp only [run, step]

/-- A character that completes no token only changes what is remembered. -/
theorem run_cons_of_no_token {scan next : Scan} {char : Char}
    (step : scan.step char = some (next, [])) (rest : List Char) :
    scan.run (char :: rest) = next.run rest := by
  simp [run_cons step]

/-! ## Texts -/

theorem hexValue?_hexDigit (value : Nat) : hexValue? (hexDigit value) = some (value % 16) := by
  have small : value % 16 < 16 := Nat.mod_lt _ (by decide)
  unfold hexDigit
  generalize value % 16 = digit at small
  decide +revert

/-- A short escape stands for one character. -/
theorem run_shortEscape {letter meant : Char} (isEscape : escaped? letter = some meant)
    (notUnit : letter ≠ 'u') (read : List Char) (rest : List Char) :
    (text (some ⟨read, none⟩)).run ('\\' :: letter :: rest) =
      (text (some ⟨meant :: read, none⟩)).run rest := by
  have opens : (text (some ⟨read, none⟩)).step '\\' = some (escape (some ⟨read, none⟩), []) := rfl
  have closes : (escape (some ⟨read, none⟩)).step letter =
      some (text (some ⟨meant :: read, none⟩), []) := by
    simp [step, notUnit, isEscape, Draft.push]
  rw [run_cons_of_no_token opens, run_cons_of_no_token closes]

/-- Four hexadecimal digits behind a backslash and its letter add a code unit. -/
theorem run_unitEscape {first second third fourth : Char} {one two three four : Nat}
    (isOne : hexValue? first = some one) (isTwo : hexValue? second = some two)
    (isThree : hexValue? third = some three) (isFour : hexValue? fourth = some four)
    (draft : Draft) (rest : List Char) :
    (text (some draft)).run ('\\' :: 'u' :: first :: second :: third :: fourth :: rest) =
      (text (draft.pushUnit (((one * 16 + two) * 16 + three) * 16 + four))).run rest := by
  simp [run, step, isOne, isTwo, isThree, isFour]

/-- The code unit of a control character stands for this character. -/
theorem run_controlEscape {char : Char} (control : char.toNat < 0x20) (read rest : List Char) :
    (text (some ⟨read, none⟩)).run
        ('\\' :: 'u' :: '0' :: '0' :: hexDigit (char.toNat / 16) :: hexDigit char.toNat :: rest) =
      (text (some ⟨char :: read, none⟩)).run rest := by
  have number : ((0 * 16 + 0) * 16 + char.toNat / 16 % 16) * 16 + char.toNat % 16 = char.toNat := by
    omega
  have notLeading : ¬ (0xd800 ≤ char.toNat ∧ char.toNat < 0xdc00) := by omega
  have notTrailing : ¬ (0xdc00 ≤ char.toNat ∧ char.toNat < 0xe000) := by omega
  have pushed : Draft.pushUnit ⟨read, none⟩ char.toNat = some ⟨char :: read, none⟩ := by
    simp [Draft.pushUnit, Draft.push, notLeading, notTrailing]
  have zero : hexValue? '0' = some 0 := rfl
  rw [run_unitEscape zero zero (hexValue?_hexDigit _) (hexValue?_hexDigit _), number, pushed]

/-- A character is spelt by a short escape, as a code unit or by itself. -/
theorem escapedChar_cases (char : Char) :
    (∃ letter, escapedChar char = ['\\', letter] ∧ escaped? letter = some char ∧ letter ≠ 'u') ∨
      (escapedChar char =
          ['\\', 'u', '0', '0', hexDigit (char.toNat / 16), hexDigit char.toNat] ∧
        char.toNat < 0x20) ∨
      (escapedChar char = [char] ∧ char ≠ '"' ∧ char ≠ '\\' ∧ ¬ char.toNat < 0x20) := by
  unfold escapedChar
  split_ifs with quote backslash backspace formFeed lineFeed carriageReturn tab control
  · exact .inl ⟨'"', rfl, by rw [quote]; rfl, by decide⟩
  · exact .inl ⟨'\\', rfl, by rw [backslash]; rfl, by decide⟩
  · exact .inl ⟨_, rfl, backspace ▸ rfl, by decide⟩
  · exact .inl ⟨_, rfl, formFeed ▸ rfl, by decide⟩
  · exact .inl ⟨_, rfl, lineFeed ▸ rfl, by decide⟩
  · exact .inl ⟨_, rfl, carriageReturn ▸ rfl, by decide⟩
  · exact .inl ⟨_, rfl, tab ▸ rfl, by decide⟩
  · exact .inr (.inl ⟨rfl, control⟩)
  · exact .inr (.inr ⟨rfl, quote, backslash, control⟩)

/-- The spelling of a character adds this character to what has been read of a text. -/
theorem run_escapedChar (read : List Char) (char : Char) (rest : List Char) :
    (text (some ⟨read, none⟩)).run (escapedChar char ++ rest) =
      (text (some ⟨char :: read, none⟩)).run rest := by
  rcases escapedChar_cases char with
    ⟨letter, spelt, isEscape, notUnit⟩ | ⟨spelt, control⟩ | ⟨spelt, notQuote, notBackslash, shown⟩
  · rw [spelt]
    exact run_shortEscape isEscape notUnit read rest
  · rw [spelt]
    exact run_controlEscape control read rest
  · rw [spelt]
    apply run_cons_of_no_token
    simp [step, notQuote, notBackslash, shown, Draft.push]

/-- The spellings of some characters add them to what has been read of a text. -/
theorem run_escapedChars (read chars rest : List Char) :
    (text (some ⟨read, none⟩)).run (chars.flatMap escapedChar ++ rest) =
      (text (some ⟨chars.reverse ++ read, none⟩)).run rest := by
  induction chars generalizing read with
  | nil => rfl
  | cons char further inductionHypothesis =>
      rw [List.flatMap_cons, List.append_assoc, run_escapedChar, inductionHypothesis,
        List.reverse_cons, List.append_assoc, List.singleton_append]

/-- The spelling of a text gives its token. What is no string comes back as none. -/
theorem run_textSpelling (content : Text) (rest : List Char) :
    between.run (content.spelling ++ rest) =
      (between.run rest).map ([.scalar (.text content)] ++ ·) := by
  have opens : between.step '"' = some (text (some .empty), []) := rfl
  cases content with
  | none =>
      -- A leading surrogate waits in the draft when the closing quote comes.
      have closes : (text (some ⟨[], some 0xd800⟩)).step '"' =
          some (between, [.scalar (.text none)]) := rfl
      have spelling : Text.spelling none ++ rest =
          '"' :: '\\' :: 'u' :: 'd' :: '8' :: '0' :: '0' :: '"' :: rest := rfl
      have letter : hexValue? 'd' = some 13 := rfl
      have eight : hexValue? '8' = some 8 := rfl
      have zero : hexValue? '0' = some 0 := rfl
      have waits : Draft.empty.pushUnit 0xd800 = some ⟨[], some 0xd800⟩ := rfl
      rw [spelling, run_cons_of_no_token opens, run_unitEscape letter eight zero zero, waits,
        run_cons closes]
  | some string =>
      have closes : (text (some ⟨string.toList.reverse ++ [], none⟩)).step '"' =
          some (between, [.scalar (.text (some string))]) := by
        simp [step, Draft.finish]
      have spelling : Text.spelling (some string) =
          '"' :: (string.toList.flatMap escapedChar ++ ['"']) := rfl
      rw [spelling, List.cons_append, List.append_assoc, run_cons_of_no_token opens, Draft.empty,
        run_escapedChars, List.singleton_append, run_cons closes]

/-! ## Words and numbers -/

/-- No character of a word or number is a blank. -/
theorem isBlank_of_isWordChar {char : Char} (isWord : isWordChar char = true) :
    isBlank char = false := by
  rw [Bool.eq_false_iff]
  intro blank
  simp only [isBlank, Bool.or_eq_true, beq_iff_eq] at blank
  rcases blank with ((rfl | rfl) | rfl) | rfl <;> exact absurd isWord (by decide)

/-- A word goes on as long as its characters do. -/
theorem run_wordChars {chars : List Char} (areWord : ∀ char ∈ chars, isWordChar char = true)
    (read rest : List Char) :
    (word read).run (chars ++ rest) = (word (chars.reverse ++ read)).run rest := by
  induction chars generalizing read with
  | nil => rfl
  | cons char further inductionHypothesis =>
      rw [List.forall_mem_cons] at areWord
      have goesOn : (word read).step char = some (word (char :: read), []) := by
        simp [step, areWord.1]
      rw [List.cons_append, run_cons_of_no_token goesOn, inductionHypothesis areWord.2,
        List.reverse_cons, List.append_assoc, List.singleton_append]

/-- A word that spells a scalar ends where no word character follows, and gives its token. -/
theorem run_wordEnd {read : List Char} {leaf : Scalar} (spells : scalarOf? read.reverse = some leaf)
    {rest : List Char} (stops : StopsAt isWordChar rest) :
    (word read).run rest = (between.run rest).map ([.scalar leaf] ++ ·) := by
  cases rest with
  | nil => simp [run, finish, spells]
  | cons char further =>
      have notWord : isWordChar char = false := stops char rfl
      cases next : stepBetween char with
      | none => simp [run, step, notWord, spells, next]
      | some outcome =>
          simp [run, step, notWord, spells, next, Option.map_map, Function.comp_def]

/-- A word that spells a scalar gives its token. -/
theorem run_wordSpelling {chars : List Char} {leaf : Scalar} (spells : scalarOf? chars = some leaf)
    (areWord : chars.all isWordChar = true) (some : chars ≠ []) {rest : List Char}
    (stops : StopsAt isWordChar rest) :
    between.run (chars ++ rest) = (between.run rest).map ([.scalar leaf] ++ ·) := by
  cases chars with
  | nil => exact absurd rfl some
  | cons first further =>
      rw [List.all_eq_true, List.forall_mem_cons] at areWord
      have begins : between.step first = .some (word [first], []) := by
        simp [step, stepBetween, isBlank_of_isWordChar areWord.1, areWord.1]
      rw [List.cons_append, run_cons_of_no_token begins, run_wordChars areWord.2]
      exact run_wordEnd (by simpa using spells) stops

end Scan

namespace Numeral

/-- A numeral is spelt with the characters of words and numbers. -/
theorem isWordChar_of_mem_spelling {numeral : Numeral} {char : Char}
    (member : char ∈ numeral.spelling) : Scan.isWordChar char = true := by
  have ofDigit : ∀ {char : Char}, char.isDigit = true → Scan.isWordChar char = true := by
    intro char isDigit
    simp [Scan.isWordChar, Char.isAlphanum, isDigit]
  have ofNumber : ∀ {value : Nat}, char ∈ digits value → Scan.isWordChar char = true :=
    fun isOne => ofDigit (isDigit_of_mem_digits isOne)
  obtain ⟨negative, whole, fraction, exponent⟩ := numeral
  simp only [spelling, List.mem_append] at member
  rcases member with inSign | inWhole | inPoint | inPower
  · cases negative with
    | false => simp at inSign
    | true =>
        obtain rfl : char = '-' := by simpa using inSign
        rfl
  · exact ofNumber inWhole
  · by_cases noFraction : fraction = []
    · simp [pointSpelling, noFraction] at inPoint
    · simp only [pointSpelling, noFraction, if_false, List.mem_cons, List.mem_map] at inPoint
      rcases inPoint with rfl | ⟨digit, _, rfl⟩
      · rfl
      · exact ofDigit (isDigit_digitChar digit)
  · cases exponent with
    | none => simp [powerSpelling] at inPower
    | some exponent =>
        simp only [powerSpelling, exponentSpelling, List.mem_cons] at inPower
        rcases inPower with rfl | inNumber
        · rfl
        · split at inNumber
          next =>
            rcases List.mem_cons.1 inNumber with rfl | inNumber
            · rfl
            · exact ofNumber inNumber
          next => exact ofNumber inNumber

/-- A numeral is spelt as no word is. -/
theorem ne_of_head_notDigit (numeral : Numeral) {first : Char} {rest : List Char}
    (notDigit : first.isDigit = false) (notMinus : first ≠ '-') :
    numeral.spelling ≠ first :: rest := by
  obtain ⟨negative, whole, fraction, exponent⟩ := numeral
  obtain ⟨digit, further, split, isDigit⟩ := digits_eq_cons whole
  intro same
  cases negative with
  | false =>
      simp only [spelling, split, Bool.false_eq_true, if_false, List.nil_append,
        List.cons_append, List.cons.injEq] at same
      exact ne_of_isDigit isDigit notDigit same.1
  | true =>
      simp only [spelling, if_true, List.cons_append, List.cons.injEq] at same
      exact notMinus same.1.symm

/-- A numeral is spelt as no word is, and so its spelling gives it back. -/
theorem scalarOf?_spelling (numeral : Numeral) :
    Scan.scalarOf? numeral.spelling = some (.number numeral) := by
  have notNull : numeral.spelling ≠ "null".toList := numeral.ne_of_head_notDigit rfl (by decide)
  have notTrue : numeral.spelling ≠ "true".toList := numeral.ne_of_head_notDigit rfl (by decide)
  have notFalse : numeral.spelling ≠ "false".toList := numeral.ne_of_head_notDigit rfl (by decide)
  simp only [Scan.scalarOf?, notNull, notTrue, notFalse, if_false, read?_spelling, Option.map_some]

theorem spelling_ne_nil (numeral : Numeral) : numeral.spelling ≠ [] := by
  simp [spelling, digits_ne_nil]

end Numeral

/-- The spelling of a scalar gives its token, where no word character follows. -/
theorem Scan.run_scalarSpelling (leaf : Scalar) {rest : List Char}
    (stops : StopsAt isWordChar rest) :
    between.run (leaf.spelling ++ rest) = (between.run rest).map ([.scalar leaf] ++ ·) := by
  cases leaf with
  | null => exact run_wordSpelling rfl rfl (List.cons_ne_nil _ _) stops
  | bool value =>
      cases value with
      | false => exact run_wordSpelling rfl rfl (List.cons_ne_nil _ _) stops
      | true => exact run_wordSpelling rfl rfl (List.cons_ne_nil _ _) stops
  | number numeral =>
      have areWord : numeral.spelling.all isWordChar = true :=
        List.all_eq_true.2 fun _ => Numeral.isWordChar_of_mem_spelling
      exact run_wordSpelling numeral.scalarOf?_spelling areWord numeral.spelling_ne_nil stops
  | text content => exact run_textSpelling content rest

end Lamplighter.Json
