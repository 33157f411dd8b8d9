import Lamplighter.Proofs.Json.RoundTrip

/-!
# The layout of a text

Indentation is made of blanks, and blanks between tokens are dropped, so the text of a value over
several lines has the tokens of the value, as its text on one line has. What is read of tokens does
not depend on the layout, and so this text gives the value back as well: `Value.read?_pretty`. On
one line an object is what its fields are, with commas between them: `Value.compactChars_object`.
-/

namespace Lamplighter.Json

/-! ## Several lines -/

namespace Scan

/-- Blanks between two tokens are dropped. -/
theorem run_blanks {blanks : List Char} (areBlank : ∀ char ∈ blanks, isBlank char = true)
    (rest : List Char) : between.run (blanks ++ rest) = between.run rest := by
  induction blanks with
  | nil => rfl
  | cons first further inductionHypothesis =>
      obtain ⟨isFirst, areFurther⟩ := List.forall_mem_cons.1 areBlank
      have dropped : between.step first = some (between, []) := by
        simp [step, stepBetween, isFirst]
      rw [List.cons_append, run_cons_of_no_token dropped, inductionHypothesis areFurther]

/-- The start of a line is made of blanks. -/
theorem run_newLine (level : Nat) (rest : List Char) :
    between.run (Value.newLine level ++ rest) = between.run rest := by
  refine run_blanks ?_ rest
  intro char member
  rcases List.mem_cons.1 member with rfl | indents
  · rfl
  · rw [List.eq_of_mem_replicate indents]
    rfl

/-- What follows an item in an array is no part of a word. -/
theorem stopsAt_prettyItems (level : Nat) (items : List Value) (rest : List Char) :
    StopsAt isWordChar (Value.prettyItems level items ++ rest) := by
  cases items <;> exact stopsAt_cons rfl _

/-- What follows a field in an object is no part of a word. -/
theorem stopsAt_prettyFields (level : Nat) (fields : List (Text × Value)) (rest : List Char) :
    StopsAt isWordChar (Value.prettyFields level fields ++ rest) := by
  cases fields with
  | nil => exact stopsAt_cons rfl _
  | cons field further => exact stopsAt_cons rfl _

mutual

/-- The text of a value over several lines gives its tokens. -/
theorem run_prettyChars (level : Nat) (value : Value) {rest : List Char}
    (stops : StopsAt isWordChar rest) :
    between.run (value.prettyChars level ++ rest) =
      (between.run rest).map (value.tokens ++ ·) := by
  cases value with
  | scalar leaf => exact run_scalarSpelling leaf stops
  | array items =>
      cases items with
      | nil => exact run_compactChars (.array []) stops
      | cons item further =>
          have first := run_prettyChars (level + 1) item (stopsAt_prettyItems level further rest)
          have others := run_prettyItems level further rest
          simp only [Value.prettyChars, Value.tokens, List.cons_append, List.append_assoc]
          rw [run_mark '[' .openArray rfl, run_newLine, first, others]
          simp [Option.map_map, Function.comp_def]
  | object fields =>
      cases fields with
      | nil => exact run_compactChars (.object []) stops
      | cons field further =>
          obtain ⟨key, value⟩ := field
          have first := run_prettyChars (level + 1) value (stopsAt_prettyFields level further rest)
          have others := run_prettyFields level further rest
          simp only [Value.prettyChars, Value.tokens, List.cons_append, List.append_assoc]
          rw [run_mark '\x7b' .openObject rfl, run_newLine, run_textSpelling,
            run_mark ':' .colon rfl, run_cons_of_no_token rfl, first, others]
          simp [Option.map_map, Function.comp_def]

/-- The further items of an array over several lines give their tokens. -/
theorem run_prettyItems (level : Nat) (items : List Value) (rest : List Char) :
    between.run (Value.prettyItems level items ++ rest) =
      (between.run rest).map (Value.itemTokens items ++ ·) := by
  cases items with
  | nil =>
      rw [Value.prettyItems, List.append_assoc, run_newLine]
      exact run_mark ']' .closeArray rfl rest
  | cons item further =>
      have first := run_prettyChars (level + 1) item (stopsAt_prettyItems level further rest)
      have others := run_prettyItems level further rest
      simp only [Value.prettyItems, Value.itemTokens, List.cons_append, List.append_assoc]
      rw [run_mark ',' .comma rfl, run_newLine, first, others]
      simp [Option.map_map, Function.comp_def]

/-- The further fields of an object over several lines give their tokens. -/
theorem run_prettyFields (level : Nat) (fields : List (Text × Value)) (rest : List Char) :
    between.run (Value.prettyFields level fields ++ rest) =
      (between.run rest).map (Value.fieldTokens fields ++ ·) := by
  cases fields with
  | nil =>
      rw [Value.prettyFields, List.append_assoc, run_newLine]
      exact run_mark '\x7d' .closeObject rfl rest
  | cons field further =>
      obtain ⟨key, value⟩ := field
      have first := run_prettyChars (level + 1) value (stopsAt_prettyFields level further rest)
      have others := run_prettyFields level further rest
      simp only [Value.prettyFields, Value.fieldTokens, List.cons_append, List.append_assoc]
      rw [run_mark ',' .comma rfl, run_newLine, run_textSpelling, run_mark ':' .colon rfl,
        run_cons_of_no_token rfl, first, others]
      simp [Option.map_map, Function.comp_def]

end

end Scan

/-- A value is read back from its text over several lines. -/
theorem Value.read?_pretty (value : Value) : Value.read? value.pretty = some value := by
  have stops : StopsAt Scan.isWordChar [] := nofun
  have scanned := Scan.run_prettyChars 0 value stops
  have tokens : Token.ofText? (value.prettyChars 0) = some value.tokens := by
    simpa [Token.ofText?, Scan.run, Scan.finish] using scanned
  rw [Value.read?, Value.pretty, String.toList_ofList, tokens, Option.bind_some,
    Value.ofTokens?_tokens]

/-! ## Objects on one line -/

namespace Value

/-- A field on one line. -/
def fieldChars (field : Text × Value) : List Char :=
  Text.spelling field.1 ++ ':' :: field.2.compactChars

/-- Further fields on one line, each behind a comma. -/
theorem compactFields_eq (fields : List (Text × Value)) :
    compactFields fields = fields.flatMap (fun field => ',' :: fieldChars field) ++ ['\x7d'] := by
  induction fields with
  | nil => rfl
  | cons field rest inductionHypothesis =>
      rw [compactFields, inductionHypothesis, List.flatMap_cons, fieldChars]
      simp

/-- Fields with commas between them are the first field and the further ones, each behind a
comma. -/
theorem intercalate_fieldChars (field : Text × Value) (rest : List (Text × Value)) :
    [','].intercalate ((field :: rest).map fieldChars) =
      fieldChars field ++ rest.flatMap fun field => ',' :: fieldChars field := by
  induction rest generalizing field with
  | nil => simp
  | cons next rest inductionHypothesis =>
      rw [List.map_cons, List.map_cons, List.intercalate_cons_cons, ← List.map_cons,
        inductionHypothesis next]
      simp

/-- An object on one line: its fields between braces, with commas between them. -/
theorem compactChars_object (fields : List (Text × Value)) :
    (object fields).compactChars =
      '\x7b' :: [','].intercalate (fields.map fieldChars) ++ ['\x7d'] := by
  cases fields with
  | nil => rfl
  | cons field rest =>
      rw [compactChars, compactFields_eq, intercalate_fieldChars, fieldChars]
      simp

end Value

end Lamplighter.Json
