import Lamplighter.Json.Reading
import Lamplighter.Proofs.Json.Scanning

/-!
# Values are read back from their text

The tokens of a value stand between its text and itself: scanning its text gives them, and reading
them gives the value. Together, `Value.read?_compact`: every value is read back from its text on one
line, whatever stands in it. The tokens also tell how deeply a text is nested.
-/

namespace Lamplighter.Json

/-! ## The tokens of a value -/

namespace Value

mutual

/-- The tokens of a value. -/
def tokens : Value → List Token
  | .scalar leaf => [.scalar leaf]
  | .array [] => [.openArray, .closeArray]
  | .array (item :: rest) => .openArray :: (item.tokens ++ itemTokens rest)
  | .object [] => [.openObject, .closeObject]
  | .object ((key, value) :: rest) =>
      .openObject :: .scalar (.text key) :: .colon :: (value.tokens ++ fieldTokens rest)

/-- The tokens of the further items of an array, and of its end. -/
def itemTokens : List Value → List Token
  | [] => [.closeArray]
  | item :: rest => .comma :: (item.tokens ++ itemTokens rest)

/-- The tokens of the further fields of an object, and of its end. -/
def fieldTokens : List (Text × Value) → List Token
  | [] => [.closeObject]
  | (key, value) :: rest =>
      .comma :: .scalar (.text key) :: .colon :: (value.tokens ++ fieldTokens rest)

end

end Value

/-! ## Scanning -/

namespace Scan

/-- A mark between two scalars gives its token. -/
theorem run_mark (mark : Char) (token : Token)
    (isMark : between.step mark = some (between, [token])) (rest : List Char) :
    between.run (mark :: rest) = (between.run rest).map ([token] ++ ·) :=
  run_cons isMark rest

/-- No word goes on behind a mark. -/
theorem stopsAt_cons {mark : Char} (notWord : isWordChar mark = false) (rest : List Char) :
    StopsAt isWordChar (mark :: rest) := by
  rintro char ⟨⟩
  exact notWord

/-- What follows an item in an array is no part of a word. -/
theorem stopsAt_compactItems (items : List Value) (rest : List Char) :
    StopsAt isWordChar (Value.compactItems items ++ rest) := by
  cases items <;> exact stopsAt_cons rfl _

/-- What follows a field in an object is no part of a word. -/
theorem stopsAt_compactFields (fields : List (Text × Value)) (rest : List Char) :
    StopsAt isWordChar (Value.compactFields fields ++ rest) := by
  cases fields with
  | nil => exact stopsAt_cons rfl _
  | cons field further => exact stopsAt_cons rfl _

mutual

/-- The text of a value on one line gives its tokens. -/
theorem run_compactChars (value : Value) {rest : List Char} (stops : StopsAt isWordChar rest) :
    between.run (value.compactChars ++ rest) = (between.run rest).map (value.tokens ++ ·) := by
  cases value with
  | scalar leaf => exact run_scalarSpelling leaf stops
  | array items =>
      cases items with
      | nil =>
          simp only [Value.compactChars, Value.tokens, List.cons_append, List.nil_append]
          rw [run_mark '[' .openArray rfl, run_mark ']' .closeArray rfl]
          simp [Option.map_map, Function.comp_def]
      | cons item further =>
          have first := run_compactChars item (stopsAt_compactItems further rest)
          have others := run_compactItems further rest
          simp only [Value.compactChars, Value.tokens, List.cons_append, List.append_assoc]
          rw [run_mark '[' .openArray rfl, first, others]
          simp [Option.map_map, Function.comp_def]
  | object fields =>
      cases fields with
      | nil =>
          simp only [Value.compactChars, Value.tokens, List.cons_append, List.nil_append]
          rw [run_mark '\x7b' .openObject rfl, run_mark '\x7d' .closeObject rfl]
          simp [Option.map_map, Function.comp_def]
      | cons field further =>
          obtain ⟨key, value⟩ := field
          have first := run_compactChars value (stopsAt_compactFields further rest)
          have others := run_compactFields further rest
          simp only [Value.compactChars, Value.tokens, List.cons_append, List.append_assoc]
          rw [run_mark '\x7b' .openObject rfl, run_textSpelling, run_mark ':' .colon rfl, first,
            others]
          simp [Option.map_map, Function.comp_def]

/-- The further items of an array on one line give their tokens. -/
theorem run_compactItems (items : List Value) (rest : List Char) :
    between.run (Value.compactItems items ++ rest) =
      (between.run rest).map (Value.itemTokens items ++ ·) := by
  cases items with
  | nil => exact run_mark ']' .closeArray rfl rest
  | cons item further =>
      have first := run_compactChars item (stopsAt_compactItems further rest)
      have others := run_compactItems further rest
      simp only [Value.compactItems, Value.itemTokens, List.cons_append, List.append_assoc]
      rw [run_mark ',' .comma rfl, first, others]
      simp [Option.map_map, Function.comp_def]

/-- The further fields of an object on one line give their tokens. -/
theorem run_compactFields (fields : List (Text × Value)) (rest : List Char) :
    between.run (Value.compactFields fields ++ rest) =
      (between.run rest).map (Value.fieldTokens fields ++ ·) := by
  cases fields with
  | nil => exact run_mark '\x7d' .closeObject rfl rest
  | cons field further =>
      obtain ⟨key, value⟩ := field
      have first := run_compactChars value (stopsAt_compactFields further rest)
      have others := run_compactFields further rest
      simp only [Value.compactFields, Value.fieldTokens, List.cons_append, List.append_assoc]
      rw [run_mark ',' .comma rfl, run_textSpelling, run_mark ':' .colon rfl, first, others]
      simp [Option.map_map, Function.comp_def]

end

end Scan

/-- Scanning the text of a value on one line gives its tokens. -/
theorem Token.ofText?_compactChars (value : Value) :
    Token.ofText? value.compactChars = some value.tokens := by
  have stops : StopsAt Scan.isWordChar [] := nofun
  have scanned := Scan.run_compactChars value stops
  simpa [Token.ofText?, Scan.run, Scan.finish] using scanned

/-! ## Reading -/

namespace Reader

/-- A reader that stands where a value must come reads its first token so. Where an array has just
been opened its end could come as well, but a value does not begin with that. -/
def Awaits (reader : Reader) (opened : List Container) : Prop :=
  ∀ token, token ≠ .closeArray → reader.step token = begin? opened token

theorem awaits_value (opened : List Container) : (value opened).Awaits opened :=
  fun _ _ => rfl

theorem awaits_itemOrEnd (opened : List Container) :
    (itemOrEnd opened).Awaits (.array [] :: opened) := by
  intro token notEnd
  cases token with
  | closeArray => exact absurd rfl notEnd
  | _ => rfl

/-- A reader reads a token if it can, and then the rest. -/
theorem run_cons {reader next : Reader} {token : Token} (step : reader.step token = some next)
    (rest : List Token) : reader.run (token :: rest) = next.run rest := by
  cases reader with
  | complete opened value => cases opened <;> simp [run, step]
  | _ => simp [run, step]

mutual

/-- Where a value must come, its tokens are read as this value. -/
theorem run_tokens (value : Value) {reader : Reader} {opened : List Container}
    (awaits : reader.Awaits opened) (rest : List Token) :
    reader.run (value.tokens ++ rest) = (complete opened value).run rest := by
  cases value with
  | scalar leaf => exact run_cons (awaits (.scalar leaf) nofun) rest
  | array items =>
      cases items with
      | nil =>
          simp only [Value.tokens, List.cons_append, List.nil_append]
          rw [run_cons (awaits .openArray nofun), run_cons rfl]
      | cons item further =>
          simp only [Value.tokens, List.cons_append, List.append_assoc]
          rw [run_cons (awaits .openArray nofun), run_tokens item (awaits_itemOrEnd opened),
            run_itemTokens, List.reverse_singleton, List.singleton_append]
  | object fields =>
      cases fields with
      | nil =>
          simp only [Value.tokens, List.cons_append, List.nil_append]
          rw [run_cons (awaits .openObject nofun), run_cons rfl]
      | cons field further =>
          obtain ⟨key, value⟩ := field
          simp only [Value.tokens, List.cons_append, List.append_assoc]
          rw [run_cons (awaits .openObject nofun), run_cons rfl, run_cons rfl,
            run_tokens value (awaits_value _), run_fieldTokens, List.reverse_singleton,
            List.singleton_append]

/-- Behind an item, the tokens of the further ones complete the array. -/
theorem run_itemTokens (items : List Value) (opened : List Container) (newestFirst : List Value)
    (item : Value) (rest : List Token) :
    (complete (.array newestFirst :: opened) item).run (Value.itemTokens items ++ rest) =
      (complete opened (.array ((item :: newestFirst).reverse ++ items))).run rest := by
  cases items with
  | nil =>
      rw [List.append_nil]
      exact run_cons rfl rest
  | cons next further =>
      simp only [Value.itemTokens, List.cons_append, List.append_assoc]
      rw [run_cons rfl, run_tokens next (awaits_value _), run_itemTokens, List.reverse_cons,
        List.append_assoc, List.singleton_append]

/-- Behind a field, the tokens of the further ones complete the object. -/
theorem run_fieldTokens (fields : List (Text × Value)) (opened : List Container)
    (newestFirst : List (Text × Value)) (key : Text) (value : Value) (rest : List Token) :
    (complete (.object newestFirst key :: opened) value).run (Value.fieldTokens fields ++ rest) =
      (complete opened (.object (((key, value) :: newestFirst).reverse ++ fields))).run rest := by
  cases fields with
  | nil =>
      rw [List.append_nil]
      exact run_cons rfl rest
  | cons field further =>
      obtain ⟨nextKey, nextValue⟩ := field
      simp only [Value.fieldTokens, List.cons_append, List.append_assoc]
      rw [run_cons rfl, run_cons rfl, run_cons rfl, run_tokens nextValue (awaits_value _),
        run_fieldTokens, List.reverse_cons, List.append_assoc, List.singleton_append]

end

end Reader

/-- Reading the tokens of a value gives the value. -/
theorem Value.ofTokens?_tokens (value : Value) : Value.ofTokens? value.tokens = some value := by
  have read := Reader.run_tokens value (Reader.awaits_value []) []
  simpa [Value.ofTokens?, Reader.run] using read

/-- A value is read back from its text on one line. -/
theorem Value.read?_compact (value : Value) : Value.read? value.compact = some value := by
  rw [Value.read?, Value.compact, String.toList_ofList, Token.ofText?_compactChars,
    Option.bind_some, Value.ofTokens?_tokens]

/-! ## Nesting -/

namespace Token

/-- The greatest number of containers that are open at once while some tokens are read, if so many
are open before them. -/
def nestingFrom (opened : Nat) : List Token → Nat
  | [] => opened
  | .openArray :: rest => nestingFrom (opened + 1) rest
  | .openObject :: rest => nestingFrom (opened + 1) rest
  | .closeArray :: rest => max opened (nestingFrom (opened - 1) rest)
  | .closeObject :: rest => max opened (nestingFrom (opened - 1) rest)
  | _ :: rest => nestingFrom opened rest

/-- The greatest number of arrays and objects that a text has open at once. -/
def nesting (tokens : List Token) : Nat := nestingFrom 0 tokens

/-- What is open before some tokens counts. -/
theorem le_nestingFrom (opened : Nat) (tokens : List Token) :
    opened ≤ nestingFrom opened tokens := by
  induction tokens generalizing opened with
  | nil => exact Nat.le_refl _
  | cons token rest inductionHypothesis =>
      have same := inductionHypothesis opened
      have deeper := inductionHypothesis (opened + 1)
      cases token <;> simp only [nestingFrom] <;> omega

mutual

/-- The tokens of a value open as many containers at once as the value is nested. -/
theorem nestingFrom_tokens (value : Value) (opened : Nat) (rest : List Token) :
    nestingFrom opened (value.tokens ++ rest) =
      max (opened + value.nesting) (nestingFrom opened rest) := by
  have before := le_nestingFrom opened rest
  cases value with
  | scalar leaf =>
      simp only [Value.tokens, List.cons_append, List.nil_append, nestingFrom, Value.nesting]
      omega
  | array items =>
      cases items with
      | nil =>
          simp [Value.tokens, nestingFrom, Value.nesting, Value.nestingOf]
      | cons item further =>
          simp only [Value.tokens, List.cons_append, List.append_assoc, nestingFrom]
          rw [nestingFrom_tokens item, nestingFrom_itemTokens further, Value.nesting,
            Value.nestingOf]
          omega
  | object fields =>
      cases fields with
      | nil =>
          simp [Value.tokens, nestingFrom, Value.nesting, Value.nestingOfFields]
      | cons field further =>
          obtain ⟨key, value⟩ := field
          simp only [Value.tokens, List.cons_append, List.append_assoc, nestingFrom]
          rw [nestingFrom_tokens value, nestingFrom_fieldTokens further, Value.nesting,
            Value.nestingOfFields]
          omega

/-- The further items of an array leave as many containers open as there were before it. -/
theorem nestingFrom_itemTokens (items : List Value) (opened : Nat) (rest : List Token) :
    nestingFrom (opened + 1) (Value.itemTokens items ++ rest) =
      max (opened + 1 + Value.nestingOf items) (nestingFrom opened rest) := by
  cases items with
  | nil => rfl
  | cons item further =>
      simp only [Value.itemTokens, List.cons_append, List.append_assoc, nestingFrom]
      rw [nestingFrom_tokens item, nestingFrom_itemTokens further, Value.nestingOf]
      omega

/-- The further fields of an object do so too. -/
theorem nestingFrom_fieldTokens (fields : List (Text × Value)) (opened : Nat)
    (rest : List Token) :
    nestingFrom (opened + 1) (Value.fieldTokens fields ++ rest) =
      max (opened + 1 + Value.nestingOfFields fields) (nestingFrom opened rest) := by
  cases fields with
  | nil => rfl
  | cons field further =>
      obtain ⟨key, value⟩ := field
      simp only [Value.fieldTokens, List.cons_append, List.append_assoc, nestingFrom]
      rw [nestingFrom_tokens value, nestingFrom_fieldTokens further, Value.nestingOfFields]
      omega

end

/-- A text is nested as deeply as its value. -/
theorem nesting_tokens (value : Value) : nesting value.tokens = value.nesting := by
  simpa [nesting, nestingFrom] using nestingFrom_tokens value 0 []

end Token

end Lamplighter.Json
