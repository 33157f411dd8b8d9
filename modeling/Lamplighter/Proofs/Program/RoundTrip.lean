import Lamplighter.Program.Codec
import Lamplighter.Proofs.Json.Codec
import Lamplighter.Proofs.Json.RoundTrip

/-!
# Programs are read back from their text

`Program.read?_write`: a program is read back from its text where that is nested within the limit,
and refused elsewhere. A text that has been read may be nested less deeply than the one that is then
written, because the body of a loop may be left out and is always written. An instruction and its
body take one level each, though, and the limit is odd, so what has been read never comes to lie
beyond it.
-/

namespace Lamplighter

open Json

/-! ## Numbers -/

namespace Json.Value

/-- A natural number that fits into a word can be kept. -/
theorem isSound_nat {value : Nat} (fits : value < UInt64.size) :
    (Value.nat value).isSound = true := by
  simp [Value.nat, Value.isSound, isSoundScalar, Numeral.isTooLarge_ofNat fits]

theorem isSound_string (text : String) : (Value.string text).isSound = true := rfl

end Json.Value

/-- A loop count is read back from its number. -/
theorem LoopCount.ofNat?_toNat (count : LoopCount) :
    LoopCount.ofNat? count.times.toNat = some count := by
  obtain ⟨times, positive⟩ := count
  have inRange : 0 < times.toNat ∧ times.toNat < UInt32.size := by
    refine ⟨Nat.pos_of_ne_zero ?_, times.toNat_lt⟩
    intro zero
    exact positive (UInt32.toNat_inj.1 zero)
  simp [LoopCount.ofNat?, inRange]

namespace Instruction

/-! ## Reading back what was written -/

/-- The operation of an instruction. -/
def operation : Instruction → Operation
  | .act action => .act action
  | .loop _ _ => .loop

/-- The operation of an instruction is found in the JSON value of it. -/
theorem ofInstruction_toJson (insideBody : Bool) (instruction : Instruction) :
    Operation.ofInstruction insideBody instruction.toJson = .ok instruction.operation := by
  cases instruction with
  | act action =>
      have word : Operation.ofSpelling insideBody (.string action.word) = .ok (.act action) := by
        cases action <;> rfl
      simp [toJson, Value.record, Operation.ofInstruction, Operation.ofFields, word, bind,
        Except.bind, operation]
  | loop count body =>
      have word : Operation.ofSpelling insideBody (.string "repeat") = .ok .loop := rfl
      simp [toJson, Value.record, Operation.ofInstruction, Operation.ofFields, word, bind,
        Except.bind, operation]

/-- The count of a loop is read back. -/
theorem countOfValue_nat (count : LoopCount) :
    countOfValue (.nat count.times.toNat) = .ok count := by
  simp [countOfValue, Value.natBelow?_nat count.times.toNat_lt, LoopCount.ofNat?_toNat]

mutual

/-- An instruction is read back from its JSON value. -/
theorem ofOperation_toJson (instruction : Instruction) :
    ofOperation instruction.operation instruction.toJson = .ok instruction := by
  cases instruction with
  | act action => simp [toJson, operation, ofOperation, Value.record]
  | loop count body =>
      have readsBody := listOfValues_listToJson body
      simp [toJson, operation, ofOperation, Value.record, loopOfFields, countOfValue_nat,
        bodyOfValue, readsBody, bind, Except.bind]

/-- Some instructions are read back from their JSON values. -/
theorem listOfValues_listToJson (body : List Instruction) :
    listOfValues (listToJson body) = .ok body := by
  cases body with
  | nil => simp [listToJson, listOfValues]
  | cons first rest =>
      have readsFirst := ofOperation_toJson first
      have readsRest := listOfValues_listToJson rest
      simp [listToJson, listOfValues, ofInstruction_toJson, readsFirst, readsRest, bind,
        Except.bind, pure, Except.pure]

end

mutual

/-- What is written of an instruction can be kept. -/
theorem isSound_toJson (instruction : Instruction) : instruction.toJson.isSound = true := by
  cases instruction with
  | act action => rfl
  | loop count body =>
      have countSound : (Value.nat count.times.toNat).isSound = true :=
        Value.isSound_nat (Nat.lt_trans count.times.toNat_lt (by decide))
      have bodySound := areSound_listToJson body
      simp [toJson, Value.record, Value.isSound, Value.areSoundFields, Value.isSound_string,
        countSound, bodySound]

/-- What is written of some instructions can be kept. -/
theorem areSound_listToJson (body : List Instruction) :
    Value.areSound (listToJson body) = true := by
  cases body with
  | nil => rfl
  | cons first rest =>
      rw [listToJson, Value.areSound, isSound_toJson first, areSound_listToJson rest]
      rfl

end

/-- An instruction is read back where its value is nested within the limit, and refused
elsewhere. -/
theorem ofJson?_toJson (opened : Nat) (instruction : Instruction) :
    ofJson? opened instruction.toJson =
      if opened + instruction.toJson.nesting ≤ nestingLimit then some instruction else none := by
  have read : ofValue instruction.toJson = .ok instruction := by
    simp [ofValue, ofInstruction_toJson, ofOperation_toJson, bind, Except.bind]
  simp only [ofJson?, isSound_toJson, read, Except.toOption, true_and]

/-- Some instructions are read back where all of their values are nested within the limit, and
refused elsewhere. -/
theorem mapM_ofJson?_listToJson (opened : Nat) (within : opened ≤ nestingLimit)
    (body : List Instruction) :
    (listToJson body).mapM (ofJson? opened) =
      if opened + Value.nestingOf (listToJson body) ≤ nestingLimit then some body else none := by
  induction body with
  | nil => simp [listToJson, Value.nestingOf, within]
  | cons first rest inductionHypothesis =>
      rw [listToJson, List.mapM_cons, ofJson?_toJson, inductionHypothesis, Value.nestingOf]
      have split :
          opened + max first.toJson.nesting (Value.nestingOf (listToJson rest)) ≤ nestingLimit ↔
            opened + first.toJson.nesting ≤ nestingLimit ∧
              opened + Value.nestingOf (listToJson rest) ≤ nestingLimit := by
        omega
      by_cases firstWithin : opened + first.toJson.nesting ≤ nestingLimit
      · by_cases restWithin : opened + Value.nestingOf (listToJson rest) ≤ nestingLimit
        · simp [split, firstWithin, restWithin]
        · simp [split, firstWithin, restWithin]
      · simp [split, firstWithin]

/-! ## Nesting -/

/-- The value of an action is an object without containers. -/
theorem nesting_act (action : Action) : (toJson (.act action)).nesting = 1 := rfl

/-- The value of a loop is an object around the list of its body. -/
theorem nesting_loop (count : LoopCount) (body : List Instruction) :
    (toJson (.loop count body)).nesting = 2 + Value.nestingOf (listToJson body) := by
  simp [toJson, Value.record, Value.nesting, Value.nestingOfFields, Value.string, Value.nat]
  omega

mutual

/-- Each loop takes two levels, and an action one. -/
theorem nesting_toJson_le (instruction : Instruction) :
    instruction.toJson.nesting ≤ 2 * instruction.depth + 1 := by
  cases instruction with
  | act action => exact Nat.le_refl 1
  | loop count body =>
      have inner := nestingOf_listToJson_le body
      rw [nesting_loop, depth]
      omega

/-- So do the loops in a list of instructions. -/
theorem nestingOf_listToJson_le (body : List Instruction) :
    Value.nestingOf (listToJson body) ≤ 2 * depthOf body + 1 := by
  cases body with
  | nil => exact Nat.zero_le _
  | cons first rest =>
      have head := nesting_toJson_le first
      have tail := nestingOf_listToJson_le rest
      rw [listToJson, Value.nestingOf, depthOf]
      omega

end

/-! ## Nesting of what is written again -/

/-- The parts of a computation that succeeds. -/
theorem of_bind_eq_ok {ε α β : Type} {first : Except ε α} {next : α → Except ε β} {result : β}
    (succeeds : (first >>= next) = .ok result) :
    ∃ value, first = .ok value ∧ next value = .ok result := by
  cases first with
  | error failure => simp [bind, Except.bind] at succeeds
  | ok value => exact ⟨value, rfl, succeeds⟩

/-- An instruction and its body take a level each. This is a number of levels where the last body
is counted, even if it has been left out. -/
def paired (levels : Nat) : Nat := 2 * ((levels + 1) / 2)

/-- Only an array or an object spells an instruction. -/
theorem nesting_pos_of_ofInstruction {insideBody : Bool} {value : Value} {operation : Operation}
    (spells : Operation.ofInstruction insideBody value = .ok operation) : 1 ≤ value.nesting := by
  cases value with
  | scalar leaf => simp [Operation.ofInstruction] at spells
  | array items =>
      rw [Value.nesting]
      omega
  | object fields =>
      rw [Value.nesting]
      omega

/-- An action has no parts, and what it was read from has none but its operation. -/
theorem eq_act_of_ofOperation {action : Action} {value : Value} {instruction : Instruction}
    (read : ofOperation (.act action) value = .ok instruction) : instruction = .act action := by
  cases value with
  | scalar leaf => simpa [ofOperation, eq_comm] using read
  | object fields => simpa [ofOperation, eq_comm] using read
  | array items =>
      match items with
      | [] => simpa [ofOperation, eq_comm] using read
      | [_] => simpa [ofOperation, eq_comm] using read
      | _ :: _ :: _ => simp [ofOperation] at read

mutual

/-- What is written of an instruction is nested as deeply as what it was read from, where the last
body is counted. -/
theorem nesting_of_ofOperation (value : Value) {operation : Operation} {instruction : Instruction}
    (container : 1 ≤ value.nesting) (read : ofOperation operation value = .ok instruction) :
    instruction.toJson.nesting ≤ paired value.nesting := by
  cases operation with
  | act action =>
      rw [eq_act_of_ofOperation read, nesting_act, paired]
      omega
  | loop =>
      cases value with
      | scalar leaf => simp [Value.nesting] at container
      | array items =>
          cases items with
          | nil => simp [ofOperation] at read
          | cons first arguments =>
              rw [ofOperation] at read
              have bound := nesting_of_loopOfArguments arguments read
              simp only [Value.nesting, Value.nestingOf, paired] at bound ⊢
              omega
      | object fields =>
          rw [ofOperation] at read
          rw [Value.nesting]
          -- Nothing has been found yet, and a body that never comes is an empty one.
          refine nesting_of_loopOfFields fields ?_ (Nat.le_refl _) read
          simp only [Option.getD_none, listToJson, Value.nestingOf, paired]
          omega

/-- A loop in the array form: its operation lies on the level of the array, too. -/
theorem nesting_of_loopOfArguments (arguments : List Value) {instruction : Instruction}
    (read : loopOfArguments arguments = .ok instruction) :
    instruction.toJson.nesting ≤ paired (1 + Value.nestingOf arguments) := by
  cases arguments with
  | nil => simp [loopOfArguments] at read
  | cons count further =>
      cases further with
      | nil =>
          obtain ⟨times, _, read⟩ := of_bind_eq_ok (by simpa only [loopOfArguments] using read)
          obtain rfl := Except.ok.inj read
          rw [nesting_loop, listToJson, Value.nestingOf, paired]
          omega
      | cons body rest =>
          simp only [loopOfArguments] at read
          obtain ⟨times, _, read⟩ := of_bind_eq_ok read
          obtain ⟨instructions, readBody, read⟩ := of_bind_eq_ok read
          have bound := nesting_of_bodyOfValue body readBody
          split at read
          next =>
            obtain rfl := Except.ok.inj read
            rw [nesting_loop, Value.nestingOf, Value.nestingOf]
            unfold paired at *
            omega
          next => simp [throw, throwThe, MonadExceptOf.throw] at read

/-- A loop in the object form: what has been found of it so far and what is still to be read keep
within a bound, so the loop does. -/
theorem nesting_of_loopOfFields (fields : List (Text × Value)) {bound : Nat}
    {count : Option LoopCount} {body : Option (List Instruction)} {instruction : Instruction}
    (within : 2 + Value.nestingOf (listToJson (body.getD [])) ≤ bound)
    (further : paired (1 + Value.nestingOfFields fields) ≤ bound)
    (read : loopOfFields count body fields = .ok instruction) :
    instruction.toJson.nesting ≤ bound := by
  cases fields with
  | nil =>
      simp only [loopOfFields] at read
      split at read
      next times =>
        obtain rfl := Except.ok.inj read
        rw [nesting_loop]
        exact within
      next => simp at read
  | cons field rest =>
      obtain ⟨key, value⟩ := field
      have restFurther : paired (1 + Value.nestingOfFields rest) ≤ bound := by
        simp only [Value.nestingOfFields, paired] at further ⊢
        omega
      simp only [loopOfFields] at read
      split at read
      next =>
        split at read
        next => simp at read
        next =>
          obtain ⟨times, _, read⟩ := of_bind_eq_ok read
          exact nesting_of_loopOfFields rest within restFurther read
      next =>
        split at read
        next =>
          split at read
          next => simp at read
          next =>
            obtain ⟨instructions, readBody, read⟩ := of_bind_eq_ok read
            have bodyBound := nesting_of_bodyOfValue value readBody
            refine nesting_of_loopOfFields rest ?_ restFurther read
            simp only [Option.getD_some, Value.nestingOfFields, paired] at further bodyBound ⊢
            omega
        next => exact nesting_of_loopOfFields rest within restFurther read

/-- The body of a loop takes one level less than the loop. -/
theorem nesting_of_bodyOfValue (value : Value) {instructions : List Instruction}
    (read : bodyOfValue value = .ok instructions) :
    2 + Value.nestingOf (listToJson instructions) ≤ paired (1 + value.nesting) := by
  cases value with
  | scalar leaf => simp [bodyOfValue] at read
  | object fields => simp [bodyOfValue] at read
  | array items =>
      have bound := nesting_of_listOfValues items (by simpa [bodyOfValue] using read)
      simp only [Value.nesting, paired] at bound ⊢
      omega

/-- What is written of the instructions of a body is nested as deeply as what they were read from,
where the last body is counted. -/
theorem nesting_of_listOfValues (items : List Value) {instructions : List Instruction}
    (read : listOfValues items = .ok instructions) :
    Value.nestingOf (listToJson instructions) ≤ paired (Value.nestingOf items) := by
  cases items with
  | nil =>
      simp only [listOfValues] at read
      obtain rfl := Except.ok.inj read
      exact Nat.zero_le _
  | cons first rest =>
      simp only [listOfValues] at read
      obtain ⟨operation, spells, read⟩ := of_bind_eq_ok read
      obtain ⟨instruction, readFirst, read⟩ := of_bind_eq_ok read
      obtain ⟨others, readRest, read⟩ := of_bind_eq_ok read
      obtain rfl := Except.ok.inj read
      have head := nesting_of_ofOperation first (nesting_pos_of_ofInstruction spells) readFirst
      have tail := nesting_of_listOfValues rest readRest
      simp only [listToJson, Value.nestingOf, paired] at head tail ⊢
      omega

end

/-- An instruction is read from a value that is nested within the limit. -/
theorem of_ofJson?_eq_some {opened : Nat} {value : Value} {instruction : Instruction}
    (read : ofJson? opened value = some instruction) :
    opened + value.nesting ≤ nestingLimit ∧ ofValue value = .ok instruction := by
  unfold ofJson? at read
  split at read
  next kept =>
    refine ⟨kept.2, ?_⟩
    cases result : ofValue value with
    | error refusal => simp [result, Except.toOption] at read
    | ok other =>
        rw [result] at read
        obtain rfl := Option.some.inj read
        rfl
  next => simp at read

/-- What is written of some instructions that have been read is nested within the limit. -/
theorem nestingOf_of_mapM_ofJson? {items : List Value} {instructions : List Instruction}
    (read : items.mapM (ofJson? 1) = some instructions) :
    1 + Value.nestingOf (listToJson instructions) ≤ nestingLimit := by
  induction items generalizing instructions with
  | nil =>
      obtain rfl : [] = instructions := by simpa using read
      decide
  | cons first rest inductionHypothesis =>
      obtain ⟨instruction, readFirst, others, readRest, rfl⟩ :
          ∃ instruction, ofJson? 1 first = some instruction ∧
            ∃ others, rest.mapM (ofJson? 1) = some others ∧
              instruction :: others = instructions := by
        simpa [Option.bind_eq_some_iff] using read
      obtain ⟨within, value⟩ := of_ofJson?_eq_some readFirst
      obtain ⟨operation, spells, value⟩ := of_bind_eq_ok value
      have head := nesting_of_ofOperation first (nesting_pos_of_ofInstruction spells) value
      have tail := inductionHypothesis readRest
      -- The limit is odd, so a level that is left out below it still fits in.
      simp only [listToJson, Value.nestingOf, paired, nestingLimit] at within head tail ⊢
      omega

end Instruction

namespace Program

/-- The value of a program is an array around the list of its instructions. -/
theorem nesting_encode (program : Program) :
    (Codec.encode program).nesting =
      1 + Value.nestingOf (Instruction.listToJson program.instructions) :=
  rfl

/-- A program is read back from its value where that is nested within the limit, and refused
elsewhere. -/
theorem decode?_encode (program : Program) :
    Codec.decode? (Codec.encode program) =
      if (Codec.encode program).nesting ≤ nestingLimit then some program else none := by
  have read := Instruction.mapM_ofJson?_listToJson 1 (by decide) program.instructions
  rw [nesting_encode]
  simp only [Codec.decode?, Codec.encode, Value.items?, Option.bind_some, read]
  split <;> rfl

/-- What is written of a program that has been read is nested within the limit. -/
theorem nesting_encode_of_decode? {value : Value} {program : Program}
    (read : Codec.decode? value = some program) :
    (Codec.encode program).nesting ≤ nestingLimit := by
  obtain ⟨instructions, readItems, rfl⟩ := Option.map_eq_some_iff.1 read
  obtain ⟨items, _, readItems⟩ := Option.bind_eq_some_iff.1 readItems
  exact Instruction.nestingOf_of_mapM_ofJson? readItems

/-- The text of a program is read back as this program where it is nested within the limit, and
refused elsewhere. It is nested within the limit where loops are nested at most 62 times, and also
where the program has been read from a text, however that was written. -/
theorem read?_write (program : Program) :
    ∃ tokens, Token.ofText? (write program).toList = some tokens ∧
      read? (write program) =
        (if Token.nesting tokens ≤ nestingLimit then some program else none) ∧
      (program.depth ≤ 62 → Token.nesting tokens ≤ nestingLimit) ∧
      ∀ text, read? text = some program →
        Token.nesting tokens ≤ nestingLimit ∧ read? (write program) = some program := by
  have read : read? (write program) =
      if (Codec.encode program).nesting ≤ nestingLimit then some program else none := by
    rw [read?, write, Value.read?_compact, Option.bind_some, decode?_encode]
  refine ⟨(Codec.encode program).tokens, ?_, ?_, ?_, ?_⟩
  · rw [write, Value.compact, String.toList_ofList, Token.ofText?_compactChars]
  · rw [read, Token.nesting_tokens]
  · intro shallow
    have loops := Instruction.nestingOf_listToJson_le program.instructions
    rw [Token.nesting_tokens, nesting_encode, nestingLimit]
    unfold depth at shallow
    omega
  · intro text readText
    obtain ⟨value, _, decoded⟩ := Option.bind_eq_some_iff.1 readText
    have within := nesting_encode_of_decode? decoded
    rw [Token.nesting_tokens, read, if_pos within]
    exact ⟨within, rfl⟩

/-- Loops inside one another, the innermost with an empty body. -/
def shaft : Nat → List Instruction
  | 0 => []
  | loops + 1 => [.loop ⟨1, by decide⟩ (shaft loops)]

/-- The characters of a text that spells 63 loops inside one another, not in the form in which they
are written: the innermost one stands at the level 126 and has no body. -/
def shaftChars : List Char :=
  (List.replicate 62 "[\x7b\"note\":\"\",\"body\":".toList).flatten ++ "[[\"repeat\",1]]".toList ++
    (List.replicate 62 ",\"count\":1,\"op\":\"repeat\"\x7d]".toList).flatten

theorem read?_write_shaft :
    read? (String.ofList shaftChars) = some (⟨shaft 63⟩ : Program) ∧
      read? (write (⟨shaft 63⟩ : Program)) = some (⟨shaft 63⟩ : Program) := by
  have read : read? (String.ofList shaftChars) = some (⟨shaft 63⟩ : Program) := by
    rw [read?, Value.read?, String.toList_ofList]
    decide +kernel
  obtain ⟨_, _, _, _, again⟩ := read?_write ⟨shaft 63⟩
  exact ⟨read, (again _ read).2⟩

end Program

end Lamplighter
