import Lamplighter.Json.Codec
import Lamplighter.Json.Fault
import Lamplighter.Program

/-!
# Programs as JSON

An instruction is an object whose `op` names the action, or is `repeat` beside a `count` and a
`body`. The body may be missing. An array with the operation first and then the count and the body
is read as well, but not written.

An instruction is decoded in two steps: first its operation is looked for, and what belongs to the
operation is decoded then. The whole text of an instruction is kept in between, so everything in it
has to be sound and nested at most 127 levels deep, counted from the start of the text, also under
keys that mean nothing. Inside a body an operation may also be given by its number. What is wrong
with a value that is no instruction is told as a `Json.Refusal`.
-/

namespace Lamplighter

open Json

instance : Codec Action := namesCodec Action.all Action.name

namespace Instruction

mutual

/-- The JSON value of an instruction. -/
def toJson : Instruction → Value
  | .act action => .record [("op", .string action.word)]
  | .loop count body =>
      .record [
        ("op", .string "repeat"),
        ("count", .nat count.times.toNat),
        ("body", .array (listToJson body))]

/-- The JSON values of a list of instructions. -/
def listToJson : List Instruction → List Value
  | [] => []
  | first :: rest => first.toJson :: listToJson rest

end

/-! ## Operations -/

/-- What an instruction does, apart from its count and body. -/
inductive Operation where
  | act (action : Action)
  | loop
deriving DecidableEq

namespace Operation

/-- Every operation, in the order of their numbers. -/
def all : List Operation := Action.all.map .act ++ [.loop]

/-- The word of an operation. -/
def word : Operation → String
  | .act action => action.word
  | .loop => "repeat"

/-- The operation of a word. -/
def ofWord (spelt : String) : Except Refusal Operation :=
  match all.find? fun operation => operation.word = spelt with
  | some operation => .ok operation
  | none => .error (.unknownWord spelt (all.map word))

/-- The operation of a number. -/
def ofNumber (number : Nat) : Except Refusal Operation :=
  match all[number]? with
  | some operation => .ok operation
  | none => .error (.wrongNumber number s!"variant index 0 <= i < {all.length}")

/-- The operation that a value spells: a word or, inside a body, a number. -/
def ofSpelling (insideBody : Bool) (value : Value) : Except Refusal Operation :=
  match value.string?, value.natBelow? UInt64.size with
  | some spelt, _ => ofWord spelt
  | none, some number =>
      if insideBody then ofNumber number else .error (.wrongType value.shape "variant identifier")
  | none, none => .error (.wrongType value.shape "variant identifier")

/-- The operation of an object, of which the fields in front may have given it already. -/
def ofFields (insideBody : Bool) (found : Option Operation) :
    List (Text × Value) → Except Refusal Operation
  | [] =>
      match found with
      | some operation => .ok operation
      | none => .error (.missingField "op")
  | (key, value) :: rest =>
      if key = some "op" then
        if found.isSome then .error (.repeatedField "op")
        else do ofFields insideBody (some (← ofSpelling insideBody value)) rest
      else
        ofFields insideBody found rest

/-- The operation of the instruction that a value spells. -/
def ofInstruction (insideBody : Bool) : Value → Except Refusal Operation
  | .scalar leaf => .error (.wrongType (.scalar leaf) "internally tagged enum Instruction")
  | .array [] => .error (.missingField "op")
  | .array (first :: _) => ofSpelling insideBody first
  | .object fields => ofFields insideBody none fields

end Operation

/-! ## Instructions -/

/-- The count that a value spells. -/
def countOfValue (value : Value) : Except Refusal LoopCount :=
  match (value.natBelow? UInt32.size).bind LoopCount.ofNat?, value.word? with
  | some count, _ => .ok count
  | none, some number => .error (.wrongNumber number "a nonzero u32")
  | none, none => .error (.wrongType value.shape "a nonzero u32")

mutual

/-- The instruction with an operation that a value spells. -/
def ofOperation : Operation → Value → Except Refusal Instruction
  | .act _, .array (_ :: _ :: rest) =>
      .error (.wrongLength (rest.length + 1) "0 elements in sequence")
  | .act action, _ => .ok (.act action)
  | .loop, .array (_ :: arguments) => loopOfArguments arguments
  | .loop, .object fields => loopOfFields none none fields
  | .loop, _ => .error (.missingField "count")

/-- The loop of a count and, perhaps, a body. -/
def loopOfArguments : List Value → Except Refusal Instruction
  | [] => .error (.wrongLength 0 "struct variant Instruction::Repeat with 2 elements")
  | [count] => do return .loop (← countOfValue count) []
  | count :: body :: rest => do
      let times ← countOfValue count
      let instructions ← bodyOfValue body
      if rest.isEmpty then return .loop times instructions
      else throw (.wrongLength (rest.length + 2) "2 elements in sequence")

/-- The loop of the fields of an object, of which those in front may have given its count or body
already. Without a body it is empty. -/
def loopOfFields (count : Option LoopCount) (body : Option (List Instruction)) :
    List (Text × Value) → Except Refusal Instruction
  | [] =>
      match count with
      | some times => .ok (.loop times (body.getD []))
      | none => .error (.missingField "count")
  | (key, value) :: rest =>
      if key = some "count" then
        if count.isSome then .error (.repeatedField "count")
        else do loopOfFields (some (← countOfValue value)) body rest
      else if key = some "body" then
        if body.isSome then .error (.repeatedField "body")
        else do loopOfFields count (some (← bodyOfValue value)) rest
      else
        loopOfFields count body rest

/-- The instructions of a body. -/
def bodyOfValue : Value → Except Refusal (List Instruction)
  | .array items => listOfValues items
  | .scalar leaf => .error (.wrongType (.scalar leaf) "a sequence")
  | .object _ => .error (.wrongType .object "a sequence")

/-- The instructions that a list of values inside a body spells. -/
def listOfValues : List Value → Except Refusal (List Instruction)
  | [] => .ok []
  | first :: rest => do
      let operation ← Operation.ofInstruction true first
      let instruction ← ofOperation operation first
      return instruction :: (← listOfValues rest)

end

/-- The instruction that a value outside of any body spells. -/
def ofValue (value : Value) : Except Refusal Instruction := do
  ofOperation (← Operation.ofInstruction false value) value

/-- The instruction of a value that stands below the given number of opened containers. -/
def ofJson? (opened : Nat) (value : Value) : Option Instruction :=
  if value.isSound ∧ opened + value.nesting ≤ nestingLimit then (ofValue value).toOption else none

instance : Codec Instruction where
  encode := toJson
  decode? := ofJson? 0

end Instruction

namespace Program

instance : Codec Program where
  encode program := .array (Instruction.listToJson program.instructions)
  decode? value :=
    (value.items?.bind fun items => items.mapM (Instruction.ofJson? 1)).map Program.mk

end Program

end Lamplighter
