import Lamplighter.Json.Diagnosis
import Lamplighter.Program.Codec

/-!
# What is wrong with the text of a program

The list of a program is read item by item. Of an item the operation is looked at as soon as it has
been read, and everything else once the item is complete, so that is told only after the reader has
moved on to the next item or to the end of the list.
-/

namespace Lamplighter.Program

open Json

/-- Object to a value that spells no operation. -/
def objectionToOperation? (value : Value) : Option Objection :=
  match Instruction.Operation.ofSpelling false value with
  | .ok _ => none
  | .error refusal => some ⟨refusal, .behind⟩

/-- Object to a value that spells no instruction. -/
def objectionToInstruction? (value : Value) : Option Objection :=
  match Instruction.Operation.ofInstruction false value with
  | .error refusal => some ⟨refusal, .behind⟩
  | .ok operation =>
      match Instruction.ofOperation operation value with
      | .error refusal => some ⟨refusal, .arrayEnd⟩
      | .ok _ => none

/-- The value that comes next belongs to an operation: it is the first item of an array, or stands
under `op` in an object, in the list of a program. -/
def awaitsOperation : (opened : List Container) → Bool
  | [.array [], .array _] => true
  | [.object _ key, .array _] => key == some "op"
  | _ => false

/-- What a reader of programs objects to. -/
def objection? : Reader → Option Objection
  | .complete [] (.scalar leaf) => some ⟨.wrongType (.scalar leaf) "a sequence", .behind⟩
  | .keyOrEnd [] => some ⟨.wrongType .object "a sequence", .inFront⟩
  | .itemOrEnd opened =>
      if awaitsOperation opened then some ⟨.wrongType .array "variant identifier", .inFront⟩
      else none
  | .keyOrEnd opened =>
      if awaitsOperation opened then some ⟨.wrongType .object "variant identifier", .inFront⟩
      else none
  | .colon [.array _] fields key =>
      if key = some "op" ∧ fields.any (fun field => field.1 == some "op") then
        some ⟨.repeatedField "op", .objectEnd⟩
      else
        none
  | .complete [.array _] value => objectionToInstruction? value
  | .complete opened value =>
      if awaitsOperation opened then objectionToOperation? value else none
  | _ => none

/-- The first fault in the text of a program. -/
def fault? (text : String) : Option Fault := Json.fault? objection? text

end Lamplighter.Program
