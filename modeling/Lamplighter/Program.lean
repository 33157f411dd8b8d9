/-!
# Programs

A program is a list of instructions: concrete robot actions, and loops that run a body of
instructions a positive number of times. Nothing here runs a program. `Program.actions` says which
actions a full run would take, one after the other; the counts and depths below describe that list
and the tree without writing the list out.
-/

namespace Lamplighter

/-- One concrete thing the robot can be told to do. -/
inductive Action where
  | walk
  | jump
  | light
  | turnLeft
  | turnRight
deriving DecidableEq, Repr

namespace Action

/-- Every action, in the order in which operations are numbered. -/
def all : List Action := [walk, jump, light, turnLeft, turnRight]

/-- The operation word of an action. -/
def word : Action → String
  | walk => "walk"
  | jump => "jump"
  | light => "light"
  | turnLeft => "turnLeft"
  | turnRight => "turnRight"

/-- The name of an action where it stands alone. -/
def name : Action → String
  | walk => "Walk"
  | jump => "Jump"
  | light => "Light"
  | turnLeft => "TurnLeft"
  | turnRight => "TurnRight"

end Action

/-- How often a loop runs its body. A loop that never runs cannot be expressed. -/
structure LoopCount where
  times : UInt32
  positive : times ≠ 0
deriving DecidableEq

/-- The loop count of a natural number, if it is one: from `1` to `2 ^ 32 - 1`. -/
def LoopCount.ofNat? (times : Nat) : Option LoopCount :=
  if inRange : 0 < times ∧ times < UInt32.size then
    some {
      times := UInt32.ofNat times
      positive := by
        intro isZero
        have value := congrArg UInt32.toNat isZero
        rw [UInt32.toNat_ofNat_of_lt' inRange.2, UInt32.toNat_zero] at value
        omega }
  else
    none

/-- One instruction of a program: an action, or a loop around further instructions. -/
inductive Instruction where
  | act (action : Action)
  | loop (count : LoopCount) (body : List Instruction)

namespace Instruction

mutual

/-- Equality of instructions is decided node by node. -/
def decEq : (left right : Instruction) → Decidable (left = right)
  | .act first, .act second =>
      if same : first = second then .isTrue (same ▸ rfl)
      else .isFalse fun equal => same (Instruction.act.inj equal)
  | .act _, .loop _ _ => .isFalse nofun
  | .loop _ _, .act _ => .isFalse nofun
  | .loop firstCount firstBody, .loop secondCount secondBody =>
      if sameCount : firstCount = secondCount then
        match decEqList firstBody secondBody with
        | .isTrue sameBody => .isTrue (sameCount ▸ sameBody ▸ rfl)
        | .isFalse different => .isFalse fun equal => different (Instruction.loop.inj equal).2
      else .isFalse fun equal => sameCount (Instruction.loop.inj equal).1

/-- Equality of instruction lists is decided element by element. -/
def decEqList : (left right : List Instruction) → Decidable (left = right)
  | [], [] => .isTrue rfl
  | [], _ :: _ => .isFalse nofun
  | _ :: _, [] => .isFalse nofun
  | first :: firsts, second :: seconds =>
      match decEq first second with
      | .isFalse different => .isFalse fun equal => different (List.cons.inj equal).1
      | .isTrue same =>
          match decEqList firsts seconds with
          | .isTrue sameRest => .isTrue (same ▸ sameRest ▸ rfl)
          | .isFalse different => .isFalse fun equal => different (List.cons.inj equal).2

end

instance : DecidableEq Instruction := decEq

/-- The concrete action of an instruction; a loop is none. -/
def action? : Instruction → Option Action
  | .act action => some action
  | .loop _ _ => none

/-- The largest count the editor shows. -/
def lengthLimit : Nat := UInt64.size - 1

/-- Addition that stops at the largest count. -/
def cappedAdd (left right : Nat) : Nat := min (left + right) lengthLimit

/-- Multiplication that stops at the largest count. -/
def cappedMul (left right : Nat) : Nat := min (left * right) lengthLimit

mutual

/-- The actions that running an instruction takes, in order. -/
def actions : Instruction → List Action
  | .act action => [action]
  | .loop count body => (List.replicate count.times.toNat (actionsOf body)).flatten

/-- The actions that running a list of instructions takes, in order. -/
def actionsOf : List Instruction → List Action
  | [] => []
  | first :: rest => first.actions ++ actionsOf rest

end

mutual

/-- The number of actions that running an instruction takes. -/
def length : Instruction → Nat
  | .act _ => 1
  | .loop count body => count.times.toNat * lengthOf body

/-- The number of actions that running a list of instructions takes. -/
def lengthOf : List Instruction → Nat
  | [] => 0
  | first :: rest => first.length + lengthOf rest

end

mutual

/-- The number of actions as the editor shows it: every sum and product stops at the largest
count, so that no nesting of loops can take the count around. -/
def shownLength : Instruction → Nat
  | .act _ => 1
  | .loop count body => cappedMul (shownLengthFrom 0 body) count.times.toNat

/-- The shown number of actions of a list, added to a count so far. -/
def shownLengthFrom (sum : Nat) : List Instruction → Nat
  | [] => sum
  | first :: rest => shownLengthFrom (cappedAdd sum first.shownLength) rest

end

mutual

/-- How deeply loops nest: `0` for an action. -/
def depth : Instruction → Nat
  | .act _ => 0
  | .loop _ body => 1 + depthOf body

/-- The deepest nesting among the instructions of a list. -/
def depthOf : List Instruction → Nat
  | [] => 0
  | first :: rest => max first.depth (depthOf rest)

end

/-- A loop whose body expands to nothing is stepped over. -/
def expandsToNothing (body : List Instruction) : Bool :=
  body.all fun instruction => instruction.shownLength == 0

end Instruction

/-- An ordered list of instructions. -/
structure Program where
  instructions : List Instruction
deriving DecidableEq

namespace Program

/-- The program with no instructions. -/
def empty : Program := ⟨[]⟩

/-- The number of instructions at the top level. -/
def size (program : Program) : Nat := program.instructions.length

/-- Whether a program has no instructions. -/
def isEmpty (program : Program) : Bool := program.instructions.isEmpty

/-- The actions that a full run takes, with every loop written out. -/
def actions (program : Program) : List Action := Instruction.actionsOf program.instructions

/-- The exact number of actions that a full run takes. -/
def length (program : Program) : Nat := Instruction.lengthOf program.instructions

/-- The number of actions that a full run takes, as the editor shows it. -/
def shownLength (program : Program) : Nat := Instruction.shownLengthFrom 0 program.instructions

/-- The deepest loop nesting. -/
def depth (program : Program) : Nat := Instruction.depthOf program.instructions

/-- The program that takes the given actions without any loop. -/
def ofActions (actions : List Action) : Program := ⟨actions.map .act⟩

end Program

end Lamplighter
