import Lamplighter.Program

/-!
# Cursors

A cursor is a place inside a program: a stack of frames, innermost first, one for the program and
one for every loop that is being run. A run can stop at any cursor and go on from it later, because
the frames are all that a run remembers.

A cursor does not hold the program that it was made for. Asked about another program it reads its
frames against that one, so every definition here has a meaning for frames that fit nowhere.
`Cursor.passesLeft` counts the passes that settling a stack takes, whatever the stack, and so bounds
`Cursor.settle`.
-/

namespace Lamplighter

/-- A place in one list of instructions, and how many passes over that list are still to be made,
the current one included. -/
structure Cursor.Frame where
  index : Nat
  remaining : UInt32
deriving DecidableEq, Repr

/-- The place of the next action in a program. -/
structure Cursor where
  /-- Innermost frame first. -/
  frames : List Cursor.Frame
deriving DecidableEq, Repr

namespace Instruction

mutual

/-- The passes that it takes to come from an instruction that does not expand to nothing to the
first action in it. -/
def passesInto : Instruction → Nat
  | .act _ => 0
  | .loop _ body => 1 + passesToAction body

/-- The passes that it takes to come from the start of a list to the first action in it, and, where
there is none, to the end of the list. -/
def passesToAction : List Instruction → Nat
  | [] => 0
  | first :: rest =>
      if first.shownLength = 0 then 1 + passesToAction rest else first.passesInto

end

theorem cappedMul_eq_zero_iff {left right : Nat} :
    cappedMul left right = 0 ↔ left = 0 ∨ right = 0 := by
  have limit : lengthLimit ≠ 0 := by decide
  simp only [cappedMul, ← Nat.mul_eq_zero]
  omega

theorem cappedAdd_eq_zero_iff {left right : Nat} :
    cappedAdd left right = 0 ↔ left = 0 ∧ right = 0 := by
  have limit : lengthLimit ≠ 0 := by decide
  simp only [cappedAdd]
  omega

/-- A shown length of a list is zero only where nothing was counted before it. -/
theorem shownLengthFrom_eq_zero_iff {sum : Nat} {list : List Instruction} :
    shownLengthFrom sum list = 0 ↔ sum = 0 ∧ expandsToNothing list = true := by
  induction list generalizing sum with
  | nil => simp [shownLengthFrom, expandsToNothing]
  | cons first rest inductionHypothesis =>
      simp [shownLengthFrom, inductionHypothesis, cappedAdd_eq_zero_iff, expandsToNothing,
        and_assoc]

/-- A loop is counted as empty exactly when its body is. -/
theorem shownLength_loop_eq_zero_iff {count : LoopCount} {body : List Instruction} :
    (loop count body).shownLength = 0 ↔ expandsToNothing body = true := by
  have positive : count.times.toNat ≠ 0 := fun isZero =>
    count.positive (UInt32.toNat_inj.1 (by simpa using isZero))
  simp [shownLength, cappedMul_eq_zero_iff, shownLengthFrom_eq_zero_iff, positive]

/-- At a loop the first pass steps over it or enters it. -/
theorem passesToAction_loop_cons {count : LoopCount} {body rest : List Instruction} :
    passesToAction (loop count body :: rest) =
      1 + if expandsToNothing body then passesToAction rest else passesToAction body := by
  by_cases hollow : expandsToNothing body = true
  · simp [passesToAction, shownLength_loop_eq_zero_iff, hollow]
  · simp [passesToAction, passesInto, shownLength_loop_eq_zero_iff, hollow]

/-- A list that starts with an action does not expand to nothing. -/
theorem expandsToNothing_act_cons {action : Action} {rest : List Instruction} :
    expandsToNothing (act action :: rest) = false := by
  simp [expandsToNothing, shownLength]

/-- A list that starts with a loop expands to nothing when the loop and the rest do. -/
theorem expandsToNothing_loop_cons {count : LoopCount} {body rest : List Instruction} :
    expandsToNothing (loop count body :: rest) =
      (expandsToNothing body && expandsToNothing rest) := by
  have head : ((loop count body).shownLength == 0) = expandsToNothing body := by
    rw [Bool.eq_iff_iff, beq_iff_eq]
    exact shownLength_loop_eq_zero_iff
  exact congrArg (· && expandsToNothing rest) head

end Instruction

namespace Cursor

open Instruction

/-- The list of instructions in which a frame inside the given frames stands. There is none when one
of these frames does not point at a loop. -/
def addressed? (program : Program) : (enclosing : List Frame) → Option (List Instruction)
  | [] => some program.instructions
  | frame :: outer =>
      match addressed? program outer with
      | none => none
      | some list =>
          match list[frame.index]? with
          | some (.loop _ body) => some body
          | _ => none

/-- Leave the innermost list: the frame around it goes on behind the loop that was left. -/
def stepPast : List Frame → List Frame
  | [] => []
  | frame :: outer => { frame with index := frame.index + 1 } :: outer

/-- One pass towards the next action: go over the list once more, leave it, step over a loop that
expands to nothing, or enter a loop. There is no pass to make from an action or without frames. -/
def pass (program : Program) : List Frame → Option (List Frame)
  | [] => none
  | top :: enclosing =>
      match addressed? program enclosing with
      | none => some []
      | some list =>
          match list[top.index]? with
          | none =>
              if 1 < top.remaining then
                some ({ index := 0, remaining := top.remaining - 1 } :: enclosing)
              else
                some (stepPast enclosing)
          | some (.loop count body) =>
              if expandsToNothing body then
                some ({ top with index := top.index + 1 } :: enclosing)
              else
                some ({ index := 0, remaining := count.times } :: top :: enclosing)
          | some (.act _) => none

/-- The passes from a place in a list until a stack is settled. A list with an action behind the
place is settled inside it. A list with an action only before the place is settled in the next round
over it, if there is one. A list without any action uses up all its rounds. In the last two cases
the list may be left, and the count goes on in the list around it. -/
def passesFrom (program : Program) (index remaining : Nat) : (enclosing : List Frame) → Nat
  | [] =>
      settledWithin program.instructions index remaining 0
  | parent :: outer =>
      match addressed? program (parent :: outer) with
      | none => 1
      | some list =>
          settledWithin list index remaining
            (passesFrom program (parent.index + 1) parent.remaining.toNat outer)
where
  /-- The same count, given the passes that follow once the list is left. It is unfolded in place,
  so that these are only counted where the list is left. -/
  @[macro_inline] settledWithin (list : List Instruction) (index remaining afterwards : Nat) : Nat :=
    passesToAction (list.drop index) +
      if expandsToNothing (list.drop index) then
        if expandsToNothing list then
          (remaining - 1) * (1 + passesToAction list) + 1 + afterwards
        else if 1 < remaining then
          1 + passesToAction list
        else
          1 + afterwards
      else
        0

/-- The exact number of passes that settling a stack takes. -/
def passesLeft (program : Program) : List Frame → Nat
  | [] => 0
  | top :: enclosing => passesFrom program top.index top.remaining.toNat enclosing

theorem passesLeft_cons {program : Program} {top : Frame} {enclosing : List Frame} :
    passesLeft program (top :: enclosing) =
      passesFrom program top.index top.remaining.toNat enclosing := rfl

/-- The count for a place in a known list. -/
theorem passesFrom_eq {program : Program} {enclosing : List Frame} {list : List Instruction}
    (index remaining : Nat) (found : addressed? program enclosing = some list) :
    passesFrom program index remaining enclosing =
      passesFrom.settledWithin list index remaining
        (passesLeft program (stepPast enclosing)) := by
  cases enclosing with
  | nil =>
      obtain rfl : program.instructions = list := by simpa [addressed?] using found
      rfl
  | cons parent outer => simp [passesFrom, found, passesLeft, stepPast]

/-- Where more than the current round is left, one can be taken away. -/
theorem remaining_of_one_lt {remaining : UInt32} (more : 1 < remaining) :
    ∃ further, remaining.toNat = further + 2 ∧ (remaining - 1).toNat = further + 1 := by
  have many : 1 < remaining.toNat := by simpa [UInt32.lt_iff_toNat_lt] using more
  have fewer : (remaining - 1).toNat = remaining.toNat - 1 :=
    UInt32.toNat_sub_of_le _ _ (by rw [UInt32.le_iff_toNat_le]; simp; omega)
  exact ⟨remaining.toNat - 2, by omega, by omega⟩

/-- Otherwise at most the current round is left. -/
theorem remaining_of_not_one_lt {remaining : UInt32} (last : ¬ 1 < remaining) : remaining.toNat ≤ 1 := by
  simpa [UInt32.lt_iff_toNat_lt] using last

/-- Every pass brings a stack exactly one pass nearer to being settled. -/
theorem passesLeft_of_pass {program : Program} {frames next : List Frame}
    (moved : pass program frames = some next) :
    passesLeft program frames = passesLeft program next + 1 := by
  match frames with
  | [] => simp [pass] at moved
  | top :: enclosing =>
    simp only [pass] at moved
    split at moved
    next unknown =>
      obtain rfl : next = [] := by simpa using moved.symm
      cases enclosing with
      | nil => simp [addressed?] at unknown
      | cons parent outer => simp [passesLeft, passesFrom, unknown]
    next list found =>
      have before := passesFrom_eq top.index top.remaining.toNat found
      rw [passesLeft_cons, before]
      simp only [passesFrom.settledWithin]
      split at moved
      next beyond =>
        have nothingLeft : list.drop top.index = [] :=
          List.drop_eq_nil_of_le (List.getElem?_eq_none_iff.1 beyond)
        have restEmpty : expandsToNothing ([] : List Instruction) = true := rfl
        split at moved
        next again =>
          obtain rfl := Option.some.inj moved
          obtain ⟨further, count, fewer⟩ := remaining_of_one_lt again
          have more : 1 < further + 2 := by omega
          simp only [passesLeft_cons, passesFrom_eq _ _ found, passesFrom.settledWithin,
            List.drop_zero, nothingLeft, restEmpty, passesToAction, count, fewer, if_true]
          by_cases bare : expandsToNothing list = true
          · simp only [bare, if_true, Nat.add_sub_cancel,
              show further + 2 - 1 = further + 1 by omega, Nat.succ_mul]
            omega
          · simp [bare, more, Nat.add_comm]
        next once =>
          obtain rfl := Option.some.inj moved
          have few := remaining_of_not_one_lt once
          have last : top.remaining.toNat - 1 = 0 := by omega
          simp only [nothingLeft, restEmpty, passesToAction, if_true, last, Nat.not_lt.2 few]
          by_cases bare : expandsToNothing list = true
          · simp only [bare, if_true]; omega
          · simp only [bare, Bool.false_eq_true, if_false]; omega
      next count body here =>
        obtain ⟨inside, isHere⟩ := List.getElem?_eq_some_iff.1 here
        have ahead : list.drop top.index = .loop count body :: list.drop (top.index + 1) := by
          rw [List.drop_eq_getElem_cons inside, isHere]
        split at moved
        next hollow =>
          obtain rfl := Option.some.inj moved
          simp only [passesLeft_cons, passesFrom_eq _ _ found, passesFrom.settledWithin, ahead,
            passesToAction_loop_cons, hollow,
            expandsToNothing_loop_cons, Bool.true_and, if_true]
          omega
        next solid =>
          obtain rfl := Option.some.inj moved
          have entered : addressed? program (top :: enclosing) = some body := by
            simp [addressed?, found, here]
          simp only [passesLeft_cons, passesFrom_eq _ _ entered, passesFrom.settledWithin, ahead,
            passesToAction_loop_cons, solid,
            expandsToNothing_loop_cons, Bool.false_and, if_false, List.drop_zero,
            Bool.false_eq_true]
          omega
      next => simp at moved

theorem passesLeft_lt_of_pass {program : Program} {frames next : List Frame}
    (moved : pass program frames = some next) :
    passesLeft program next < passesLeft program frames := by
  rw [passesLeft_of_pass moved]
  exact Nat.lt_succ_self _

/-- Make passes until there is none to make, but at most a number of them. -/
def settleWithin (program : Program) : (passes : Nat) → List Frame → List Frame
  | 0, frames => frames
  | passes + 1, frames =>
      match pass program frames with
      | none => frames
      | some next => settleWithin program passes next

/-- Make passes until the innermost frame stands at an action or no frame is left. -/
def settle (program : Program) (frames : List Frame) : List Frame :=
  settleWithin program (passesLeft program frames) frames

/-- Allowing for more passes than are left changes nothing. -/
theorem settleWithin_eq_settle {program : Program} {passes : Nat} {frames : List Frame}
    (enough : passesLeft program frames ≤ passes) :
    settleWithin program passes frames = settle program frames := by
  suffices both : ∀ fewer, passesLeft program frames ≤ fewer →
      settleWithin program passes frames = settleWithin program fewer frames from
    both _ (Nat.le_refl _)
  intro fewer also
  induction passes generalizing frames fewer with
  | zero =>
      cases fewer with
      | zero => rfl
      | succ fewer =>
          cases moved : pass program frames with
          | none => simp [settleWithin, moved]
          | some next =>
              have := passesLeft_lt_of_pass moved
              omega
  | succ passes inductionHypothesis =>
      cases moved : pass program frames with
      | none => cases fewer <;> simp [settleWithin, moved]
      | some next =>
          have closer := passesLeft_lt_of_pass moved
          cases fewer with
          | zero => omega
          | succ fewer =>
              simp only [settleWithin, moved]
              exact inductionHypothesis (by omega) fewer (by omega)

/-- A stack from which there is no pass to make is settled. -/
theorem settle_of_pass_eq_none {program : Program} {frames : List Frame}
    (settled : pass program frames = none) : settle program frames = frames := by
  unfold settle
  cases passesLeft program frames <;> simp [settleWithin, settled]

/-- A pass leads nearer to the same settled stack. -/
theorem settle_of_pass_eq_some {program : Program} {frames next : List Frame}
    (moved : pass program frames = some next) :
    settle program frames = settle program next := by
  have closer := passesLeft_lt_of_pass moved
  obtain ⟨passes, left⟩ : ∃ passes, passesLeft program frames = passes + 1 :=
    ⟨passesLeft program frames - 1, by omega⟩
  rw [settle, left]
  simp only [settleWithin, moved]
  exact settleWithin_eq_settle (by omega)

/-- The cursor at which no action is left. -/
def exhausted : Cursor := ⟨[]⟩

/-- The cursor at the start of a program. -/
def start (program : Program) : Cursor :=
  ⟨settle program [{ index := 0, remaining := 1 }]⟩

/-- No action is left. -/
def isExhausted (cursor : Cursor) : Bool := cursor.frames.isEmpty

/-- How many loops the cursor is inside. -/
def depth (cursor : Cursor) : Nat := cursor.frames.length - 1

/-- The action at the cursor. -/
def peek? (program : Program) (cursor : Cursor) : Option Action :=
  match cursor.frames with
  | [] => none
  | top :: enclosing =>
      match addressed? program enclosing with
      | none => none
      | some list => list[top.index]?.bind Instruction.action?

/-- Take the action at the cursor and move behind it. Where there is none, nothing moves. -/
def advance (program : Program) (cursor : Cursor) : Option Action × Cursor :=
  match cursor.peek? program with
  | none => (none, cursor)
  | some action => (some action, ⟨settle program (stepPast cursor.frames)⟩)

/-- Take at most `limit` actions. -/
def take (program : Program) (cursor : Cursor) : (limit : Nat) → List Action × Cursor
  | 0 => ([], cursor)
  | limit + 1 =>
      match cursor.advance program with
      | (none, same) => ([], same)
      | (some action, next) =>
          let (actions, last) := take program next limit
          (action :: actions, last)

end Cursor

end Lamplighter
