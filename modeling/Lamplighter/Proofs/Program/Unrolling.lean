import Lamplighter.Program.Cursor

/-!
# Unrolled programs

The actions of a program are its loops written out, and its length is their number. The shown length
is computed with sums and products that stop at a limit, wherever they stand in the tree. Nothing is
lost by stopping early, because no summand is negative and no loop runs less than once:
`Program.shownLength_exact` says that the shown length is the length, stopped at the limit once.
-/

namespace Lamplighter

/-- A loop runs at least once. -/
theorem LoopCount.toNat_pos (count : LoopCount) : 0 < count.times.toNat :=
  Nat.pos_of_ne_zero fun isZero =>
    count.positive (UInt32.toNat_inj.1 (by simpa using isZero))

namespace Instruction

/-- A loop that runs a positive number of times writes out nothing only if its body does. -/
theorem actions_loop_eq_nil_iff {count : LoopCount} {body : List Instruction} :
    (loop count body).actions = [] ↔ actionsOf body = [] := by
  have positive := Nat.ne_of_gt count.toNat_pos
  simp [actions, List.flatten_eq_nil_iff, List.mem_replicate, positive]

/-- A loop takes the actions of its body, and no others. -/
theorem mem_actions_loop {count : LoopCount} {body : List Instruction} {action : Action} :
    action ∈ (loop count body).actions ↔ action ∈ actionsOf body := by
  have positive := Nat.ne_of_gt count.toNat_pos
  simp [actions, List.mem_flatten, List.mem_replicate, positive]

mutual

/-- The length of an instruction is the number of its actions. -/
theorem length_actions : (instruction : Instruction) →
    instruction.actions.length = instruction.length
  | .act _ => by simp [actions, length]
  | .loop count body => by simp [actions, length, length_actionsOf body]

/-- The length of a list is the number of its actions. -/
theorem length_actionsOf : (list : List Instruction) → (actionsOf list).length = lengthOf list
  | [] => by simp [actionsOf, lengthOf]
  | first :: rest => by
      simp [actionsOf, lengthOf, length_actions first, length_actionsOf rest]

end

/-! ## Shown lengths -/

/-- A sum of counts that have been stopped at the limit is the exact sum, stopped at it. -/
theorem cappedAdd_min (left right : Nat) :
    cappedAdd (min left lengthLimit) (min right lengthLimit) = min (left + right) lengthLimit := by
  simp only [cappedAdd]
  omega

/-- A count that has been stopped at the limit stays there when it is taken more often. It would not
if it could be taken no times at all. -/
theorem cappedMul_min (count : Nat) {times : Nat} (positive : 0 < times) :
    cappedMul (min count lengthLimit) times = min (count * times) lengthLimit := by
  rw [cappedMul]
  rcases Nat.le_total count lengthLimit with within | beyond
  · rw [Nat.min_eq_left within]
  · have stays : lengthLimit ≤ lengthLimit * times := Nat.le_mul_of_pos_right _ positive
    have exceeds : lengthLimit * times ≤ count * times := Nat.mul_le_mul_right _ beyond
    rw [Nat.min_eq_right beyond, Nat.min_eq_right stays,
      Nat.min_eq_right (Nat.le_trans stays exceeds)]

mutual

/-- An instruction is shown with its length, as far as the limit goes. -/
theorem shownLength_eq_min : (instruction : Instruction) →
    instruction.shownLength = min instruction.length lengthLimit
  | .act _ => by
      have one : 1 ≤ lengthLimit := by decide
      rw [shownLength, length, Nat.min_eq_left one]
  | .loop count body => by
      have inner := shownLengthFrom_min 0 body
      rw [Nat.zero_min, Nat.zero_add] at inner
      rw [shownLength, inner, cappedMul_min _ count.toNat_pos, length, Nat.mul_comm]

/-- Counting a list on from a count that has been stopped at the limit gives what counting on from
the exact one gives, stopped at the limit. -/
theorem shownLengthFrom_min : (sum : Nat) → (list : List Instruction) →
    shownLengthFrom (min sum lengthLimit) list = min (sum + lengthOf list) lengthLimit
  | sum, [] => by rw [shownLengthFrom, lengthOf, Nat.add_zero]
  | sum, first :: rest => by
      rw [shownLengthFrom, shownLength_eq_min first, cappedAdd_min, shownLengthFrom_min _ rest,
        lengthOf, Nat.add_assoc]

end

/-- The limit takes no length for nothing. -/
theorem min_lengthLimit_eq_zero_iff {count : Nat} : min count lengthLimit = 0 ↔ count = 0 := by
  have positive : 0 < lengthLimit := by decide
  omega

/-- An instruction is shown with length zero exactly when it takes no action. -/
theorem shownLength_eq_zero_iff (instruction : Instruction) :
    instruction.shownLength = 0 ↔ instruction.actions = [] := by
  rw [shownLength_eq_min, min_lengthLimit_eq_zero_iff, ← length_actions, List.length_eq_zero_iff]

/-- A list is stepped over exactly when it takes no action. -/
theorem expandsToNothing_iff (list : List Instruction) :
    expandsToNothing list = true ↔ actionsOf list = [] := by
  induction list with
  | nil => simp [expandsToNothing, actionsOf]
  | cons first rest inductionHypothesis =>
      have head := shownLength_eq_zero_iff first
      simp only [expandsToNothing, List.all_cons, Bool.and_eq_true, beq_iff_eq]
        at inductionHypothesis ⊢
      simp [actionsOf, head, inductionHypothesis]

end Instruction

namespace Program

/-- The length of a program is the number of its actions. -/
theorem length_actions (program : Program) : program.actions.length = program.length :=
  Instruction.length_actionsOf program.instructions

/-- A program is shown with its length, as far as the limit goes. -/
theorem shownLength_eq_min (program : Program) :
    program.shownLength = min program.length Instruction.lengthLimit := by
  have counted := Instruction.shownLengthFrom_min 0 program.instructions
  rwa [Nat.zero_min, Nat.zero_add] at counted

/-- Whatever the nesting and the counts of the loops, a program and every instruction is shown with
the exact number of its actions, up to the largest number of 64 bits; so what is shown is zero only
where there is no action. -/
theorem shownLength_exact (program : Program) :
    program.shownLength = min program.actions.length (UInt64.size - 1) ∧
      (program.shownLength = 0 ↔ program.actions = []) ∧
      ∀ instruction : Instruction,
        instruction.shownLength = min instruction.actions.length (UInt64.size - 1) ∧
          (instruction.shownLength = 0 ↔ instruction.actions = []) := by
  refine ⟨?_, ?_, fun instruction => ⟨?_, instruction.shownLength_eq_zero_iff⟩⟩
  · rw [shownLength_eq_min, length_actions, Instruction.lengthLimit]
  · rw [shownLength_eq_min, Instruction.min_lengthLimit_eq_zero_iff, ← length_actions,
      List.length_eq_zero_iff]
  · rw [Instruction.shownLength_eq_min, Instruction.length_actions, Instruction.lengthLimit]

-- Two nested loops come near the limit, and the third one leads far beyond it.
example :
    let often : LoopCount := ⟨4294967295, by decide⟩
    let twice := Instruction.loop often [.loop often [.act .walk]]
    (shownLength ⟨[twice]⟩, shownLength ⟨[.loop often [twice], .act .light]⟩) =
      (18446744065119617025, 18446744073709551615) := by decide

end Program

end Lamplighter
