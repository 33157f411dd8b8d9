import Lamplighter.Proofs.Program.Unrolling

/-!
# A cursor walks the unrolled program

`Cursor.left` writes out what a stack of frames has still to run: the rest of every list on the
stack, and the passes that remain over it. No pass of `Cursor.settle` changes what is left, whatever
the stack, so taking an action takes the first one that is left. `Cursor.advances_start` says the
same of any number of calls from the start of a program.
-/

namespace Lamplighter.Cursor

open Instruction

/-! ## What is left at a stack of frames -/

/-- What is left of running a list from a place in it: the rest of this pass, then the passes after
this one. -/
def leftIn (list : List Instruction) (index remaining : Nat) : List Action :=
  actionsOf (list.drop index) ++ (List.replicate (remaining - 1) (actionsOf list)).flatten

/-- What is left from a place in the list inside the given frames. Nothing is left at frames that
address no list. -/
def leftFrom (program : Program) (index remaining : Nat) : (enclosing : List Frame) → List Action
  | [] => leftIn program.instructions index remaining
  | parent :: outer =>
      match addressed? program (parent :: outer) with
      | none => []
      | some list =>
          leftIn list index remaining ++
            leftFrom program (parent.index + 1) parent.remaining.toNat outer

/-- The actions that are left to be taken at a stack. -/
def left (program : Program) : List Frame → List Action
  | [] => []
  | top :: enclosing => leftFrom program top.index top.remaining.toNat enclosing

/-- What is left inside known frames: the innermost list, then what is left behind its loop. -/
theorem left_cons {program : Program} {top : Frame} {enclosing : List Frame}
    {list : List Instruction} (found : addressed? program enclosing = some list) :
    left program (top :: enclosing) =
      leftIn list top.index top.remaining.toNat ++ left program (stepPast enclosing) := by
  cases enclosing with
  | nil =>
      obtain rfl : program.instructions = list := by simpa [addressed?] using found
      simp [left, leftFrom, stepPast]
  | cons parent outer => simp [left, leftFrom, found, stepPast]

/-- Nothing is left inside frames that address no list. -/
theorem left_of_addressed?_eq_none {program : Program} {top : Frame} {enclosing : List Frame}
    (unknown : addressed? program enclosing = none) : left program (top :: enclosing) = [] := by
  cases enclosing with
  | nil => simp [addressed?] at unknown
  | cons parent outer => simp [left, leftFrom, unknown]

/-- A place in a list at which an instruction stands is left by taking the actions of the
instruction first. -/
theorem leftIn_of_getElem? {list : List Instruction} {index : Nat} {here : Instruction}
    (remaining : Nat) (stands : list[index]? = some here) :
    leftIn list index remaining = here.actions ++ leftIn list (index + 1) remaining := by
  obtain ⟨inside, isHere⟩ := List.getElem?_eq_some_iff.1 stands
  have ahead : list.drop index = here :: list.drop (index + 1) := by
    rw [List.drop_eq_getElem_cons inside, isHere]
  simp [leftIn, ahead, actionsOf, List.append_assoc]

/-- Behind the end of a list only its further passes are left. -/
theorem leftIn_of_getElem?_eq_none {list : List Instruction} {index : Nat} (remaining : Nat)
    (beyond : list[index]? = none) :
    leftIn list index remaining = (List.replicate (remaining - 1) (actionsOf list)).flatten := by
  have nothingLeft : list.drop index = [] :=
    List.drop_eq_nil_of_le (List.getElem?_eq_none_iff.1 beyond)
  simp [leftIn, nothingLeft, actionsOf]

/-- At the start of a list all its passes are left. -/
theorem leftIn_zero (list : List Instruction) {remaining : Nat} (positive : 0 < remaining) :
    leftIn list 0 remaining = (List.replicate remaining (actionsOf list)).flatten := by
  obtain ⟨rounds, rfl⟩ : ∃ rounds, remaining = rounds + 1 := ⟨remaining - 1, by omega⟩
  simp [leftIn, List.replicate_succ]

/-! ## Passes -/

/-- What one pass does to a stack. -/
inductive Passes (program : Program) : List Frame → List Frame → Prop where
  /-- The frames fit nowhere in the program. -/
  | lost {top : Frame} {enclosing : List Frame}
      (unknown : addressed? program enclosing = none) : Passes program (top :: enclosing) []
  /-- The list is run once more. -/
  | again {top : Frame} {enclosing : List Frame} {list : List Instruction}
      (found : addressed? program enclosing = some list) (beyond : list[top.index]? = none)
      (more : 1 < top.remaining) :
      Passes program (top :: enclosing)
        ({ index := 0, remaining := top.remaining - 1 } :: enclosing)
  /-- The list has been run often enough. -/
  | leave {top : Frame} {enclosing : List Frame} {list : List Instruction}
      (found : addressed? program enclosing = some list) (beyond : list[top.index]? = none)
      (last : ¬ 1 < top.remaining) : Passes program (top :: enclosing) (stepPast enclosing)
  /-- A loop without any action is stepped over. -/
  | skip {top : Frame} {enclosing : List Frame} {list : List Instruction} {count : LoopCount}
      {body : List Instruction} (found : addressed? program enclosing = some list)
      (here : list[top.index]? = some (.loop count body)) (hollow : actionsOf body = []) :
      Passes program (top :: enclosing) ({ top with index := top.index + 1 } :: enclosing)
  /-- A loop with an action in it is entered. -/
  | enter {top : Frame} {enclosing : List Frame} {list : List Instruction} {count : LoopCount}
      {body : List Instruction} (found : addressed? program enclosing = some list)
      (here : list[top.index]? = some (.loop count body)) (solid : actionsOf body ≠ []) :
      Passes program (top :: enclosing)
        ({ index := 0, remaining := count.times } :: top :: enclosing)

/-- Every pass that is made does one of these things. -/
theorem passes_of_pass {program : Program} {frames next : List Frame}
    (moved : pass program frames = some next) : Passes program frames next := by
  match frames with
  | [] => simp [pass] at moved
  | top :: enclosing =>
    simp only [pass] at moved
    split at moved
    next unknown =>
      obtain rfl := Option.some.inj moved
      exact .lost unknown
    next list found =>
      split at moved
      next beyond =>
        split at moved
        next more =>
          obtain rfl := Option.some.inj moved
          exact .again found beyond more
        next last =>
          obtain rfl := Option.some.inj moved
          exact .leave found beyond last
      next count body here =>
        split at moved
        next hollow =>
          obtain rfl := Option.some.inj moved
          exact .skip found here ((expandsToNothing_iff body).1 hollow)
        next solid =>
          obtain rfl := Option.some.inj moved
          exact .enter found here (mt (expandsToNothing_iff body).2 solid)
      next => simp at moved

/-- The innermost of some frames stands at an action of the program. -/
inductive StandsAt (program : Program) (action : Action) : List Frame → Prop where
  | intro {top : Frame} {enclosing : List Frame} {list : List Instruction}
      (found : addressed? program enclosing = some list)
      (here : list[top.index]? = some (.act action)) : StandsAt program action (top :: enclosing)

/-- There is no pass to make without frames and at an action, and nowhere else. -/
theorem pass_eq_none_iff {program : Program} {frames : List Frame} :
    pass program frames = none ↔ frames = [] ∨ ∃ action, StandsAt program action frames := by
  constructor
  · intro settled
    match frames with
    | [] => exact .inl rfl
    | top :: enclosing =>
      simp only [pass] at settled
      split at settled
      next => simp at settled
      next list found =>
        split at settled
        next => split at settled <;> simp at settled
        next => split at settled <;> simp at settled
        next action here => exact .inr ⟨action, .intro found here⟩
  · rintro (rfl | ⟨action, found, here⟩)
    · rfl
    · simp only [pass, found, here]

/-- A cursor shows the action at which its innermost frame stands. -/
theorem peek?_eq_some_iff {program : Program} {cursor : Cursor} {action : Action} :
    cursor.peek? program = some action ↔ StandsAt program action cursor.frames := by
  obtain ⟨frames⟩ := cursor
  constructor
  · intro shown
    match frames with
    | [] => simp [peek?] at shown
    | top :: enclosing =>
      simp only [peek?] at shown
      split at shown
      next => simp at shown
      next list found =>
        obtain ⟨here, stands, isAction⟩ := Option.bind_eq_some_iff.1 shown
        cases here with
        | act performed =>
            obtain rfl : performed = action := Option.some.inj isAction
            exact .intro found stands
        | loop => simp [action?] at isAction
  · rintro ⟨found, here⟩
    simp only [peek?, found, here, Option.bind_some, action?]

/-- A pass leaves the same actions to be taken. -/
theorem Passes.left_eq {program : Program} {frames next : List Frame}
    (passes : Passes program frames next) : left program next = left program frames := by
  cases passes with
  | lost unknown => rw [left_of_addressed?_eq_none unknown, left]
  | @again top enclosing list found beyond more =>
      obtain ⟨further, count, fewer⟩ := remaining_of_one_lt more
      rw [left_cons found, left_cons found, leftIn_of_getElem?_eq_none _ beyond, count, fewer,
        leftIn_zero list (Nat.succ_pos further), Nat.add_sub_cancel (further + 1) 1]
  | @leave top enclosing list found beyond last =>
      have none : top.remaining.toNat - 1 = 0 :=
        Nat.sub_eq_zero_of_le (remaining_of_not_one_lt last)
      rw [left_cons found, leftIn_of_getElem?_eq_none _ beyond, none]
      simp
  | skip found here hollow =>
      rw [left_cons found, left_cons found, leftIn_of_getElem? _ here,
        actions_loop_eq_nil_iff.2 hollow, List.nil_append]
  | @enter top enclosing list count body found here solid =>
      have entered : addressed? program (top :: enclosing) = some body := by
        simp [addressed?, found, here]
      rw [left_cons entered, left_cons found, leftIn_of_getElem? _ here, stepPast,
        left_cons found, leftIn_zero body count.toNat_pos, actions, List.append_assoc]

/-- What every pass preserves holds once a stack is settled, and then there is no pass to make. -/
theorem settle_induction {program : Program} {motive : List Frame → Prop}
    (preserved : ∀ {frames next}, Passes program frames next → motive frames → motive next)
    {frames : List Frame} (holds : motive frames) :
    motive (settle program frames) ∧ pass program (settle program frames) = none := by
  cases moved : pass program frames with
  | none =>
      rw [settle_of_pass_eq_none moved]
      exact ⟨holds, moved⟩
  | some next =>
      have closer := passesLeft_lt_of_pass moved
      rw [settle_of_pass_eq_some moved]
      exact settle_induction preserved (preserved (passes_of_pass moved) holds)
termination_by passesLeft program frames

/-! ## Cursors -/

/-- A cursor that stands in front of the given actions: it is settled, and they are what is left. -/
structure StandsBefore (program : Program) (actions : List Action) (cursor : Cursor) : Prop where
  settled : pass program cursor.frames = none
  left : left program cursor.frames = actions

/-- Settling a stack makes a cursor that stands in front of what was left at the stack. -/
theorem settle_standsBefore {program : Program} {frames : List Frame} {actions : List Action}
    (isLeft : left program frames = actions) :
    StandsBefore program actions ⟨settle program frames⟩ := by
  obtain ⟨stillLeft, settled⟩ :=
    settle_induction (motive := fun frames => left program frames = actions)
      (fun passes holds => passes.left_eq.trans holds) isLeft
  exact ⟨settled, stillLeft⟩

/-- The cursor at the start of a program stands in front of all its actions. -/
theorem start_standsBefore (program : Program) :
    StandsBefore program program.actions (start program) :=
  settle_standsBefore (by simp [left, leftFrom, leftIn, Program.actions])

/-- A cursor that stands in front of actions stands either at the first of them, inside lists that
continue with the others, or, if there are none, nowhere. -/
theorem StandsBefore.cases {program : Program} {actions : List Action} {cursor : Cursor}
    (stands : StandsBefore program actions cursor) :
    (cursor.frames = [] ∧ actions = []) ∨
      ∃ action, cursor.frames ≠ [] ∧ cursor.peek? program = some action ∧
        actions = action :: Cursor.left program (stepPast cursor.frames) := by
  obtain ⟨frames⟩ := cursor
  obtain ⟨settled, rfl⟩ := stands
  rcases pass_eq_none_iff.1 settled with rfl | ⟨action, standsAt⟩
  · exact .inl ⟨rfl, rfl⟩
  · have shown : peek? program ⟨frames⟩ = some action := peek?_eq_some_iff.2 standsAt
    obtain ⟨found, here⟩ := standsAt
    refine .inr ⟨action, by simp, shown, ?_⟩
    rw [stepPast, left_cons found, left_cons found, leftIn_of_getElem? _ here]
    simp [actions]

/-- What a cursor shows is the first of the actions that it stands in front of. -/
theorem StandsBefore.peek? {program : Program} {actions : List Action} {cursor : Cursor}
    (stands : StandsBefore program actions cursor) :
    cursor.peek? program = actions.head? := by
  rcases stands.cases with ⟨noFrame, rfl⟩ | ⟨action, _, shown, rfl⟩
  · simp [Cursor.peek?, noFrame]
  · simpa using shown

/-- A cursor is exhausted when it stands in front of nothing. -/
theorem StandsBefore.isExhausted_iff {program : Program} {actions : List Action} {cursor : Cursor}
    (stands : StandsBefore program actions cursor) :
    cursor.isExhausted = true ↔ actions = [] := by
  rcases stands.cases with ⟨noFrame, rfl⟩ | ⟨action, frames, _, rfl⟩
  · simp [isExhausted, noFrame]
  · simpa [isExhausted] using frames

/-- In front of nothing there is nothing to take, and the cursor stays. -/
theorem StandsBefore.advance_nil {program : Program} {cursor : Cursor}
    (stands : StandsBefore program [] cursor) : cursor.advance program = (none, cursor) := by
  have nothing : cursor.peek? program = none := by simpa using stands.peek?
  simp [advance, nothing]

/-- Taking an action takes the first one and leaves the cursor in front of the others. -/
theorem StandsBefore.advance_cons {program : Program} {action : Action} {rest : List Action}
    {cursor : Cursor} (stands : StandsBefore program (action :: rest) cursor) :
    ∃ next, cursor.advance program = (some action, next) ∧ StandsBefore program rest next := by
  have shown : cursor.peek? program = some action := by simpa using stands.peek?
  refine ⟨⟨settle program (stepPast cursor.frames)⟩, by simp [advance, shown], ?_⟩
  rcases stands.cases with ⟨_, none⟩ | ⟨_, _, _, same⟩
  · simp at none
  · exact settle_standsBefore (List.cons.inj same).2.symm

/-- The results of asking for the next action a number of times, and the cursor after that. -/
def advances (program : Program) (cursor : Cursor) : (calls : Nat) → List (Option Action) × Cursor
  | 0 => ([], cursor)
  | calls + 1 =>
      let (result, next) := cursor.advance program
      let (results, last) := advances program next calls
      (result :: results, last)

/-- In front of nothing, asking any number of times gives nothing and moves nothing. -/
theorem StandsBefore.advances_nil {program : Program} {cursor : Cursor}
    (stands : StandsBefore program [] cursor) (calls : Nat) :
    cursor.advances program calls = (List.replicate calls none, cursor) := by
  induction calls with
  | zero => rfl
  | succ calls inductionHypothesis =>
      simp [advances, stands.advance_nil, inductionHypothesis, List.replicate_succ]

/-- Asking no more often than there are actions gives them in order. -/
theorem StandsBefore.advances {program : Program} {actions : List Action} {cursor : Cursor}
    (stands : StandsBefore program actions cursor) {calls : Nat}
    (within : calls ≤ actions.length) :
    ∃ last, cursor.advances program calls = ((actions.take calls).map some, last) ∧
      StandsBefore program (actions.drop calls) last := by
  induction calls generalizing cursor actions with
  | zero => exact ⟨cursor, by simp [Cursor.advances], by simpa using stands⟩
  | succ calls inductionHypothesis =>
      cases actions with
      | nil => simp at within
      | cons action rest =>
          obtain ⟨next, taken, standsNext⟩ := stands.advance_cons
          obtain ⟨last, results, standsLast⟩ :=
            inductionHypothesis standsNext (by simpa using within)
          exact ⟨last, by simp [Cursor.advances, taken, results], by simpa using standsLast⟩

/-- After any number of calls that the unrolled program has actions for, the calls have given its
first actions in order, the cursor shows the next one and is exhausted only behind the last; from
there every further call gives nothing and leaves the cursor as it is. -/
theorem advances_start (program : Program) (calls : Nat)
    (within : calls ≤ program.actions.length) :
    ∃ cursor,
      (start program).advances program calls =
        ((program.actions.take calls).map some, cursor) ∧
      cursor.peek? program = program.actions[calls]? ∧
      (cursor.peek? program = none ↔ calls = program.actions.length) ∧
      (cursor.isExhausted = true ↔ calls = program.actions.length) ∧
      (calls = program.actions.length → ∀ further,
        cursor.advances program further = (List.replicate further none, cursor)) := by
  obtain ⟨cursor, results, stands⟩ := (start_standsBefore program).advances within
  have behindLast : program.actions.drop calls = [] ↔ calls = program.actions.length := by
    rw [List.drop_eq_nil_iff]
    omega
  have shown : cursor.peek? program = program.actions[calls]? := by
    rw [stands.peek?, List.head?_drop]
  refine ⟨cursor, results, shown, ?_, ?_, ?_⟩
  · rw [stands.peek?, List.head?_eq_none_iff, behindLast]
  · rw [stands.isExhausted_iff, behindLast]
  · intro all further
    rw [behindLast.2 all] at stands
    exact stands.advances_nil further

/-- A loop around a loop, a loop around nothing and an action behind them. -/
def windings : Program :=
  ⟨[.loop ⟨2, by decide⟩ [.act .walk, .loop ⟨2, by decide⟩ [.act .jump]],
    .loop ⟨5, by decide⟩ [.loop ⟨3, by decide⟩ []], .act .light]⟩

theorem advances_start_windings :
    6 ≤ windings.actions.length ∧
      ∃ cursor,
        (start windings).advances windings 6 =
          ([.walk, .jump, .jump, .walk, .jump, .jump].map some, cursor) ∧
        cursor.peek? windings = some .light := by
  have within : 6 ≤ windings.actions.length := by decide
  obtain ⟨cursor, results, shown, _⟩ := advances_start windings 6 within
  exact ⟨within, cursor, results, shown⟩

end Lamplighter.Cursor
