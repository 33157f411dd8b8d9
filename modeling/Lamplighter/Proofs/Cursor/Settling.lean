import Lamplighter.Proofs.Cursor.Unrolling

/-!
# Settling comes to an end

Settling pushes, pops, goes back to the start of a list and steps over loops, so nothing that can be
seen of a stack gets smaller all the time. `Cursor.passesLeft` does, by one with every pass, and it
is zero just where there is no pass to make. That holds of any stack, also of one that was made for
another program: `Cursor.settle_ends`.
-/

namespace Lamplighter.Cursor

open Instruction

/-! ## The number of passes -/

/-- A number of passes lead from a stack to another one, from which there is no pass to make. -/
inductive Settles (program : Program) : List Frame → Nat → List Frame → Prop where
  | now {frames : List Frame} (settled : pass program frames = none) :
      Settles program frames 0 frames
  | later {frames next last : List Frame} {passes : Nat}
      (moved : pass program frames = some next) (settles : Settles program next passes last) :
      Settles program frames (passes + 1) last

/-- Where there is no pass to make, none is left. -/
theorem passesLeft_of_pass_eq_none {program : Program} {frames : List Frame}
    (settled : pass program frames = none) : passesLeft program frames = 0 := by
  rcases pass_eq_none_iff.1 settled with rfl | ⟨action, @⟨top, enclosing, list, found, here⟩⟩
  · rfl
  · obtain ⟨inside, isHere⟩ := List.getElem?_eq_some_iff.1 here
    have ahead : list.drop top.index = .act action :: list.drop (top.index + 1) := by
      rw [List.drop_eq_getElem_cons inside, isHere]
    simp [passesLeft_cons, passesFrom_eq _ _ found, passesFrom.settledWithin, ahead,
      passesToAction, passesInto, shownLength, expandsToNothing_act_cons]

/-- A stack is settled by the passes that are left to be made from it. -/
theorem settles_settle (program : Program) (frames : List Frame) :
    Settles program frames (passesLeft program frames) (settle program frames) := by
  cases moved : pass program frames with
  | none =>
      rw [passesLeft_of_pass_eq_none moved, settle_of_pass_eq_none moved]
      exact .now moved
  | some next =>
      have closer := passesLeft_lt_of_pass moved
      rw [passesLeft_of_pass moved, settle_of_pass_eq_some moved]
      exact .later moved (settles_settle program next)
termination_by passesLeft program frames

/-- No other number of passes leads to an end, and none leads to another end. -/
theorem Settles.eq {program : Program} {frames last : List Frame} {passes : Nat}
    (settles : Settles program frames passes last) :
    passes = passesLeft program frames ∧ last = settle program frames := by
  induction settles with
  | now settled =>
      exact ⟨(passesLeft_of_pass_eq_none settled).symm, (settle_of_pass_eq_none settled).symm⟩
  | later moved _ inductionHypothesis =>
      obtain ⟨passes, last⟩ := inductionHypothesis
      exact ⟨by rw [passes, passesLeft_of_pass moved],
        by rw [last, settle_of_pass_eq_some moved]⟩

/-! ## What a pass takes away -/

/-- How often each list of a stack is still to be run, the innermost first. -/
def rounds (frames : List Frame) : List Nat := frames.map (·.remaining.toNat)

/-- What a pass may do to the rounds of a stack, counted in exact numbers. A round is taken away
only where another one is left behind it. -/
inductive SpendsRound : List Nat → List Nat → Prop where
  | lost {counts : List Nat} : SpendsRound counts []
  | again {further : Nat} {outer : List Nat} :
      SpendsRound ((further + 2) :: outer) ((further + 1) :: outer)
  | leave {last : Nat} {outer : List Nat} (few : last ≤ 1) : SpendsRound (last :: outer) outer
  | skip {counts : List Nat} : SpendsRound counts counts
  | enter {times : Nat} {counts : List Nat} (positive : 0 < times) :
      SpendsRound counts (times :: counts)

/-- Going on behind a list keeps the rounds of the lists around it. -/
theorem rounds_stepPast (frames : List Frame) : rounds (stepPast frames) = rounds frames := by
  cases frames <;> rfl

/-- No pass takes a round from a list that has none left. -/
theorem Passes.spendsRound {program : Program} {frames next : List Frame}
    (passes : Passes program frames next) : SpendsRound (rounds frames) (rounds next) := by
  cases passes with
  | lost unknown => exact .lost
  | @again top enclosing list found beyond more =>
      obtain ⟨further, before, after⟩ := remaining_of_one_lt more
      rw [rounds, rounds, List.map_cons, List.map_cons, before, after]
      exact .again
  | @leave top enclosing list found beyond last =>
      rw [rounds_stepPast]
      exact .leave (remaining_of_not_one_lt last)
  | skip found here hollow => exact .skip
  | @enter top enclosing list count body found here solid => exact .enter count.toNat_pos

/-! ## Where settling ends -/

/-- Without frames nothing is stood at. -/
theorem StandsAt.ne_nil {program : Program} {action : Action} {frames : List Frame}
    (standsAt : StandsAt program action frames) : frames ≠ [] := by
  rintro rfl
  cases standsAt

/-- A settled stack is empty or stands at an action. -/
theorem settle_cases (program : Program) (frames : List Frame) :
    settle program frames = [] ∨ ∃ action, StandsAt program action (settle program frames) := by
  have settled :=
    (@settle_induction program (fun _ => True) (fun _ _ => trivial) frames trivial).2
  exact pass_eq_none_iff.1 settled

/-- A cursor that has been settled gives nothing exactly when it is exhausted. -/
theorem advance_settle_eq_none_iff (program : Program) (frames : List Frame) :
    (advance program ⟨settle program frames⟩).1 = none ↔
      isExhausted ⟨settle program frames⟩ = true := by
  rcases settle_cases program frames with noFrame | ⟨action, standsAt⟩
  · simp [noFrame, advance, peek?, isExhausted]
  · have shown : peek? program ⟨settle program frames⟩ = some action :=
      peek?_eq_some_iff.2 standsAt
    simp [advance, shown, isExhausted, standsAt.ne_nil]

/-- For every program and every stack of frames, whatever it was made for: settling ends, after just
as many passes as are counted in advance. No pass takes a round from a list that has none left. In
the end no frame is left, or the innermost one stands at an action, which the cursor then shows. So
behind any action that was taken, nothing is given next exactly when the cursor is exhausted. -/
theorem settle_ends (program : Program) (frames : List Frame) :
    (∀ passes last, Settles program frames passes last ↔
        passes = passesLeft program frames ∧ last = settle program frames) ∧
      (∀ before after, pass program before = some after →
        SpendsRound (rounds before) (rounds after)) ∧
      (settle program frames = [] ∨
        ∃ action, StandsAt program action (settle program frames) ∧
          peek? program ⟨settle program frames⟩ = some action) ∧
      ∀ (cursor next : Cursor) (action : Action), cursor.advance program = (some action, next) →
        ((next.advance program).1 = none ↔ next.isExhausted = true) := by
  refine ⟨fun passes last => ⟨Settles.eq, ?_⟩, ?_, ?_, ?_⟩
  · rintro ⟨rfl, rfl⟩
    exact settles_settle program frames
  · intro before after moved
    exact (passes_of_pass moved).spendsRound
  · rcases settle_cases program frames with noFrame | ⟨action, standsAt⟩
    · exact .inl noFrame
    · exact .inr ⟨action, standsAt, peek?_eq_some_iff.2 standsAt⟩
  · intro cursor next action taken
    rw [advance] at taken
    split at taken
    next => simp at taken
    next =>
      obtain ⟨_, rfl⟩ := Prod.mk.inj taken
      exact advance_settle_eq_none_iff program _

/-- A stack that was made for another program: its inner frame is far behind the loop in which it
stands and has no round left, and its outer frame has as many rounds as there can be. It is settled
at the action behind the loop around nothing, and when that one is taken the program starts over. -/
theorem settle_ends_stale :
    let stale : List Frame := [⟨9, 0⟩, ⟨0, 4294967295⟩]
    let behind : List Frame := [⟨2, 4294967295⟩]
    Settles windings stale 2 behind ∧ StandsAt windings .light behind ∧
      SpendsRound [0, 4294967295] [4294967295] ∧
      ∃ next, advance windings ⟨behind⟩ = (some .light, next) ∧
        next.isExhausted = false ∧ (next.advance windings).1 ≠ none := by
  intro stale behind
  obtain ⟨ends, spends, rest, gives⟩ := settle_ends windings stale
  have settled : settle windings stale = behind := by decide
  have left : pass windings stale = some [⟨1, 4294967295⟩] := by decide
  have taken : advance windings ⟨behind⟩ = (some .light, ⟨[⟨0, 2⟩, ⟨0, 4294967294⟩]⟩) := by decide
  have notExhausted : isExhausted ⟨[⟨0, 2⟩, ⟨0, 4294967294⟩]⟩ = false := rfl
  refine ⟨(ends 2 behind).2 ⟨by decide, settled.symm⟩, ?_, spends _ _ left, _, taken,
    notExhausted, ?_⟩
  · rcases rest with noFrame | ⟨action, standsAt, shown⟩
    · exact absurd (settled.symm.trans noFrame) (List.cons_ne_nil _ _)
    · rw [settled] at standsAt shown
      have isLight : peek? windings ⟨behind⟩ = some .light := by decide
      obtain rfl := Option.some.inj (shown.symm.trans isLight)
      exact standsAt
  · rw [Ne, gives _ _ _ taken, notExhausted]
    exact Bool.false_ne_true

end Lamplighter.Cursor
