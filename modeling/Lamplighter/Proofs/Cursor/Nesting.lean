import Lamplighter.Proofs.Cursor.Settling

/-!
# How the frames of a cursor nest

A cursor that was made for a program never loses its way in it: every frame but the outermost runs
the body of the loop at which the frame around it points, at most as often as the loop says. While
the stack is being settled a frame may point behind the end of its list, so `Cursor.Nested` says
nothing about places; `Cursor.nested_of_advances` adds them for every cursor at which a caller can
look.
-/

namespace Lamplighter.Cursor

open Instruction

/-! ## The place of a frame -/

/-- How a frame belongs to the frames around it. The outermost one runs the program once. Any other
one runs the body of the loop at which the next frame points, in one of the rounds of the loop. -/
inductive Belongs (program : Program) (frame : Frame) : (enclosing : List Frame) → Prop where
  | outermost (once : frame.remaining = 1) : Belongs program frame []
  | inLoop {parent : Frame} {outer : List Frame} {list body : List Instruction} {count : LoopCount}
      (found : addressed? program outer = some list)
      (pointsAt : list[parent.index]? = some (.loop count body))
      (entered : addressed? program (parent :: outer) = some body)
      (positive : 1 ≤ frame.remaining) (within : frame.remaining ≤ count.times) :
      Belongs program frame (parent :: outer)

/-- Every frame of a stack belongs to the frames around it. -/
def Nested (program : Program) : List Frame → Prop
  | [] => True
  | frame :: enclosing => Belongs program frame enclosing ∧ Nested program enclosing

/-- A frame that belongs to others has a round to run. -/
theorem Belongs.one_le {program : Program} {frame : Frame} {enclosing : List Frame}
    (belongs : Belongs program frame enclosing) : 1 ≤ frame.remaining := by
  cases belongs with
  | outermost once => exact once ▸ UInt32.le_refl _
  | inLoop _ _ _ positive => exact positive

/-- A frame at any other place belongs to the same frames while it has a round to run, and no more
of them. -/
theorem Belongs.of_le {program : Program} {frame other : Frame} {enclosing : List Frame}
    (belongs : Belongs program frame enclosing) (positive : 1 ≤ other.remaining)
    (fewer : other.remaining ≤ frame.remaining) : Belongs program other enclosing := by
  cases belongs with
  | outermost once => exact .outermost (UInt32.le_antisymm (once ▸ fewer) positive)
  | inLoop found pointsAt entered _ within =>
      exact .inLoop found pointsAt entered positive (UInt32.le_trans fewer within)

/-- A frame that belongs to others stands in a list. -/
theorem Belongs.exists_list {program : Program} {frame : Frame} {enclosing : List Frame}
    (belongs : Belongs program frame enclosing) :
    ∃ list, addressed? program enclosing = some list := by
  cases belongs with
  | outermost => exact ⟨program.instructions, rfl⟩
  | inLoop _ _ entered => exact ⟨_, entered⟩

/-- The frames around some frames nest as well. -/
theorem Nested.of_append {program : Program} {inner frames : List Frame}
    (nested : Nested program (inner ++ frames)) : Nested program frames := by
  induction inner with
  | nil => exact nested
  | cons frame rest inductionHypothesis => exact inductionHypothesis nested.2

/-! ## Settling keeps frames nested -/

/-- Going on behind a list keeps the frames around it nested. -/
theorem Nested.stepPast {program : Program} {frames : List Frame} (nested : Nested program frames) :
    Nested program (stepPast frames) := by
  cases frames with
  | nil => exact nested
  | cons frame outer => exact ⟨nested.1.of_le nested.1.one_le (UInt32.le_refl _), nested.2⟩

/-- A pass keeps frames nested. -/
theorem Passes.nested {program : Program} {frames next : List Frame}
    (passes : Passes program frames next) (nested : Nested program frames) :
    Nested program next := by
  cases passes with
  | lost => exact trivial
  | @again top enclosing list found beyond more =>
      obtain ⟨further, before, after⟩ := remaining_of_one_lt more
      refine ⟨nested.1.of_le ?_ ?_, nested.2⟩
      · rw [UInt32.le_iff_toNat_le, after]
        exact Nat.le_add_left _ _
      · rw [UInt32.le_iff_toNat_le, after, before]
        exact Nat.le_succ _
  | leave => exact nested.2.stepPast
  | skip => exact ⟨nested.1.of_le nested.1.one_le (UInt32.le_refl _), nested.2⟩
  | @enter top enclosing list count body found here solid =>
      have entered : addressed? program (top :: enclosing) = some body := by
        simp [addressed?, found, here]
      have positive : 1 ≤ count.times := by
        rw [UInt32.le_iff_toNat_le]
        exact count.toNat_pos
      exact ⟨.inLoop found here entered positive (UInt32.le_refl _), nested⟩

/-- A cursor that can be looked at: its frames nest, and there is no pass to make. -/
structure Poised (program : Program) (cursor : Cursor) : Prop where
  nested : Nested program cursor.frames
  settled : pass program cursor.frames = none

/-- Settling nested frames makes such a cursor. -/
theorem Nested.poised_settle {program : Program} {frames : List Frame}
    (nested : Nested program frames) : Poised program ⟨settle program frames⟩ := by
  obtain ⟨stillNested, settled⟩ :=
    settle_induction (motive := Nested program) (fun passes holds => passes.nested holds) nested
  exact ⟨stillNested, settled⟩

/-- The cursor at the start of a program is one. -/
theorem poised_start (program : Program) : Poised program (start program) := by
  have first : Nested program [⟨0, 1⟩] := ⟨.outermost rfl, trivial⟩
  exact first.poised_settle

/-- Asking for the next action leaves one behind. -/
theorem Poised.advance {program : Program} {cursor : Cursor} (poised : Poised program cursor) :
    Poised program (cursor.advance program).2 := by
  rw [Cursor.advance]
  split
  next => exact poised
  next => exact poised.nested.stepPast.poised_settle

/-- So does asking any number of times. -/
theorem Poised.advances {program : Program} {cursor : Cursor} (poised : Poised program cursor)
    (calls : Nat) : Poised program (cursor.advances program calls).2 := by
  induction calls generalizing cursor with
  | zero => exact poised
  | succ calls inductionHypothesis => exact inductionHypothesis poised.advance

/-! ## Where the frames stand -/

/-- Frames that nest and are settled point into their lists: the innermost one at an action, and
every other one at the loop that the next inner one runs. -/
theorem Poised.exists_place {program : Program} {cursor : Cursor} (poised : Poised program cursor)
    {inner enclosing : List Frame} {frame : Frame}
    (divided : cursor.frames = inner ++ frame :: enclosing) :
    ∃ list, addressed? program enclosing = some list ∧ frame.index < list.length := by
  obtain ⟨nested, settled⟩ := poised
  rcases List.eq_nil_or_concat inner with rfl | ⟨further, child, rfl⟩
  · rw [divided, List.nil_append] at settled
    rcases pass_eq_none_iff.1 settled with noFrame | ⟨action, found, here⟩
    · exact absurd noFrame (List.cons_ne_nil _ _)
    · exact ⟨_, found, (List.getElem?_eq_some_iff.1 here).1⟩
  · rw [divided, List.concat_eq_append, List.append_assoc, List.singleton_append] at nested
    cases nested.of_append.1 with
    | inLoop found pointsAt => exact ⟨_, found, (List.getElem?_eq_some_iff.1 pointsAt).1⟩

/-- A cursor that is not exhausted stands at an action. -/
theorem Poised.exists_standsAt {program : Program} {cursor : Cursor}
    (poised : Poised program cursor) (more : cursor.isExhausted = false) :
    ∃ action, StandsAt program action cursor.frames := by
  rcases pass_eq_none_iff.1 poised.settled with noFrame | standsAt
  · simp [isExhausted, noFrame] at more
  · exact standsAt

/-- A cursor shows an action exactly when it is not exhausted. -/
theorem Poised.isSome_peek?_iff {program : Program} {cursor : Cursor}
    (poised : Poised program cursor) :
    (cursor.peek? program).isSome = true ↔ cursor.isExhausted = false := by
  constructor
  · intro shown
    obtain ⟨action, isShown⟩ := Option.isSome_iff_exists.1 shown
    have someFrame := (peek?_eq_some_iff.1 isShown).ne_nil
    simpa [isExhausted] using someFrame
  · intro more
    obtain ⟨action, standsAt⟩ := poised.exists_standsAt more
    rw [peek?_eq_some_iff.2 standsAt, Option.isSome_some]

/-! ## Depth -/

/-- An instruction of a list nests no deeper than the list. -/
theorem depth_le_depthOf {list : List Instruction} {instruction : Instruction}
    (member : instruction ∈ list) : instruction.depth ≤ depthOf list := by
  induction list with
  | nil => simp at member
  | cons first rest inductionHypothesis =>
      rw [depthOf]
      rcases List.mem_cons.1 member with rfl | behind
      · exact Nat.le_max_left _ _
      · exact Nat.le_trans (inductionHypothesis behind) (Nat.le_max_right _ _)

/-- Every frame around a list is inside one more loop than the list may nest in itself. -/
theorem length_add_depthOf_le {program : Program} {enclosing : List Frame}
    {list : List Instruction} (found : addressed? program enclosing = some list) :
    enclosing.length + depthOf list ≤ program.depth := by
  induction enclosing generalizing list with
  | nil =>
      obtain rfl : program.instructions = list := by simpa [addressed?] using found
      rw [List.length_nil, Nat.zero_add]
      exact Nat.le_refl _
  | cons frame outer inductionHypothesis =>
      rw [addressed?] at found
      split at found
      next => simp at found
      next around isAround =>
        split at found
        next count body here =>
          obtain rfl := Option.some.inj found
          have deeper := depth_le_depthOf (List.mem_of_getElem? here)
          have outside := inductionHypothesis isAround
          rw [Instruction.depth] at deeper
          rw [List.length_cons]
          omega
        next => simp at found

/-- A stack that nests is no deeper than the program. -/
theorem Nested.depth_le {program : Program} {cursor : Cursor}
    (nested : Nested program cursor.frames) : cursor.depth ≤ program.depth := by
  obtain ⟨frames⟩ := cursor
  cases frames with
  | nil => exact Nat.zero_le _
  | cons frame enclosing =>
      obtain ⟨list, found⟩ := nested.1.exists_list
      have inside := length_add_depthOf_le found
      rw [Cursor.depth, List.length_cons, Nat.add_sub_cancel]
      omega

/-! ## Cursors that are reached -/

/-- For every program and every cursor that taking actions leads to from its start: each frame
belongs to the frames around it and stands inside its list, the innermost one at an action unless
the cursor is exhausted. So the cursor is inside no more loops than the program nests, and it shows
an action exactly when it is not exhausted. -/
theorem nested_of_advances (program : Program) (calls : Nat) :
    let cursor := ((start program).advances program calls).2
    (∀ inner frame enclosing, cursor.frames = inner ++ frame :: enclosing →
        Belongs program frame enclosing ∧
          ∃ list, addressed? program enclosing = some list ∧ frame.index < list.length) ∧
      (cursor.isExhausted = false → ∃ action, StandsAt program action cursor.frames) ∧
      cursor.depth ≤ program.depth ∧
      ((cursor.peek? program).isSome = true ↔ cursor.isExhausted = false) := by
  intro cursor
  have poised : Poised program cursor := (poised_start program).advances calls
  refine ⟨?_, poised.exists_standsAt, poised.nested.depth_le, poised.isSome_peek?_iff⟩
  intro inner frame enclosing divided
  have nested := poised.nested
  rw [divided] at nested
  exact ⟨nested.of_append.1, poised.exists_place divided⟩

/-- Behind the first action the inner loop is entered, for both of its rounds, in the first round of
the outer one. -/
theorem nested_of_advances_windings :
    let cursor := ((start windings).advances windings 1).2
    cursor.frames = [⟨0, 2⟩, ⟨1, 2⟩, ⟨0, 1⟩] ∧
      Belongs windings ⟨0, 2⟩ [⟨1, 2⟩, ⟨0, 1⟩] ∧ Belongs windings ⟨1, 2⟩ [⟨0, 1⟩] ∧
      StandsAt windings .jump cursor.frames ∧ cursor.depth = 2 ∧ windings.depth = 2 := by
  intro cursor
  obtain ⟨belongs, standsAt, _⟩ := nested_of_advances windings 1
  have frames : cursor.frames = [⟨0, 2⟩, ⟨1, 2⟩, ⟨0, 1⟩] := by decide
  have notExhausted : cursor.isExhausted = false := by decide
  have isJump : cursor.peek? windings = some .jump := by decide
  obtain ⟨action, isAction⟩ := standsAt notExhausted
  obtain rfl := Option.some.inj ((peek?_eq_some_iff.2 isAction).symm.trans isJump)
  exact ⟨frames, (belongs [] _ _ frames).1, (belongs [⟨0, 2⟩] _ _ frames).1, isAction,
    congrArg (·.length - 1) frames, by decide⟩

end Lamplighter.Cursor
