import Lamplighter.Proofs.World.Perform

/-!
# Actions without a clock

A list of actions can be taken one after the other with no engine at all. `World.playOut` does so
until every lamp is lit or no action is left, and tells what an engine would tell;
`World.playOut_endsAfter` says where it stops.
-/

namespace Lamplighter.World

/-- The world after some actions, one after the other. -/
def performAll (world : World) : List Action → World
  | [] => world
  | action :: rest => (world.perform action).1.performAll rest

/-- What is told of some actions that start one after the other. -/
def startAll (world : World) : List Action → List EngineEvent
  | [] => []
  | action :: rest =>
      .started action (world.perform action).2 :: (world.perform action).1.startAll rest

/-- Take actions until every lamp is lit. The count of actions goes on from the given one. -/
def playOut (world : World) (executed : UInt32) : List Action → World × List EngineEvent
  | [] => (world, [.finished executed])
  | action :: rest =>
      let (after, animation) := world.perform action
      if after.isSolved then
        (after, [.started action animation, .solved (executed + 1)])
      else
        let (last, events) := after.playOut (executed + 1) rest
        (last, .started action animation :: events)

/-- The level is not solved after any of the actions. -/
def StaysUnsolved (world : World) (actions : List Action) : Prop :=
  ∀ count, 1 ≤ count → count ≤ actions.length →
    (world.performAll (actions.take count)).isSolved = false

/-- The first action does not solve the level, and those behind it do not. -/
theorem StaysUnsolved.of_cons {world : World} {action : Action} {rest : List Action}
    (unsolved : world.StaysUnsolved (action :: rest)) :
    (world.perform action).1.isSolved = false ∧ (world.perform action).1.StaysUnsolved rest := by
  constructor
  · simpa [performAll] using unsolved 1 (Nat.le_refl 1) (by simp)
  · intro count _ within
    simpa [performAll] using unsolved (count + 1) (by omega) (by simpa using within)

/-- Without lighting, nothing changes on the map. -/
theorem grid_performAll {world : World} {actions : List Action} (noLight : .light ∉ actions) :
    (world.performAll actions).grid = world.grid := by
  induction actions generalizing world with
  | nil => rfl
  | cons action rest inductionHypothesis =>
      rw [List.mem_cons, not_or] at noLight
      rw [performAll, inductionHypothesis noLight.2, grid_perform (Ne.symm noLight.1)]

/-- Without lighting, a level is not solved. -/
theorem staysUnsolved_of_no_light {world : World} {actions : List Action}
    (noLight : .light ∉ actions) (unsolved : world.isSolved = false) :
    world.StaysUnsolved actions := by
  intro count _ _
  have still : .light ∉ actions.take count := fun member => noLight (List.mem_of_mem_take member)
  rw [isSolved, grid_performAll still, ← isSolved, unsolved]

/-- Taking actions ends after a number of them, with an event that tells this number: either with
the first action after which every lamp is lit, or with the last one when there is no such action.
Lamps that were lit before the first action do not count. -/
inductive EndsAfter (world : World) (actions : List Action) : Nat → EngineEvent → Prop where
  | solved {count : Nat} {executed : UInt32} (some : 1 ≤ count) (within : count ≤ actions.length)
      (lit : (world.performAll (actions.take count)).isSolved = true)
      (first : ∀ fewer, 1 ≤ fewer → fewer < count →
        (world.performAll (actions.take fewer)).isSolved = false)
      (told : executed.toNat = count) : EndsAfter world actions count (.solved executed)
  | finished {executed : UInt32}
      (never : ∀ count, 1 ≤ count → count ≤ actions.length →
        (world.performAll (actions.take count)).isSolved = false)
      (told : executed.toNat = actions.length) :
      EndsAfter world actions actions.length (.finished executed)

/-- Either the last of these actions is the first one that solves the level, or these are all
actions and none does. -/
theorem EndsAfter.solved_or_finished {world : World} {actions : List Action} {count : Nat}
    {ending : EngineEvent} (endsAfter : world.EndsAfter actions count ending) :
    (∃ before executed, count = before + 1 ∧ ending = .solved executed ∧ before < actions.length ∧
        (world.performAll (actions.take (before + 1))).isSolved = true ∧
        world.StaysUnsolved (actions.take before)) ∨
      ∃ executed, count = actions.length ∧ ending = .finished executed ∧
        world.StaysUnsolved actions := by
  cases endsAfter with
  | @solved _ executed some within lit first told =>
      obtain ⟨before, rfl⟩ : ∃ before, count = before + 1 := ⟨count - 1, by omega⟩
      refine .inl ⟨before, executed, rfl, rfl, within, lit, fun fewer one atMost => ?_⟩
      have short : fewer ≤ before := Nat.le_trans atMost (List.length_take_le _ _)
      rw [List.take_take, Nat.min_eq_left short]
      exact first fewer one (Nat.lt_succ_of_le short)
  | finished never told => exact .inr ⟨_, rfl, rfl, never⟩

/-- There is only one end. -/
theorem EndsAfter.unique {world : World} {actions : List Action} {count other : Nat}
    {ending otherEnding : EngineEvent} (endsAfter : world.EndsAfter actions count ending)
    (endsOther : world.EndsAfter actions other otherEnding) :
    count = other ∧ ending = otherEnding := by
  cases endsAfter with
  | @solved _ executed some within lit first told =>
      cases endsOther with
      | @solved _ otherExecuted someOther withinOther litOther firstOther toldOther =>
          obtain rfl : count = other := by
            rcases Nat.lt_trichotomy count other with fewer | same | more
            · simp [firstOther count some fewer] at lit
            · exact same
            · simp [first other someOther more] at litOther
          obtain rfl : executed = otherExecuted := UInt32.toNat_inj.1 (told.trans toldOther.symm)
          exact ⟨rfl, rfl⟩
      | finished never _ => simp [never count some within] at lit
  | @finished executed never told =>
      cases endsOther with
      | solved some within lit _ _ => simp [never other some within] at lit
      | @finished otherExecuted _ toldOther =>
          obtain rfl : executed = otherExecuted := UInt32.toNat_inj.1 (told.trans toldOther.symm)
          exact ⟨rfl, rfl⟩

/-- Playing out stops at the first action that lights the last lamp, or behind the last action. The
count is the count before, increased by the number of actions taken. -/
theorem playOut_eq (world : World) (executed : UInt32) (actions : List Action) :
    ∃ count,
      (∀ fewer, 1 ≤ fewer → fewer < count →
        (world.performAll (actions.take fewer)).isSolved = false) ∧
      ((1 ≤ count ∧ count ≤ actions.length ∧
          (world.performAll (actions.take count)).isSolved = true ∧
          world.playOut executed actions =
            (world.performAll (actions.take count),
              world.startAll (actions.take count) ++ [.solved (executed + .ofNat count)])) ∨
        (count = actions.length ∧
          (1 ≤ count → (world.performAll (actions.take count)).isSolved = false) ∧
          world.playOut executed actions =
            (world.performAll (actions.take count),
              world.startAll (actions.take count) ++ [.finished (executed + .ofNat count)]))) := by
  induction actions generalizing world executed with
  | nil => exact ⟨0, by simp, .inr (by simp [playOut, performAll, startAll])⟩
  | cons action rest inductionHypothesis =>
      cases solved : (world.perform action).1.isSolved with
      | true =>
          refine ⟨1, ?_, .inl ⟨Nat.le_refl 1, by simp, ?_⟩⟩
          · intro fewer some few
            omega
          · simp [playOut, performAll, startAll, solved]
      | false =>
          obtain ⟨count, unsolved, ends⟩ :=
            inductionHypothesis (world.perform action).1 (executed + 1)
          have further : executed + 1 + .ofNat count = executed + .ofNat (count + 1) := by
            rw [UInt32.ofNat_add, UInt32.add_assoc, UInt32.add_comm 1]
            rfl
          rw [further] at ends
          refine ⟨count + 1, ?_, ?_⟩
          · intro fewer some few
            obtain ⟨fewer, rfl⟩ : ∃ earlier, fewer = earlier + 1 := ⟨fewer - 1, by omega⟩
            cases fewer with
            | zero => simpa [performAll] using solved
            | succ earlier => simpa [performAll] using unsolved (earlier + 1) (by omega) (by omega)
          · rcases ends with ⟨some, within, lit, played⟩ | ⟨all, dark, played⟩
            · refine .inl ⟨by omega, by simpa using within, by simpa [performAll] using lit, ?_⟩
              simp [playOut, solved, played, performAll, startAll]
            · refine .inr ⟨by simpa using all, fun _ => ?_, ?_⟩
              · cases count with
                | zero => simpa [performAll] using solved
                | succ count => simpa [performAll] using dark (by omega)
              · simp [playOut, solved, played, performAll, startAll]

/-- Playing out from a count of zero ends after a number of actions and tells it, as long as there
are not too many of them to count. -/
theorem playOut_endsAfter (world : World) {actions : List Action}
    (countable : actions.length < UInt32.size) :
    ∃ count ending, EndsAfter world actions count ending ∧
      world.playOut 0 actions =
        (world.performAll (actions.take count),
          world.startAll (actions.take count) ++ [ending]) := by
  obtain ⟨count, unsolved, ⟨some, within, lit, played⟩ | ⟨rfl, dark, played⟩⟩ :=
    playOut_eq world 0 actions
  · have told : (0 + UInt32.ofNat count).toNat = count := by
      rw [UInt32.zero_add]
      exact UInt32.toNat_ofNat_of_lt' (Nat.lt_of_le_of_lt within countable)
    exact ⟨count, _, .solved some within lit unsolved told, played⟩
  · have told : (0 + UInt32.ofNat actions.length).toNat = actions.length := by
      rw [UInt32.zero_add]
      exact UInt32.toNat_ofNat_of_lt' countable
    refine ⟨actions.length, _, .finished ?_ told, played⟩
    intro count some within
    rcases Nat.lt_or_eq_of_le within with fewer | rfl
    · exact unsolved count some fewer
    · exact dark some

end Lamplighter.World
