import Lamplighter.Proofs.Editor.Editing

/-!
# Loading a level into the editor and into the game

The editor checks a level as the game does, one fault after the other, but it does not ask for a
lamp; and it brings the tiles of the level over one by one. `Editor.load_eq_error_iff` compares the
faults that both name, and `Editor.load_agrees` also what both make of a level.
-/

namespace Lamplighter

/-- Rows never lack a lamp; they are no rectangle, or they make a grid. -/
theorem Grid.ofLevelRows_ne_noLamps (map : List (List LevelCell)) :
    ofLevelRows map ≠ .error .noLamps := by
  simp only [ofLevelRows, ofRows]
  split
  · simp
  · split <;> simp

namespace Editor

/-- One fault refuses in two places alike, if it is not that there is nothing to light. -/
theorem error_eq_error_iff {α β : Type} {fault failure : LevelError} (notDark : fault ≠ .noLamps) :
    (.error fault : Except LevelError α) = .error failure ↔
      (.error fault : Except LevelError β) = .error failure ∧ failure ≠ .noLamps := by
  rw [Except.error.injEq, Except.error.injEq]
  constructor
  · rintro rfl
    exact ⟨rfl, notDark⟩
  · exact And.left

/-- The editor refuses a level for a fault exactly when the game does, unless the fault is that
there is nothing to light. -/
theorem load_eq_error_iff {editor : Editor} {level : Level} {failure : LevelError} :
    editor.load level = .error failure ↔
      World.load level = .error failure ∧ failure ≠ .noLamps := by
  cases made : Grid.ofLevelRows level.map with
  | error fault =>
      have notDark : fault ≠ .noLamps := by
        rintro rfl
        exact Grid.ofLevelRows_ne_noLamps level.map made
      simpa only [load, World.load, made, bind, Except.bind] using error_eq_error_iff notDark
  | ok grid =>
      cases known : Heading.ofIndex? level.direction with
      | none =>
          have notDark : LevelError.badDirection level.direction ≠ .noLamps := by simp
          simpa only [load, World.load, made, known, bind, Except.bind] using
            error_eq_error_iff notDark
      | some heading =>
          cases inside : grid.contains level.position with
          | false =>
              have notDark : LevelError.spawnOutOfBounds level.position grid.columns grid.rowCount ≠
                .noLamps := by simp
              simpa only [load, World.load, made, known, inside, bind, Except.bind,
                Bool.false_eq_true, if_false, Bool.not_false, if_true] using
                error_eq_error_iff notDark
          | true =>
              -- From here on the editor accepts, and the game can only miss a lamp.
              by_cases dark : grid.lampCount = 0
              · simp [load, World.load, made, known, inside, dark, bind, Except.bind, pure,
                  Except.pure, eq_comm]
              · simp [load, World.load, made, known, inside, dark, bind, Except.bind, pure,
                  Except.pure]

/-- The editor accepts a level exactly when the game does or only misses a lamp in it. -/
theorem exists_load_iff {editor : Editor} {level : Level} :
    (∃ loaded, editor.load level = .ok loaded) ↔
      (∃ world, World.load level = .ok world) ∨ World.load level = .error .noLamps := by
  have refuses := @load_eq_error_iff editor level
  cases accepted : editor.load level with
  | error failure =>
      obtain ⟨refused, notDark⟩ := refuses.1 accepted
      simp [refused, notDark]
  | ok loaded =>
      refine iff_of_true ⟨loaded, rfl⟩ ?_
      cases plays : World.load level with
      | ok world => exact .inl ⟨world, rfl⟩
      | error failure =>
          by_cases dark : failure = .noLamps
          · rw [dark]
            exact .inr rfl
          · simp [refuses.2 ⟨plays, dark⟩] at accepted

/-- The editor and the game agree about every level with fewer than `2 ^ 31` columns and rows,
whatever was edited before. The editor accepts it exactly when the game does or only misses a lamp
in it, and both refuse it for the same reason otherwise. When it is refused, nothing is changed by
the attempt. When it is accepted, the map has the size and the tiles of the level's grid, which is
that of the game, the robot starts as the level says, and the spawn tool takes up this heading; the
tool, the camera and the canvas stay. -/
theorem load_agrees (editor : Editor) {level : Level} (small : level.Small) :
    ((∃ loaded, editor.load level = .ok loaded) ↔
        (∃ world, World.load level = .ok world) ∨ World.load level = .error .noLamps) ∧
      (∀ failure, editor.load level = .error failure ↔
        World.load level = .error failure ∧ failure ≠ .noLamps) ∧
      (∀ failure, editor.load level = .error failure → editor.obey (.load level) = editor) ∧
      ∀ loaded, editor.load level = .ok loaded →
        editor.obey (.load level) = loaded ∧
          ∃ grid heading,
            Grid.ofLevelRows level.map = .ok grid ∧
            Heading.ofIndex? level.direction = some heading ∧
            (∀ world, World.load level = .ok world → world.grid = grid) ∧
            (loaded.columns = grid.columns ∧ loaded.rowCount = grid.rowCount ∧
              ∀ cell, loaded.tile? cell = grid.tile? cell) ∧
            (loaded.spawn = ⟨level.position, heading⟩ ∧ loaded.spawnHeading = heading) ∧
            (loaded.tool = editor.tool ∧ loaded.camera = editor.camera ∧
              loaded.viewport = editor.viewport) := by
  refine ⟨exists_load_iff, fun failure => load_eq_error_iff, ?_, ?_⟩
  · intro failure refused
    simp only [obey, refused]
  · intro loaded accepted
    refine ⟨by simp only [obey, accepted], ?_⟩
    obtain ⟨grid, heading, made, known, inside, rfl⟩ := of_load_eq_ok small accepted
    have rectangular := (Grid.of_ofRows_eq_ok made).2
    have shown := @grid_eq { editor with
      tiles := grid.rows, spawn := ⟨level.position, heading⟩, spawnHeading := heading } grid rfl
      rectangular (Grid.ne_zero_of_contains inside).2
    refine ⟨grid, heading, made, known, ?_, ⟨congrArg Grid.columns shown, rfl, ?_⟩, ⟨rfl, rfl⟩,
      rfl, rfl, rfl⟩
    · intro world loaded
      obtain ⟨other, _, madeOther, _, _, _, rfl⟩ := World.of_load_eq_ok loaded
      exact Except.ok.inj (madeOther.symm.trans made)
    · intro cell
      rw [rectangular.tile?_eq]
      rfl

/-- Two rows of three blocks, with nothing to light. -/
def meadow : Level where
  direction := 2
  position := ⟨2, 1⟩
  map := [[LevelPack.block 1, LevelPack.block 0, LevelPack.block 5],
    [LevelPack.block 0, LevelPack.block 7, LevelPack.block 2]]
  medals := .unset

/-- The meadow replaces a map of another size; with an unknown heading it does not. -/
theorem load_agrees_meadow :
    (meadow.Small ∧ { meadow with direction := 4 }.Small) ∧
      let editor := (new ⟨800, 600⟩).obeyAll sketch
      (World.load meadow = .error .noLamps ∧
        ∃ loaded, editor.obey (.load meadow) = loaded ∧ loaded.columns = 3 ∧ loaded.rowCount = 2 ∧
          loaded.tile? ⟨1, 0⟩ = some (.ground 7) ∧ loaded.spawn = ⟨⟨2, 1⟩, .northWest⟩ ∧
          loaded.tool = .spawn) ∧
      editor.load { meadow with direction := 4 } = .error (.badDirection 4) ∧
        editor.obey (.load { meadow with direction := 4 }) = editor := by
  have small : meadow.Small := ⟨by decide, by decide⟩
  have smallToo : { meadow with direction := 4 }.Small := ⟨by decide, by decide⟩
  obtain ⟨accepts, _, _, loads⟩ := load_agrees ((new ⟨800, 600⟩).obeyAll sketch) small
  obtain ⟨_, refuses, stays, _⟩ := load_agrees ((new ⟨800, 600⟩).obeyAll sketch) smallToo
  have dark : World.load meadow = .error .noLamps := rfl
  obtain ⟨loaded, accepted⟩ := accepts.2 (.inr dark)
  obtain ⟨isLoaded, grid, heading, made, known, _, ⟨columns, rowCount, tiles⟩, spawn, kept⟩ :=
    loads loaded accepted
  have refused := (refuses (.badDirection 4)).2 ⟨rfl, nofun⟩
  obtain rfl : _ = grid := Except.ok.inj made
  obtain rfl : .northWest = heading := Option.some.inj known
  exact ⟨⟨small, smallToo⟩, ⟨dark, loaded, isLoaded, columns, rowCount, tiles _, spawn.1, kept.1⟩,
    refused, stays _ refused⟩

end Editor

end Lamplighter
