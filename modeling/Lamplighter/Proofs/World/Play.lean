import Lamplighter.LevelPack
import Lamplighter.Proofs.World.Load
import Lamplighter.Proofs.World.Perform

/-!
# Playing on a world

`World.PlayedFrom` is the invariant of play: the robot is on the map, and the grid is the loaded one
except for lamps that have been lit. Everything that can happen to a world keeps it, and it is all
that a reset needs to lead back to the loaded world.
-/

namespace Lamplighter

/-- What can happen to a world. Actions act at the robot's pose; a lamp can also be lit at any other
pose. -/
inductive World.Command where
  | perform (action : Action)
  | turn (turn : Turn)
  | light (pose : Pose)
  | reset
deriving DecidableEq, Repr

namespace World

/-- The world after a command. -/
def obey (world : World) : Command → World
  | .perform action => (world.perform action).1
  | .turn turn => world.turn turn
  | .light pose => world.lightAt pose
  | .reset => world.reset

/-- The world after some commands, one after the other. -/
def obeyAll (world : World) (commands : List Command) : World := commands.foldl obey world

/-- A world that comes from a fresh one by playing. -/
structure PlayedFrom (fresh world : World) : Prop where
  initial : world.initial = fresh.grid
  spawn : world.spawn = fresh.spawn
  grid : fresh.grid.LitFurther world.grid
  inside : world.grid.contains world.pose.position = true

/-- A fresh world comes from itself. -/
theorem Fresh.playedFrom {fresh : World} (isFresh : fresh.Fresh) : fresh.PlayedFrom fresh :=
  ⟨isFresh.initial, rfl, .refl _, isFresh.pose ▸ isFresh.inside⟩

/-- Where the climb ahead is known, there are a tile at the robot and one ahead. -/
theorem tiles_of_climbAhead? {world : World} {pose : Pose} {climb : Int32}
    (climbs : world.climbAhead? pose = some climb) :
    ∃ here there : Tile, world.grid.tile? pose.position = some here ∧
      world.grid.tile? pose.ahead = some there := by
  simp only [climbAhead?] at climbs
  split at climbs
  next knownHere knownThere =>
    obtain ⟨here, atHere, _⟩ := Option.map_eq_some_iff.1 knownHere
    obtain ⟨there, atThere, _⟩ := Option.map_eq_some_iff.1 knownThere
    exact ⟨here, there, atHere, atThere⟩
  next => simp at climbs

/-- Where the climb ahead is known, the cell ahead is on the map. -/
theorem contains_of_climbAhead? {world : World} {pose : Pose} {climb : Int32}
    (climbs : world.climbAhead? pose = some climb) : world.grid.contains pose.ahead = true := by
  obtain ⟨_, there, _, atThere⟩ := tiles_of_climbAhead? climbs
  exact Grid.contains_of_tile? atThere

/-- An action lights lamps, and nothing else on the grid changes. -/
theorem litFurther_perform (world : World) (action : Action) :
    world.grid.LitFurther (world.perform action).1.grid := by
  have does := world.performs action
  generalize world.perform action = outcome at does
  cases does with
  | lights => exact world.grid.litFurther_update _
  | _ => exact .refl _

section Preservation

variable {fresh world : World} (played : fresh.PlayedFrom world)
include played

/-- Resetting a world leads back to the fresh one. -/
theorem PlayedFrom.reset_eq (isFresh : fresh.Fresh) : world.reset = fresh := by
  obtain ⟨grid, initial, spawn, pose⟩ := fresh
  obtain rfl : initial = grid := isFresh.initial
  obtain rfl : pose = spawn := isFresh.pose
  simp only [reset, played.initial, played.spawn]

theorem PlayedFrom.turn (turn : Turn) : fresh.PlayedFrom (world.turn turn) :=
  ⟨played.initial, played.spawn, played.grid, played.inside⟩

theorem PlayedFrom.lightAt (pose : Pose) : fresh.PlayedFrom (world.lightAt pose) where
  initial := played.initial
  spawn := played.spawn
  grid := played.grid.trans (world.grid.litFurther_update _)
  inside := by
    rw [← played.inside]
    exact (world.grid.litFurther_update _).contains _

/-- A robot may be put on any cell of the map. -/
theorem PlayedFrom.moveTo {cell : Cell} (onMap : world.grid.contains cell = true) :
    fresh.PlayedFrom (world.moveTo cell) :=
  ⟨played.initial, played.spawn, played.grid, onMap⟩

/-- No action leaves the map. -/
theorem PlayedFrom.perform (action : Action) : fresh.PlayedFrom (world.perform action).1 := by
  have does := world.performs action
  generalize world.perform action = outcome at does
  cases does with
  | walks climbs _ => exact played.moveTo (contains_of_climbAhead? climbs)
  | cannotWalk _ => exact played
  | jumpsDown climbs _ => exact played.moveTo (contains_of_climbAhead? climbs)
  | jumpsUp climbs _ => exact played.moveTo (contains_of_climbAhead? climbs)
  | cannotJump _ => exact played
  | lights => exact played.lightAt _
  | turnsLeft => exact played.turn .left
  | turnsRight => exact played.turn .right

theorem PlayedFrom.obey (isFresh : fresh.Fresh) (command : Command) :
    fresh.PlayedFrom (world.obey command) := by
  cases command with
  | perform action => exact played.perform action
  | turn turn => exact played.turn turn
  | light pose => exact played.lightAt pose
  | reset =>
      rw [World.obey, played.reset_eq isFresh]
      exact isFresh.playedFrom

theorem PlayedFrom.obeyAll (isFresh : fresh.Fresh) (commands : List Command) :
    fresh.PlayedFrom (world.obeyAll commands) := by
  induction commands generalizing world with
  | nil => exact played
  | cons command rest inductionHypothesis =>
      exact inductionHypothesis (played.obey isFresh command)

end Preservation

/-- No command but a reset puts a lamp out. -/
theorem litFurther_obey (world : World) {command : Command} (noReset : command ≠ .reset) :
    world.grid.LitFurther (world.obey command).grid := by
  cases command with
  | perform action => exact world.litFurther_perform action
  | turn turn => exact .refl _
  | light pose => exact world.grid.litFurther_update _
  | reset => exact absurd rfl noReset

/-- Between two resets no lamp goes out. -/
theorem litFurther_obeyAll (world : World) {commands : List Command}
    (noReset : .reset ∉ commands) : world.grid.LitFurther (world.obeyAll commands).grid := by
  induction commands generalizing world with
  | nil => exact .refl _
  | cons command rest inductionHypothesis =>
      rw [List.mem_cons, not_or] at noReset
      exact (world.litFurther_obey (Ne.symm noReset.1)).trans (inductionHypothesis _ noReset.2)

/-- Whatever is done on a loaded level: the robot is on the map, and any action moves it to a cell
of the map; the grid is the loaded rectangle, with the same tiles, of which lamps may have been lit;
no lamp goes out before the next reset; the level is solved when as many lamps are lit as there are;
and a reset leads back to the world as it was loaded, which is not solved. -/
theorem obeyAll_of_load {level : Level} {world : World} (loaded : load level = .ok world)
    (commands : List Command) :
    let current := world.obeyAll commands
    (current.grid.contains current.pose.position = true ∧
        ∀ action, current.grid.contains (current.perform action).1.pose.position = true) ∧
      (current.grid.columns = world.grid.columns ∧ current.grid.rowCount = world.grid.rowCount ∧
        current.grid.Rectangular) ∧
      world.grid.LitFurther current.grid ∧
      (∀ later, .reset ∉ later → current.grid.LitFurther (current.obeyAll later).grid) ∧
      (current.litCount ≤ current.lampCount ∧
        (current.isSolved = true ↔ current.litCount = current.lampCount)) ∧
      (current.spawn = world.spawn ∧ current.initial = world.grid) ∧
      current.reset = world ∧ world.isSolved = false := by
  intro current
  have isFresh := fresh_of_load loaded
  have played : world.PlayedFrom current := isFresh.playedFrom.obeyAll isFresh commands
  refine ⟨⟨played.inside, ?_⟩, ⟨?_, ?_, ?_⟩, played.grid, ?_, ⟨?_, ?_⟩, ⟨?_, ?_⟩, ?_, ?_⟩
  · intro action
    rw [← (current.litFurther_perform action).contains]
    exact (played.perform action).inside
  · exact played.grid.columns
  · exact played.grid.rowCount
  · exact played.grid.rectangular isFresh.rectangular
  · exact fun later noReset => current.litFurther_obeyAll noReset
  · exact current.grid.litCount_le_lampCount
  · exact current.grid.allLit_iff
  · exact played.spawn
  · exact played.initial
  · exact played.reset_eq isFresh
  · exact isFresh.unsolved

theorem obeyAll_of_load_corner :
    ∃ world, load LevelPack.corner = .ok world ∧
      let current := world.obeyAll
        [.perform .walk, .light ⟨⟨2, 2⟩, .northEast⟩, .turn .left, .perform .walk, .perform .jump]
      current.grid.contains current.pose.position = true ∧ current.reset = world ∧
        current.pose = ⟨⟨1, 2⟩, .northWest⟩ ∧ current.litCount = 1 ∧ current.lampCount = 2 := by
  refine ⟨_, rfl, ?_⟩
  obtain ⟨⟨inside, _⟩, _, _, _, _, _, again, _⟩ := @obeyAll_of_load LevelPack.corner _ rfl
    [.perform .walk, .light ⟨⟨2, 2⟩, .northEast⟩, .turn .left, .perform .walk, .perform .jump]
  exact ⟨inside, again, by decide⟩

end World

end Lamplighter
