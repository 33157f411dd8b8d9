import Lamplighter.Proofs.World.Climb

/-!
# Animations that agree with the world

An animation looks back: it is shown when the world has already changed, and says from where.
`World.Traced` says that the robot can be followed back to the cell that it has come from, and
`World.Shows` collects all that an animation says and that can be checked against the world.
`World.traced_perform` and `World.shows_perform` are why the animation of every action passes.
-/

namespace Lamplighter

/-! ## Heights that are no negative numbers -/

/-- A level all of whose heights are below `2 ^ 31`. -/
def Level.Low (level : Level) : Prop :=
  ∀ row ∈ level.map, ∀ cell ∈ row, cell.height.toNat < 2147483648

instance (level : Level) : Decidable level.Low :=
  inferInstanceAs (Decidable (∀ row ∈ level.map, ∀ cell ∈ row, cell.height.toNat < 2147483648))

/-- A grid all of whose heights are below `2 ^ 31`. -/
def Grid.Low (grid : Grid) : Prop := ∀ tile ∈ grid.tiles, tile.height.toNat < 2147483648

/-- A tile is as high as its cell of the level. -/
theorem Tile.height_ofLevelCell (cell : LevelCell) : (ofLevelCell cell).height = cell.height := by
  unfold ofLevelCell
  split
  · rfl
  · split <;> rfl

/-- A lamp that has been lit up is lit. -/
theorem Tile.isLit_lightUp (tile : Tile) (isLamp : tile.lightUp.isLamp = true) :
    tile.lightUp.isLit = true := by
  obtain ⟨height, kind⟩ := tile
  cases kind with
  | ground => simp [lightUp, Tile.isLamp] at isLamp
  | lamp lit => rfl

namespace Grid

/-- The grid of a low level is low. -/
theorem low_of_ofLevelRows {level : Level} {grid : Grid} (low : level.Low)
    (made : ofLevelRows level.map = .ok grid) : grid.Low := by
  intro tile member
  obtain ⟨row, isRow, cell, isCell, rfl⟩ := exists_of_mem_tiles made member
  rw [Tile.height_ofLevelCell]
  exact low row isRow cell isCell

/-- Lighting lamps changes no height. -/
theorem LitFurther.low {before after : Grid} (further : before.LitFurther after)
    (low : before.Low) : after.Low := by
  intro tile member
  obtain ⟨earlier, isTile, lit⟩ := further.of_mem_tiles member
  rw [lit.height]
  exact low earlier isTile

/-- Where a cell has been changed, its tile has been. -/
theorem tile?_update (grid : Grid) (cell : Cell) (change : Tile → Tile) :
    (grid.update cell change).tile? cell = (grid.tile? cell).map change := by
  cases found : grid.indices? cell with
  | none => simp only [update, tile?, found, Option.map_none]
  | some place =>
      obtain ⟨column, row⟩ := place
      have columns : (grid.update cell change).columns = grid.columns := by
        simp only [update, found]
      have rowCount : (grid.update cell change).rowCount = grid.rowCount := by
        simp only [update, found, Grid.rowCount, List.length_modify]
      have later : (grid.update cell change).indices? cell = some (column, row) := by
        rw [← found]
        simp only [indices?, columns, rowCount]
      have rows : (grid.update cell change).rows =
          grid.rows.modify row fun tiles => tiles.modify column change := by
        simp only [update, found]
      simp only [tile?, later, rows, found, List.getElem?_modify_eq]
      cases grid.rows[row]? with
      | none => rfl
      | some tiles => exact List.getElem?_modify_eq _ _ _

end Grid

/-- The grid of a low level that loads is low. -/
theorem World.low_of_load {level : Level} {world : World} (loaded : load level = .ok world)
    (low : level.Low) : world.grid.Low := by
  obtain ⟨grid, heading, made, _, _, _, rfl⟩ := of_load_eq_ok loaded
  exact Grid.low_of_ofLevelRows low made

/-! ## What an animation says -/

/-- The movements that lead to another cell. -/
def Movement.leading : List Movement := [.walk, .jumpUp, .jumpDown]

/-- An animation leads back to where the robot has come from. -/
structure World.Traced (world : World) (animation : Animation) : Prop where
  duration : animation.duration = animation.movement.duration
  /-- The robot has come here by a step in its direction. -/
  step : animation.movement ∈ Movement.leading → animation.delta.step = world.pose.heading.step
  /-- It has come from a cell of the map. -/
  source : animation.movement ∈ Movement.leading →
    world.grid.contains (world.pose.position - animation.delta.step) = true
  /-- Otherwise it has not moved. -/
  still : animation.movement ∉ Movement.leading → animation.delta = .zero

/-- An animation agrees with the world that it leads to. -/
structure World.Shows (world : World) (animation : Animation) : Prop where
  duration : animation.duration = animation.movement.duration
  /-- The robot has come here by a step in its direction. -/
  step : animation.movement ∈ Movement.leading → animation.delta.step = world.pose.heading.step
  /-- It has come from a cell of the map, which was so much lower or higher. -/
  source : animation.movement ∈ Movement.leading →
    ∃ there here : Int32,
      world.grid.contains (world.pose.position - animation.delta.step) = true ∧
      world.heightAt? (world.pose.position - animation.delta.step) = some there ∧
      world.heightAt? world.pose.position = some here ∧
      animation.delta.climb.toInt = here.toInt - there.toInt
  walk : animation.movement = .walk → animation.delta.climb.toInt.natAbs ≤ 1
  jumpUp : animation.movement = .jumpUp → 0 ≤ animation.delta.climb.toInt
  jumpDown : animation.movement = .jumpDown → animation.delta.climb.toInt < 0
  /-- Otherwise the robot has not moved. -/
  still : animation.movement ∉ Movement.leading → animation.delta = .zero
  blocked : animation.movement = .blocked → world.canWalk world.pose = false
  light : animation.movement = .light →
    ∀ tile, world.grid.tile? world.pose.position = some tile →
      tile.isLamp = true → tile.isLit = true

/-- A step forth and back. -/
theorem Cell.add_sub_cancel (cell step : Cell) : cell + step - step = cell := by
  change (⟨cell.x + step.x - step.x, cell.y + step.y - step.y⟩ : Cell) = cell
  rw [Int32.add_sub_cancel, Int32.add_sub_cancel]

/-- Behind the cell that a robot faces is the one that it stands on. -/
theorem Pose.ahead_sub_step (pose : Pose) : pose.ahead - pose.heading.step = pose.position :=
  Cell.add_sub_cancel _ _

/-- On a low grid any two heights lie on the same side. -/
theorem Grid.Low.sameSide {grid : Grid} (low : grid.Low) {cell other : Cell} {here there : Tile}
    (atHere : grid.tile? cell = some here) (atThere : grid.tile? other = some there) :
    here.SameSide there :=
  iff_of_true (low here (mem_tiles_of_tile? atHere)) (low there (mem_tiles_of_tile? atThere))

/-- On a low grid no climb is the lowest one. -/
theorem Grid.Low.climb_ne_minValue {world : World} {pose : Pose} {climb : Int32}
    (low : world.grid.Low) (climbs : world.climbAhead? pose = some climb) :
    climb ≠ Int32.minValue := by
  obtain ⟨here, there, atHere, atThere⟩ := World.tiles_of_climbAhead? climbs
  rw [World.climbAhead?_eq atHere atThere, Option.some_inj] at climbs
  rw [← climbs]
  exact (low.sameSide atHere atThere).climb_ne_minValue

namespace World

section Forward

variable {world : World} {climb : Int32} (climbs : world.climbAhead? world.pose = some climb)
include climbs

/-- A step forward is shown as one from where the robot stood. -/
theorem traced_stride {movement : Movement} (leads : movement ∈ Movement.leading) :
    (world.moveTo world.pose.ahead).Traced (.of movement (world.stride climb)) := by
  obtain ⟨here, _, atHere, _⟩ := tiles_of_climbAhead? climbs
  refine ⟨rfl, fun _ => rfl, fun _ => ?_, absurd leads⟩
  change world.grid.contains (world.pose.ahead - world.pose.heading.step) = true
  rw [Pose.ahead_sub_step]
  exact Grid.contains_of_tile? atHere

variable (low : world.grid.Low)
include low

/-- A step forward is shown so, by a movement that fits the climb. -/
theorem shows_stride {movement : Movement} (leads : movement ∈ Movement.leading)
    (walk : movement = .walk → climb.toInt.natAbs ≤ 1)
    (jumpUp : movement = .jumpUp → 0 ≤ climb.toInt)
    (jumpDown : movement = .jumpDown → climb.toInt < 0) :
    (world.moveTo world.pose.ahead).Shows (.of movement (world.stride climb)) := by
  have traced := traced_stride climbs leads
  have leadsOn : movement ≠ .blocked ∧ movement ≠ .light := by
    constructor <;> rintro rfl <;> simp [Movement.leading] at leads
  obtain ⟨here, there, atHere, atThere⟩ := tiles_of_climbAhead? climbs
  have exact : (here.climb there).toInt =
      there.height.toInt32.toInt - here.height.toInt32.toInt :=
    (Tile.climb_exact_iff.2 (low.sameSide atHere atThere)).1
  rw [climbAhead?_eq atHere atThere, Option.some_inj] at climbs
  refine ⟨traced.duration, traced.step, fun leads => ?_, walk, jumpUp, jumpDown, traced.still,
    (absurd · leadsOn.1), (absurd · leadsOn.2)⟩
  refine ⟨here.height.toInt32, there.height.toInt32, traced.source leads, ?_, ?_, ?_⟩
  · change world.heightAt? (world.pose.ahead - world.pose.heading.step) = _
    rw [Pose.ahead_sub_step, heightAt?, atHere, Option.map_some]
  · change world.heightAt? world.pose.ahead = _
    rw [heightAt?, atThere, Option.map_some]
  · rw [← exact, climbs]
    rfl

end Forward

/-- A movement on the spot leads nowhere else. -/
theorem traced_still (world : World) {movement : Movement} (still : movement ∉ Movement.leading) :
    world.Traced (.still movement) :=
  ⟨rfl, (absurd · still), (absurd · still), fun _ => rfl⟩

/-- However high the map is, every action is shown such that the robot can be followed back. -/
theorem traced_perform (world : World) (action : Action) :
    (world.perform action).1.Traced (world.perform action).2 := by
  have does := world.performs action
  generalize world.perform action = outcome at does
  cases does with
  | walks climbs _ => exact traced_stride climbs (by decide)
  | cannotWalk _ => exact traced_still _ (by decide)
  | jumpsDown climbs _ => exact traced_stride climbs (by decide)
  | jumpsUp climbs _ => exact traced_stride climbs (by decide)
  | cannotJump _ => exact traced_still _ (by decide)
  | lights => exact traced_still _ (by decide)
  | turnsLeft => exact traced_still _ (by decide)
  | turnsRight => exact traced_still _ (by decide)

/-- A movement on the spot is shown so, if it is neither barred nor lighting. -/
theorem shows_still {world : World} {movement : Movement} (still : movement ∉ Movement.leading)
    (blocked : movement = .blocked → world.canWalk world.pose = false)
    (light : movement = .light →
      ∀ tile, world.grid.tile? world.pose.position = some tile →
        tile.isLamp = true → tile.isLit = true) :
    world.Shows (.still movement) := by
  have stays : ∀ leading ∈ Movement.leading, movement ≠ leading := by
    rintro leading leads rfl
    exact still leads
  refine ⟨rfl, (absurd · still), (absurd · still), ?_, ?_, ?_, fun _ => rfl, blocked, light⟩
  · exact (absurd · (stays .walk (by decide)))
  · exact (absurd · (stays .jumpUp (by decide)))
  · exact (absurd · (stays .jumpDown (by decide)))

/-- Every action is shown such that its animation agrees with the world after it. -/
theorem shows_perform {world : World} (low : world.grid.Low) (action : Action) :
    (world.perform action).1.Shows (world.perform action).2 := by
  have does := world.performs action
  generalize world.perform action = outcome at does
  cases does with
  | walks climbs gentle =>
      have small := (abs_le_one_iff (low.climb_ne_minValue climbs)).1 gentle
      apply shows_stride climbs low (by decide) (fun _ => small) <;> simp
  | cannotWalk barred => exact shows_still (by decide) (fun _ => barred) (by simp)
  | jumpsDown climbs down =>
      rw [Int32.lt_iff_toInt_lt, Int32.toInt_zero] at down
      apply shows_stride climbs low (by decide) <;> simp [down]
  | jumpsUp climbs notDown =>
      rw [Int32.lt_iff_toInt_lt, Int32.toInt_zero, Int.not_lt] at notDown
      apply shows_stride climbs low (by decide) <;> simp [notDown]
  | cannotJump barred =>
      have cannotWalk : world.canWalk world.pose = false := by simp only [canWalk, barred]
      exact shows_still (by decide) (fun _ => cannotWalk) (by simp)
  | lights =>
      refine shows_still (by decide) (by simp) fun _ tile isTile isLamp => ?_
      have changed := (world.grid.tile?_update world.pose.position Tile.lightUp).symm.trans isTile
      obtain ⟨earlier, _, rfl⟩ := Option.map_eq_some_iff.1 changed
      exact earlier.isLit_lightUp isLamp
  | turnsLeft => exact shows_still (by decide) (by simp) (by simp)
  | turnsRight => exact shows_still (by decide) (by simp) (by simp)

end World

end Lamplighter
