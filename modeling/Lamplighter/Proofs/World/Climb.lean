import Lamplighter.Overflow
import Lamplighter.Proofs.World.Play

/-!
# How high the next cell is

The height of a tile is a number below `2 ^ 32`, but a climb is taken between signed numbers of 32
bits, and heights from `2 ^ 31` on are negative there. A climb is what the map says it is exactly
when the two heights lie on the same side of `2 ^ 31`, `World.climb_exact_iff`; between the others
the arithmetic overflows or comes to another number.
-/

namespace Lamplighter

/-! ## Two heights -/

/-- The size of a climb is that of the number, but for the lowest climb. -/
theorem abs_le_one_iff {climb : Int32} (notLowest : climb ≠ Int32.minValue) :
    climb.abs ≤ 1 ↔ climb.toInt.natAbs ≤ 1 := by
  have notMin : climb.toBitVec ≠ BitVec.intMin 32 :=
    fun lowest => notLowest (Int32.toBitVec_inj.1 lowest)
  have size : climb.abs.toInt = climb.toInt.natAbs := by
    rw [← Int32.toInt_toBitVec, Int32.toBitVec_abs, BitVec.toInt_abs_eq_natAbs, if_neg notMin,
      Int32.toInt_toBitVec]
  rw [Int32.le_iff_toInt_le, size]
  exact Int.ofNat_le

/-- A height as a signed number. -/
theorem toInt_toInt32 (height : UInt32) :
    height.toInt32.toInt =
      if height.toNat < 2147483648 then (height.toNat : Int) else height.toNat - 4294967296 := by
  have small := height.toNat_lt
  rw [← Int32.toInt_toBitVec, UInt32.toBitVec_toInt32, BitVec.toInt_eq_toNat_cond,
    UInt32.toNat_toBitVec]
  split <;> split <;> omega

namespace Tile

/-- How much higher another tile is. -/
def rise (here there : Tile) : Int := (there.height.toNat : Int) - here.height.toNat

/-- The heights of two tiles are both below `2 ^ 31`, or neither is. -/
def SameSide (here there : Tile) : Prop :=
  here.height.toNat < 2147483648 ↔ there.height.toNat < 2147483648

instance (here there : Tile) : Decidable (here.SameSide there) :=
  inferInstanceAs (Decidable (_ ↔ _))

/-- The climb from a tile to another, as the engine takes it. -/
def climb (here there : Tile) : Int32 := there.height.toInt32 - here.height.toInt32

section TwoTiles

variable {here there : Tile}

/-- On the same side, and only there, the signed heights are as far apart as the heights. -/
theorem sameSide_iff :
    here.SameSide there ↔
      there.height.toInt32.toInt - here.height.toInt32.toInt = here.rise there := by
  rw [toInt_toInt32, toInt_toInt32]
  unfold SameSide rise
  have smallHere := here.height.toNat_lt
  have smallThere := there.height.toNat_lt
  split <;> split <;> omega

/-- Heights on the same side differ by less than `2 ^ 31`. -/
theorem SameSide.rise_bounds (same : here.SameSide there) :
    -2147483648 < here.rise there ∧ here.rise there < 2147483648 := by
  have smallHere := here.height.toNat_lt
  have smallThere := there.height.toNat_lt
  unfold SameSide at same
  unfold rise
  omega

/-- On the same side the climb is exact. -/
theorem SameSide.toInt_climb (same : here.SameSide there) :
    (here.climb there).toInt = here.rise there := by
  have bounds := same.rise_bounds
  rw [climb, Int32.toInt_sub, sameSide_iff.1 same]
  exact Int.bmod_eq_of_le (by omega) (by omega)

/-- On the same side no climb is the lowest one. -/
theorem SameSide.climb_ne_minValue (same : here.SameSide there) :
    here.climb there ≠ Int32.minValue := by
  rw [Ne, ← Int32.toInt_inj, same.toInt_climb, Int32.toInt_minValue]
  exact Int.ne_of_gt same.rise_bounds.1

/-- The climb is the difference of the signed heights and exact on the same side, and only there. -/
theorem climb_exact_iff :
    ((here.climb there).toInt = there.height.toInt32.toInt - here.height.toInt32.toInt ∧
      (here.climb there).toInt = here.rise there) ↔ here.SameSide there := by
  constructor
  · rintro ⟨fits, exact⟩
    exact sameSide_iff.2 (fits.symm.trans exact)
  · intro same
    exact ⟨same.toInt_climb.trans (sameSide_iff.1 same).symm, same.toInt_climb⟩

end TwoTiles

end Tile

/-! ## The cell ahead -/

/-- A step goes along one of the two axes, and by one. -/
theorem Heading.step_toInt (heading : Heading) :
    heading.step.x.toInt.natAbs + heading.step.y.toInt.natAbs = 1 := by
  cases heading <;> decide

namespace Pose

/-- A robot never looks at the cell on which it stands. -/
theorem ahead_ne_position (pose : Pose) : pose.ahead ≠ pose.position := by
  obtain ⟨⟨x, y⟩, heading⟩ := pose
  intro same
  obtain ⟨sameX, sameY⟩ := Cell.mk.inj same
  cases heading <;> simp only [Heading.step] at sameX sameY <;> grind

/-- From a coordinate that is not negative, a step by one is exact if it does not come to a negative
one, or if there is room ahead. -/
theorem toInt_step {place step : Int32} (short : step.toInt.natAbs ≤ 1) (positive : 0 ≤ place.toInt)
    (room : 0 ≤ (place + step).toInt ∨ place.toInt + 1 < 2147483648) :
    (place + step).toInt = place.toInt + step.toInt := by
  have limit := place.toInt_lt
  rw [Int32.toInt_add, Int.bmod_eq_emod] at room ⊢
  split <;> split at room <;> omega

/-- Where neither coordinate is negative and both have room ahead, a step overflows in neither. -/
theorem aheadOverflows_eq_false {pose : Pose}
    (here : 0 ≤ pose.position.x.toInt ∧ 0 ≤ pose.position.y.toInt)
    (roomX : 0 ≤ pose.ahead.x.toInt ∨ pose.position.x.toInt + 1 < 2147483648)
    (roomY : 0 ≤ pose.ahead.y.toInt ∨ pose.position.y.toInt + 1 < 2147483648) :
    pose.aheadOverflows = false := by
  have step := pose.heading.step_toInt
  have exactX := toInt_step (by omega) here.1 roomX
  have exactY := toInt_step (by omega) here.2 roomY
  simp only [aheadOverflows, Bool.or_eq_false_iff, decide_eq_false_iff_not, not_not]
  exact ⟨exactX, exactY⟩

end Pose

namespace World

section TwoTiles

variable {world : World} {pose : Pose} {here there : Tile}
  (atHere : world.grid.tile? pose.position = some here)
  (atThere : world.grid.tile? pose.ahead = some there)
include atHere atThere

/-- The climb ahead of a pose is that from its tile to the next. -/
theorem climbAhead?_eq : world.climbAhead? pose = some (here.climb there) := by
  simp [climbAhead?, heightAt?, atHere, atThere, Tile.climb]

/-- On the map, taking the climb overflows only in the difference of the heights. -/
theorem climbOverflows_eq_false_iff :
    world.climbOverflows pose = false ↔
      (here.climb there).toInt = there.height.toInt32.toInt - here.height.toInt32.toInt := by
  have insideHere := Grid.of_contains (Grid.contains_of_tile? atHere)
  have insideThere := Grid.of_contains (Grid.contains_of_tile? atThere)
  have noOverflow := Pose.aheadOverflows_eq_false ⟨insideHere.1.1, insideHere.2.1.1⟩
    (.inl insideThere.1.1) (.inl insideThere.2.1.1)
  simp [climbOverflows, heightAt?, atHere, atThere, noOverflow, Tile.climb]

/-- The climb ahead is what the map says exactly when both heights lie on the same side. -/
theorem climb_exact_iff :
    (world.climbOverflows pose = false ∧
        ∃ climb, world.climbAhead? pose = some climb ∧ climb.toInt = here.rise there) ↔
      here.SameSide there := by
  simp [climbOverflows_eq_false_iff atHere atThere, climbAhead?_eq atHere atThere,
    Tile.climb_exact_iff]

variable (same : here.SameSide there)
include same

/-- A robot can walk to a cell that is at most one step higher or lower. -/
theorem canWalk_iff : world.canWalk pose = true ↔ (here.rise there).natAbs ≤ 1 := by
  rw [canWalk, climbAhead?_eq atHere atThere, ← same.toInt_climb,
    ← abs_le_one_iff same.climb_ne_minValue]
  exact decide_eq_true_iff

/-- Neither taking the climb nor its size overflows. -/
theorem canWalkOverflows_eq_false : world.canWalkOverflows pose = false := by
  have exact := (climbOverflows_eq_false_iff atHere atThere).2 (Tile.climb_exact_iff.2 same).1
  simp [canWalkOverflows, climbAhead?_eq atHere atThere, exact, same.climb_ne_minValue]

end TwoTiles

section Forward

variable {world : World} {here there : Tile}
  (atHere : world.grid.tile? world.pose.position = some here)
  (atThere : world.grid.tile? world.pose.ahead = some there) (same : here.SameSide there)
include atHere atThere same

/-- Walking moves the robot where the climb is gentle, and is blocked elsewhere. -/
theorem perform_walk :
    world.perform .walk =
      if (here.rise there).natAbs ≤ 1 then
        (world.moveTo world.pose.ahead, .of .walk (world.stride (here.climb there)))
      else
        (world, .still .blocked) := by
  simp only [perform, canWalk_iff atHere atThere same,
    stepForward_eq (climbAhead?_eq atHere atThere)]

/-- Jumping moves the robot, downwards exactly where the next cell is lower. -/
theorem perform_jump :
    world.perform .jump =
      (world.moveTo world.pose.ahead,
        .of (if here.rise there < 0 then .jumpDown else .jumpUp)
          (world.stride (here.climb there))) := by
  simp [perform, climbAhead?_eq atHere atThere, stepForward_eq (climbAhead?_eq atHere atThere),
    Int32.lt_iff_toInt_lt, same.toInt_climb]

end Forward

/-- Whatever is done on a loaded level, the climb to a cell of the map in front of the robot is
taken without an overflow and is the difference of the two heights exactly when both heights lie on
the same side of `2 ^ 31`. There, neither walking nor jumping overflows; walking leads to another
cell exactly when the heights differ by at most one, and is blocked and changes nothing otherwise;
and jumping leads to the cell ahead, downwards exactly when that is lower. -/
theorem climb_of_load {level : Level} {world : World} (loaded : load level = .ok world)
    (commands : List Command) :
    let current := world.obeyAll commands
    let pose := current.pose
    current.grid.contains pose.ahead = true →
      ∃ here there : Tile,
        (current.grid.tile? pose.position = some here ∧
          current.grid.tile? pose.ahead = some there) ∧
        ((current.climbOverflows pose = false ∧
            ∃ climb, current.climbAhead? pose = some climb ∧ climb.toInt = here.rise there) ↔
          here.SameSide there) ∧
        (here.SameSide there →
          (current.performOverflows .walk = false ∧ current.performOverflows .jump = false) ∧
          ((current.perform .walk).1.pose.position ≠ pose.position ↔
            (here.rise there).natAbs ≤ 1) ∧
          (1 < (here.rise there).natAbs → current.perform .walk = (current, .still .blocked)) ∧
          (current.perform .jump).1.pose.position = pose.ahead ∧
          (current.perform .jump).2.movement =
            if there.height < here.height then .jumpDown else .jumpUp) := by
  intro current pose insideThere
  have isFresh := fresh_of_load loaded
  have played : world.PlayedFrom current := isFresh.playedFrom.obeyAll isFresh commands
  have rectangular := played.grid.rectangular isFresh.rectangular
  obtain ⟨here, atHere⟩ := rectangular.tile?_of_contains played.inside
  obtain ⟨there, atThere⟩ := rectangular.tile?_of_contains insideThere
  refine ⟨here, there, ⟨atHere, atThere⟩, climb_exact_iff atHere atThere, ?_⟩
  intro same
  have walk := perform_walk atHere atThere same
  have jump := perform_jump atHere atThere same
  refine ⟨⟨canWalkOverflows_eq_false atHere atThere same,
    ((climb_exact_iff atHere atThere).2 same).1⟩, ?_, ?_, ?_, ?_⟩
  · rw [walk]
    split
    next gentle => simpa [gentle, moveTo] using pose.ahead_ne_position
    next steep => exact iff_of_false (fun moved => moved rfl) steep
  · intro steep
    rw [walk, if_neg (Nat.not_le.2 steep)]
  · rw [jump]
    rfl
  · have lower : here.rise there < 0 ↔ there.height < here.height := by
      rw [Tile.rise, UInt32.lt_iff_toNat_lt]
      omega
    rw [jump]
    simp only [lower]
    rfl

/-- On top of the wall the next tile is as high as this one. So the robot can walk on, and a jump
counts as one upwards. -/
theorem climb_of_load_stepsUp :
    ∃ world, load LevelPack.stepsUp = .ok world ∧
      let current := world.obeyAll [.perform .jump]
      current.grid.contains current.pose.ahead = true ∧ current.pose = ⟨⟨1, 0⟩, .northEast⟩ ∧
        (∃ climb, current.climbAhead? current.pose = some climb ∧ climb.toInt = 0) ∧
        (current.perform .walk).1.pose.position ≠ current.pose.position ∧
        (current.perform .jump).2.movement = .jumpUp := by
  refine ⟨_, rfl, rfl, rfl, ?_⟩
  obtain ⟨here, there, ⟨atHere, atThere⟩, exact, moves⟩ :=
    @climb_of_load LevelPack.stepsUp _ rfl [.perform .jump] rfl
  obtain rfl : Tile.ground 3 = here := Option.some.inj atHere
  obtain rfl : Tile.ground 3 = there := Option.some.inj atThere
  have same : (Tile.ground 3).SameSide (Tile.ground 3) := Iff.rfl
  obtain ⟨_, walks, _, _, jumps⟩ := moves same
  exact ⟨(exact.2 same).2, walks.2 (by decide), jumps⟩

/-- A robot on the ground in front of a lamp at the greatest height. -/
def cliff : Level where
  direction := 1
  position := ⟨0, 0⟩
  map := [[LevelPack.block 0, LevelPack.lamp 4294967295]]
  medals := ⟨0, 0, 0⟩

/-- A robot in front of a lamp that is one step higher, across `2 ^ 31`. -/
def brink : Level where
  direction := 1
  position := ⟨0, 0⟩
  map := [[LevelPack.block 2147483647, LevelPack.lamp 2147483648]]
  medals := ⟨0, 0, 0⟩

/-- In front of the cliff the climb is taken for a step down by one, and the robot walks it. -/
theorem climb_ne_rise_cliff :
    ∃ world here there climb, load cliff = .ok world ∧
      world.grid.contains world.pose.ahead = true ∧
      world.grid.tile? world.pose.position = some here ∧
      world.grid.tile? world.pose.ahead = some there ∧ here.rise there = 4294967295 ∧
      world.climbOverflows world.pose = false ∧
      world.climbAhead? world.pose = some climb ∧ climb.toInt = -1 ∧
      (world.perform .walk).1.pose.position = world.pose.ahead := by
  refine ⟨_, .ground 0, .lamp 4294967295, -1, rfl, ?_⟩
  decide

end World

/-! ## Worlds on which nothing overflows -/

/-- Neither a step nor a climb overflows on the grid: it has fewer than `2 ^ 31` columns and rows,
and all its heights lie on the same side of `2 ^ 31`. -/
structure Grid.Moderate (grid : Grid) : Prop where
  columns : grid.columns < 2147483648
  rows : grid.rowCount < 2147483648
  sameSide : ∀ here ∈ grid.tiles, ∀ there ∈ grid.tiles, here.SameSide there

/-- Lighting lamps leaves a moderate grid moderate. -/
theorem Grid.LitFurther.moderate {before after : Grid} (further : before.LitFurther after)
    (moderate : before.Moderate) : after.Moderate := by
  refine ⟨further.columns ▸ moderate.columns, further.rowCount ▸ moderate.rows, ?_⟩
  intro here memberHere there memberThere
  obtain ⟨earlierHere, isHere, litHere⟩ := further.of_mem_tiles memberHere
  obtain ⟨earlierThere, isThere, litThere⟩ := further.of_mem_tiles memberThere
  have same := moderate.sameSide _ isHere _ isThere
  rwa [Tile.SameSide, ← litHere.height, ← litThere.height] at same

namespace World

section Moderate

variable {world : World} (rectangular : world.grid.Rectangular) (moderate : world.grid.Moderate)
  (inside : world.grid.contains world.pose.position = true)
include rectangular moderate inside

/-- On a moderate grid, asking whether the robot can walk does not overflow. -/
theorem canWalkOverflows_of_moderate : world.canWalkOverflows world.pose = false := by
  obtain ⟨here, atHere⟩ := rectangular.tile?_of_contains inside
  cases onMap : world.grid.contains world.pose.ahead with
  | true =>
      obtain ⟨there, atThere⟩ := rectangular.tile?_of_contains onMap
      have same := moderate.sameSide _ (Grid.mem_tiles_of_tile? atHere)
        _ (Grid.mem_tiles_of_tile? atThere)
      exact canWalkOverflows_eq_false atHere atThere same
  | false =>
      -- Off the map there is no climb, and the coordinates ahead still are in range.
      have noTile := Grid.tile?_of_not_contains onMap
      obtain ⟨⟨left, right⟩, ⟨bottom, top⟩, _⟩ := Grid.of_contains inside
      have columns := moderate.columns
      have rows := moderate.rows
      have noOverflow := Pose.aheadOverflows_eq_false ⟨left, bottom⟩
        (.inr (by omega)) (.inr (by omega))
      simp [canWalkOverflows, climbOverflows, climbAhead?, heightAt?, atHere, noTile, noOverflow]

/-- On a moderate grid no action overflows. -/
theorem performOverflows_of_moderate (action : Action) : world.performOverflows action = false := by
  have walk := canWalkOverflows_of_moderate rectangular moderate inside
  cases action with
  | walk => exact walk
  | jump => exact (Bool.or_eq_false_iff.1 walk).1
  | light => rfl
  | turnLeft => rfl
  | turnRight => rfl

end Moderate

/-- Some action overflows among those taken one after the other. -/
def performAllOverflows (world : World) : List Action → Bool
  | [] => false
  | action :: rest =>
      world.performOverflows action || (world.perform action).1.performAllOverflows rest

/-- Nothing that can be done on a moderate grid overflows. -/
theorem PlayedFrom.performOverflows_eq_false {fresh world : World}
    (played : fresh.PlayedFrom world) (isFresh : fresh.Fresh) (moderate : fresh.grid.Moderate)
    (action : Action) : world.performOverflows action = false :=
  performOverflows_of_moderate (played.grid.rectangular isFresh.rectangular)
    (played.grid.moderate moderate) played.inside action

/-- No actions overflow that are taken one after the other on a moderate grid. -/
theorem PlayedFrom.performAllOverflows_eq_false {fresh world : World}
    (played : fresh.PlayedFrom world) (isFresh : fresh.Fresh) (moderate : fresh.grid.Moderate)
    (actions : List Action) : world.performAllOverflows actions = false := by
  induction actions generalizing world with
  | nil => rfl
  | cons action rest inductionHypothesis =>
      rw [performAllOverflows, played.performOverflows_eq_false isFresh moderate,
        inductionHypothesis (played.perform action)]
      rfl

end World

end Lamplighter
