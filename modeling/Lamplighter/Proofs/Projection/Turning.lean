import Mathlib.Data.Int.ModEq
import Mathlib.Dynamics.PeriodicPts.Defs
import Lamplighter.Overflow
import Lamplighter.Proofs.Binary32.Negation

/-!
# Quarter turns

A camera counts its quarter turns up to four, and points and cells are turned by as many quarters at
once. `TurnsByQuarters` says that turning by some quarters is turning by one again and again, and
that four of them lead back; it holds of points bit by bit and of cells. So what is seen depends on
how many more turns went to the right than to the left, and on nothing else:
`Camera.turnAll_turned`.
-/

namespace Lamplighter

/-! ## Turning a camera -/

/-- What a turn adds to the quarters to the right. -/
def Turn.quarter : Turn → Int
  | .left => -1
  | .right => 1

/-- How many more of some turns go to the right than to the left. -/
def netTurns (turns : List Turn) : Int := (turns.count .right : Int) - turns.count .left

theorem netTurns_cons (turn : Turn) (turns : List Turn) :
    netTurns (turn :: turns) = turn.quarter + netTurns turns := by
  cases turn with
  | left =>
      have right : (Turn.left :: turns).count .right = turns.count .right :=
        List.count_cons_of_ne (by decide)
      rw [netTurns, netTurns, Turn.quarter, right, List.count_cons_self]
      omega
  | right =>
      have left : (Turn.right :: turns).count .left = turns.count .left :=
        List.count_cons_of_ne (by decide)
      rw [netTurns, netTurns, Turn.quarter, left, List.count_cons_self]
      omega

namespace Camera

/-- The camera after a quarter turn. -/
def turn (camera : Camera) : Turn → Camera
  | .left => camera.rotateLeft
  | .right => camera.rotateRight

/-- The camera after some quarter turns, one after the other. -/
def turnAll (camera : Camera) (turns : List Turn) : Camera := turns.foldl turn camera

theorem toNat_rotation_turned (rotation : UInt8) :
    (turned rotation).rotation.toNat = rotation.toNat % 4 := UInt8.toNat_mod rotation 4

/-- Adding quarters may lead beyond the range of the numbers, but that is a whole number of turns. -/
theorem toNat_rotation_turned_add (rotation more : UInt8) :
    (turned (rotation + more)).rotation.toNat = (rotation.toNat + more.toNat) % 4 := by
  rw [toNat_rotation_turned, UInt8.toNat_add]
  exact Nat.mod_mod_of_dvd _ (by decide)

/-- A turn changes the rotation by its quarter; a turn to the left adds three quarters. -/
theorem rotation_turn (camera : Camera) (turn : Turn) :
    ((camera.turn turn).rotation.toNat : Int) = (camera.rotation.toNat + turn.quarter) % 4 := by
  cases turn with
  | left =>
      have added : (camera.turn .left).rotation.toNat = (camera.rotation.toNat + 3) % 4 :=
        toNat_rotation_turned_add _ _
      rw [added, Turn.quarter]
      omega
  | right =>
      have added : (camera.turn .right).rotation.toNat = (camera.rotation.toNat + 1) % 4 :=
        toNat_rotation_turned_add _ _
      rw [added, Turn.quarter]
      omega

/-- After some turns the rotation has changed by as many quarters as more of them went to the
right. -/
theorem rotation_turnAll {camera : Camera} (few : camera.rotation.toNat < 4) (turns : List Turn) :
    ((camera.turnAll turns).rotation.toNat : Int) =
      (camera.rotation.toNat + netTurns turns) % 4 := by
  induction turns generalizing camera with
  | nil =>
      change (camera.rotation.toNat : Int) = (camera.rotation.toNat + 0) % 4
      omega
  | cons turn turns inductionHypothesis =>
      have turned := camera.rotation_turn turn
      have stillFew : (camera.turn turn).rotation.toNat < 4 := by omega
      calc ((camera.turnAll (turn :: turns)).rotation.toNat : Int)
          = ((camera.turn turn).rotation.toNat + netTurns turns) % 4 := inductionHypothesis stillFew
        _ = (camera.rotation.toNat + turn.quarter + netTurns turns) % 4 := by
            rw [turned, Int.emod_add_emod]
        _ = (camera.rotation.toNat + netTurns (turn :: turns)) % 4 := by
            rw [netTurns_cons, Int.add_assoc]

theorem rotation_turnAll_turned (rotation : UInt8) (turns : List Turn) :
    (((turned rotation).turnAll turns).rotation.toNat : Int) =
      (rotation.toNat + netTurns turns) % 4 := by
  have start := toNat_rotation_turned rotation
  have few : (turned rotation).rotation.toNat < 4 := by omega
  have after := rotation_turnAll few turns
  omega

/-- A camera that is turned less than four times can be turned. -/
theorem turnOverflows_eq_false {camera : Camera} (few : camera.rotation.toNat < 4) (turn : Turn) :
    camera.turnOverflows turn = false := by
  have small : ¬ 256 ≤ camera.rotation.toNat + 3 ∧ ¬ 256 ≤ camera.rotation.toNat + 1 := by omega
  cases turn with
  | left => exact decide_eq_false small.1
  | right => exact decide_eq_false small.2

end Camera

/-! ## Turning places -/

/-- Turning by some quarters is turning by one as often, and four of them lead back. -/
structure TurnsByQuarters {Place : Type} (rotate : Place → UInt8 → Place) : Prop where
  repeats : ∀ place turns, rotate place turns = (rotate · 1)^[turns.toNat % 4] place
  leadsBack : ∀ place, Function.IsPeriodicPt (rotate · 1) 4 place

/-- Turning by all quarters at once is turning by the first ones, and then by one as often as any
number says that leaves the same quarters. -/
theorem TurnsByQuarters.rotate_eq_iterate {Place : Type} {rotate : Place → UInt8 → Place}
    (turning : TurnsByQuarters rotate) {first all : UInt8} {quarters : Nat}
    (leaves : all.toNat % 4 = (quarters + first.toNat) % 4) (place : Place) :
    rotate place all = (rotate · 1)^[quarters] (rotate place first) := by
  have leavesFirst : (quarters + first.toNat % 4) % 4 = all.toNat % 4 := by omega
  rw [turning.repeats place first, turning.repeats place all, ← Function.iterate_add_apply,
    ← (turning.leadsBack place).iterate_mod_apply (quarters + first.toNat % 4), leavesFirst]

/-- The remainders that quarters leave. -/
theorem quarters_cases (turns : UInt8) :
    turns.toNat % 4 = 0 ∨ turns.toNat % 4 = 1 ∨ turns.toNat % 4 = 2 ∨ turns.toNat % 4 = 3 := by
  omega

/-- Points turn by quarters, bit by bit. -/
theorem Point.turnsByQuarters : TurnsByQuarters Point.rotateQuarter where
  repeats point turns := by
    rcases quarters_cases turns with zero | one | two | three
    · rw [rotateQuarter, zero]
      rfl
    · rw [rotateQuarter, one]
      rfl
    · rw [rotateQuarter, two]
      rfl
    · rw [rotateQuarter, three]
      change (⟨-point.y, point.x⟩ : Point) = ⟨-point.y, -(-point.x)⟩
      rw [Binary32.neg_neg]
  leadsBack point := by
    change (⟨-(-point.x), -(-point.y)⟩ : Point) = point
    rw [Binary32.neg_neg, Binary32.neg_neg]

/-- Cells turn by quarters as well. -/
theorem Cell.turnsByQuarters : TurnsByQuarters Cell.rotateQuarter where
  repeats cell turns := by
    rcases quarters_cases turns with zero | one | two | three
    · rw [rotateQuarter, zero]
      rfl
    · rw [rotateQuarter, one]
      rfl
    · rw [rotateQuarter, two]
      rfl
    · rw [rotateQuarter, three]
      change (⟨-cell.y, cell.x⟩ : Cell) = ⟨-cell.y, -(-cell.x)⟩
      rw [Int32.neg_neg]
  leadsBack cell := by
    change (⟨-(-cell.x), -(-cell.y)⟩ : Cell) = cell
    rw [Int32.neg_neg, Int32.neg_neg]

/-! ## Cells and their points -/

/-- Two points are equal as numbers: zeros of both signs are, and no NaN is. -/
def Point.IsEqual (left right : Point) : Prop :=
  left.x.eq right.x = true ∧ left.y.eq right.y = true

/-- Every coordinate but the least one has an opposite. -/
theorem toInt_neg {coordinate : Int32} (bounded : coordinate ≠ Int32.minValue) :
    (-coordinate).toInt = -coordinate.toInt := by
  have least : coordinate.toInt ≠ -2147483648 := fun same => bounded (Int32.toInt_inj.1 same)
  have atLeast := coordinate.le_toInt
  have below := coordinate.toInt_lt
  rw [Int32.toInt_neg]
  exact Int.bmod_eq_of_le (by omega) (by omega)

theorem negationOverflows_eq_false {coordinate : Int32} (bounded : coordinate ≠ Int32.minValue) :
    negationOverflows coordinate = false :=
  decide_eq_false (not_not_intro (toInt_neg bounded))

theorem neg_ne_minValue {coordinate : Int32} (bounded : coordinate ≠ Int32.minValue) :
    -coordinate ≠ Int32.minValue := by
  intro least
  have opposite : coordinate = -Int32.minValue := by rw [← least, Int32.neg_neg]
  exact bounded opposite

namespace Cell

/-- Both coordinates of a cell have an opposite: neither is the least number. -/
def HasOpposite (cell : Cell) : Prop := cell.x ≠ Int32.minValue ∧ cell.y ≠ Int32.minValue

variable {cell : Cell}

theorem HasOpposite.rotateQuarter (bounded : cell.HasOpposite) (turns : UInt8) :
    (cell.rotateQuarter turns).HasOpposite := by
  unfold Cell.rotateQuarter
  split
  · exact bounded
  · exact ⟨bounded.2, neg_ne_minValue bounded.1⟩
  · exact ⟨neg_ne_minValue bounded.1, neg_ne_minValue bounded.2⟩
  · exact ⟨neg_ne_minValue bounded.2, bounded.1⟩

theorem HasOpposite.iterate (bounded : cell.HasOpposite) (quarters : Nat) :
    ((Cell.rotateQuarter · 1)^[quarters] cell).HasOpposite := by
  induction quarters with
  | zero => exact bounded
  | succ quarters inductionHypothesis =>
      rw [Function.iterate_succ_apply']
      exact inductionHypothesis.rotateQuarter 1

theorem HasOpposite.rotateQuarterOverflows_eq_false (bounded : cell.HasOpposite) (turns : UInt8) :
    cell.rotateQuarterOverflows turns = false := by
  have first := negationOverflows_eq_false bounded.1
  have second := negationOverflows_eq_false bounded.2
  unfold rotateQuarterOverflows
  split
  · rfl
  · exact first
  · rw [first, second, Bool.false_or]
  · exact second

/-- The point of a turned cell is the turned point of the cell, as numbers. -/
theorem HasOpposite.toPoint_rotateQuarter (bounded : cell.HasOpposite) (turns : UInt8) :
    (cell.rotateQuarter turns).toPoint.IsEqual (cell.toPoint.rotateQuarter turns) := by
  have same (coordinate : Int32) :
      (Binary32.ofInt coordinate.toInt).eq (Binary32.ofInt coordinate.toInt) = true :=
    Binary32.eq_self (Binary32.isNaN_ofInt _)
  have opposite {coordinate : Int32} (bounded : coordinate ≠ Int32.minValue) :
      (Binary32.ofInt (-coordinate).toInt).eq (-Binary32.ofInt coordinate.toInt) = true := by
    rw [toInt_neg bounded]
    exact Binary32.eq_ofInt_neg _
  unfold Cell.rotateQuarter Point.rotateQuarter
  split
  · exact ⟨same _, same _⟩
  · exact ⟨same _, opposite bounded.1⟩
  · exact ⟨opposite bounded.1, opposite bounded.2⟩
  · exact ⟨opposite bounded.2, same _⟩

end Cell

/-! ## What is seen -/

namespace Camera

variable (rotation : UInt8) (turns : List Turn)

/-- After some turns as many quarters are left as a number leaves that stands for the turns. -/
theorem rotation_turnAll_of_modEq {quarters : Nat}
    (stands : (quarters : Int) ≡ netTurns turns [ZMOD 4]) :
    ((turned rotation).turnAll turns).rotation.toNat % 4 = (quarters + rotation.toNat) % 4 := by
  have after := rotation_turnAll_turned rotation turns
  unfold Int.ModEq at stands
  omega

/-- Whole turns lead back to the same camera. -/
theorem turnAll_of_dvd (whole : 4 ∣ netTurns turns) :
    (turned rotation).turnAll turns = turned rotation := by
  have after := rotation_turnAll_turned rotation turns
  have start := toNat_rotation_turned rotation
  have same : ((turned rotation).turnAll turns).rotation = (turned rotation).rotation :=
    UInt8.toNat_inj.1 (by omega)
  exact congrArg Camera.mk same

/-- For every rotation that a camera is made with and every sequence of turns: the rotation after
them counts, up to four, by how many more of them went to the right than to the left, and no turn
overflows. With the camera after them every point is turned, bit by bit, as if it were first turned
by the rotation at the start and then by one quarter after the other, as often as more turns went to
the right, or by any number of quarters that comes to the same. So is every cell of which no
coordinate is the least number; nothing overflows on its way, and the point of the turned cell is
the turned point of the cell. If only whole turns are left over, everything is seen where it was
before. -/
theorem turnAll_turned :
    let camera := (turned rotation).turnAll turns
    ((camera.rotation.toNat : Int) = (rotation.toNat + netTurns turns) % 4 ∧
        ∀ turn, camera.turnOverflows turn = false) ∧
      (∀ quarters : Nat, (quarters : Int) ≡ netTurns turns [ZMOD 4] →
        (∀ point : Point, point.rotateQuarter camera.rotation =
          (Point.rotateQuarter · 1)^[quarters] (point.rotateQuarter rotation)) ∧
        ∀ cell : Cell, cell.HasOpposite → cell.rotateQuarter camera.rotation =
          (Cell.rotateQuarter · 1)^[quarters] (cell.rotateQuarter rotation)) ∧
      (∀ cell : Cell, cell.HasOpposite →
        (∀ quarters, cell.rotateQuarterOverflows quarters = false) ∧
        (∀ quarters, ((Cell.rotateQuarter · 1)^[quarters]
          (cell.rotateQuarter rotation)).rotateQuarterOverflows 1 = false) ∧
        ∀ quarters,
          (cell.rotateQuarter quarters).toPoint.IsEqual (cell.toPoint.rotateQuarter quarters)) ∧
      (4 ∣ netTurns turns → ∀ (projection : Projection) (place : WorldPoint),
        projection.project place camera = projection.project place (turned rotation)) := by
  intro camera
  have after : (camera.rotation.toNat : Int) = (rotation.toNat + netTurns turns) % 4 :=
    rotation_turnAll_turned rotation turns
  have few : camera.rotation.toNat < 4 := by omega
  refine ⟨⟨after, turnOverflows_eq_false few⟩, ?stepwise, ?bounded, ?whole⟩
  case stepwise =>
    intro quarters stands
    have leaves := rotation_turnAll_of_modEq rotation turns stands
    exact ⟨Point.turnsByQuarters.rotate_eq_iterate leaves,
      fun cell _ => Cell.turnsByQuarters.rotate_eq_iterate leaves cell⟩
  case bounded =>
    intro cell bounded
    have stays := (bounded.rotateQuarter rotation).iterate
    exact ⟨bounded.rotateQuarterOverflows_eq_false,
      fun quarters => (stays quarters).rotateQuarterOverflows_eq_false 1,
      bounded.toPoint_rotateQuarter⟩
  case whole =>
    intro whole projection place
    have same : camera = turned rotation := turnAll_of_dvd rotation turns whole
    rw [same]

/-- Six turns to the right and two to the left, from a camera made with seven quarters. The greatest
coordinate and one that has to be rounded are turned, and a zero whose sign differs. -/
theorem turnAll_turned_thereAndBack :
    let turns : List Turn := [.right, .right, .left, .right, .right, .right, .left, .right]
    let camera := (turned 7).turnAll turns
    let far : Cell := ⟨2147483647, -16777217⟩
    let middle : Cell := ⟨0, 5⟩
    (4 ∣ netTurns turns ∧ ((4 : Nat) : Int) ≡ netTurns turns [ZMOD 4] ∧ far.HasOpposite) ∧
      camera.rotation.toNat = 3 ∧
      far.rotateQuarter camera.rotation = (Cell.rotateQuarter · 1)^[4] (far.rotateQuarter 7) ∧
      (far.rotateQuarter 7).toPoint.IsEqual (far.toPoint.rotateQuarter 7) ∧
      (middle.rotateQuarter 1).toPoint.IsEqual (middle.toPoint.rotateQuarter 1) ∧
      (middle.rotateQuarter 1).toPoint ≠ middle.toPoint.rotateQuarter 1 ∧
      ∀ place, Projection.project ⟨800, 600, 400, 50⟩ place camera =
        Projection.project ⟨800, 600, 400, 50⟩ place (turned 7) := by
  intro turns camera far middle
  have net : netTurns turns = 4 := by decide
  have whole : 4 ∣ netTurns turns := Dvd.intro 1 net.symm
  have stands : ((4 : Nat) : Int) ≡ netTurns turns [ZMOD 4] := congrArg (· % 4) net.symm
  have farBounded : far.HasOpposite := ⟨by decide, by decide⟩
  have middleBounded : middle.HasOpposite := ⟨by decide, by decide⟩
  obtain ⟨⟨after, _⟩, stepwise, bounded, seen⟩ := turnAll_turned 7 turns
  rw [net] at after
  refine ⟨⟨whole, stands, farBounded⟩, Int.ofNat_inj.1 after,
    (stepwise 4 stands).2 far farBounded, (bounded far farBounded).2.2 7,
    (bounded middle middleBounded).2.2 1, ?_, seen whole _⟩
  decide

end Camera

end Lamplighter
