import Lamplighter.Grid
import Mathlib.Data.List.Forall2

/-!
# Lighting lamps on a grid

`Grid.LitFurther` compares a grid with a later one: the same tiles stand in the same places, and a
lamp that was lit still is. Lighting a lamp leads from a grid to such a later one; whatever depends
on heights and places alone is the same on both.
-/

namespace Lamplighter

/-! ## Lists that are related item by item -/

/-- Changing one item of a list relates the lists if the change relates the items. -/
theorem forall₂_modify {α : Type} {related : α → α → Prop} {change : α → α}
    (same : ∀ item, related item item) (changed : ∀ item, related item (change item))
    (list : List α) (index : Nat) :
    List.Forall₂ related list (list.modify index change) := by
  induction list generalizing index with
  | nil => simp
  | cons first rest inductionHypothesis =>
      cases index with
      | zero => exact .cons (changed first) (List.forall₂_same.2 fun item _ => same item)
      | succ index => exact .cons (same first) (inductionHypothesis index)

/-- Item by item, a relation that is transitive on items is so on lists. -/
theorem forall₂_trans {α : Type} {related : α → α → Prop}
    (trans : ∀ a b c, related a b → related b c → related a c) {first second third : List α}
    (earlier : List.Forall₂ related first second) (later : List.Forall₂ related second third) :
    List.Forall₂ related first third := by
  induction earlier generalizing third with
  | nil => exact later
  | cons head _ inductionHypothesis =>
      cases later with
      | cons head' tail' => exact .cons (trans _ _ _ head head') (inductionHypothesis tail')

/-- Each item of the second list is related to one of the first. -/
theorem exists_of_mem_forall₂ {α β : Type} {related : α → β → Prop} {first : List α}
    {second : List β} (relates : List.Forall₂ related first second) {item : β}
    (member : item ∈ second) : ∃ earlier ∈ first, related earlier item := by
  induction relates with
  | nil => simp at member
  | cons head _ inductionHypothesis =>
      obtain rfl | behind := List.mem_cons.1 member
      · exact ⟨_, List.mem_cons_self, head⟩
      · obtain ⟨earlier, isEarlier, holds⟩ := inductionHypothesis behind
        exact ⟨earlier, List.mem_cons_of_mem _ isEarlier, holds⟩

/-! ## Tiles -/

/-- A tile is the other one, except that it may have been lit. -/
structure Tile.LitFurther (before after : Tile) : Prop where
  height : after.height = before.height
  isLamp : after.isLamp = before.isLamp
  isLit : before.isLit = true → after.isLit = true

namespace Tile

theorem LitFurther.refl (tile : Tile) : tile.LitFurther tile := ⟨rfl, rfl, id⟩

theorem LitFurther.trans {first second third : Tile} (earlier : first.LitFurther second)
    (later : second.LitFurther third) : first.LitFurther third :=
  ⟨later.height.trans earlier.height, later.isLamp.trans earlier.isLamp,
    later.isLit ∘ earlier.isLit⟩

/-- Only a lamp can be lit. -/
theorem isLamp_of_isLit {tile : Tile} (lit : tile.isLit = true) : tile.isLamp = true := by
  obtain ⟨height, kind⟩ := tile
  cases kind with
  | ground => simp [isLit] at lit
  | lamp lit => rfl

/-- Lighting a tile only lights it. -/
theorem litFurther_lightUp (tile : Tile) : tile.LitFurther tile.lightUp := by
  obtain ⟨height, kind⟩ := tile
  cases kind with
  | ground => exact .refl _
  | lamp lit => exact ⟨rfl, rfl, fun _ => rfl⟩

/-- A level does not say of any lamp that it is lit. -/
theorem isLit_ofLevelCell (cell : LevelCell) : (ofLevelCell cell).isLit = false := by
  unfold ofLevelCell
  split
  · rfl
  · split <;> rfl

end Tile

/-! ## Grids -/

/-- A grid is the other one, except that lamps may have been lit. -/
structure Grid.LitFurther (before after : Grid) : Prop where
  columns : after.columns = before.columns
  rows : List.Forall₂ (List.Forall₂ Tile.LitFurther) before.rows after.rows

/-- Every row of a grid is as long as the grid is wide. -/
def Grid.Rectangular (grid : Grid) : Prop := ∀ row ∈ grid.rows, row.length = grid.columns

namespace Grid

theorem LitFurther.refl (grid : Grid) : grid.LitFurther grid :=
  ⟨rfl, List.forall₂_same.2 fun _ _ => List.forall₂_same.2 fun tile _ => .refl tile⟩

theorem LitFurther.trans {first second third : Grid} (earlier : first.LitFurther second)
    (later : second.LitFurther third) : first.LitFurther third where
  columns := later.columns.trans earlier.columns
  rows := by
    refine forall₂_trans ?_ earlier.rows later.rows
    intro top middle bottom
    exact forall₂_trans fun _ _ _ before after => before.trans after

/-- Lighting a cell only lights the grid. -/
theorem litFurther_update (grid : Grid) (cell : Cell) :
    grid.LitFurther (grid.update cell Tile.lightUp) := by
  unfold update
  split
  next column row _ =>
    refine ⟨rfl, forall₂_modify ?_ ?_ grid.rows row⟩
    · exact fun tiles => List.forall₂_same.2 fun tile _ => .refl tile
    · exact fun tiles => forall₂_modify .refl Tile.litFurther_lightUp tiles column
  next => exact .refl grid

/-- Lighting lamps adds and removes no rows. -/
theorem LitFurther.rowCount {before after : Grid} (further : before.LitFurther after) :
    after.rowCount = before.rowCount :=
  further.rows.length_eq.symm

/-- Lighting lamps leaves the same cells on the map. -/
theorem LitFurther.contains {before after : Grid} (further : before.LitFurther after)
    (cell : Cell) : after.contains cell = before.contains cell := by
  simp only [Grid.contains, indices?, further.columns, further.rowCount]

/-- Lighting lamps leaves a rectangle a rectangle. -/
theorem LitFurther.rectangular {before after : Grid} (further : before.LitFurther after)
    (rectangular : before.Rectangular) : after.Rectangular := by
  intro row member
  obtain ⟨earlier, isRow, sameRow⟩ := exists_of_mem_forall₂ further.rows member
  rw [further.columns, ← rectangular earlier isRow]
  exact sameRow.length_eq.symm

/-- Each tile behind stands for one before. -/
theorem LitFurther.of_mem_tiles {before after : Grid} (further : before.LitFurther after)
    {tile : Tile} (member : tile ∈ after.tiles) :
    ∃ earlier ∈ before.tiles, earlier.LitFurther tile :=
  exists_of_mem_forall₂ (List.rel_flatten further.rows) member

/-! ## Counting lamps -/

/-- Lighting lamps adds no lamps and removes none. -/
theorem LitFurther.lampCount {before after : Grid} (further : before.LitFurther after) :
    after.lampCount = before.lampCount := by
  have tiles : List.Forall₂ Tile.LitFurther before.tiles after.tiles :=
    List.rel_flatten further.rows
  simp only [Grid.lampCount]
  generalize before.tiles = first at tiles
  generalize after.tiles = second at tiles
  induction tiles with
  | nil => rfl
  | cons same _ inductionHypothesis =>
      rw [List.countP_cons, List.countP_cons, inductionHypothesis, same.isLamp]

/-- There are no more lit lamps than lamps. -/
theorem litCount_le_lampCount (grid : Grid) : grid.litCount ≤ grid.lampCount :=
  List.countP_mono_left fun _ _ => Tile.isLamp_of_isLit

/-- All lamps are lit exactly when there are as many lit lamps as lamps. -/
theorem allLit_iff (grid : Grid) : grid.allLit = true ↔ grid.litCount = grid.lampCount := by
  simp only [allLit, litCount, lampCount]
  induction grid.tiles with
  | nil => simp
  | cons tile rest inductionHypothesis =>
      have fewer : rest.countP Tile.isLit ≤ rest.countP Tile.isLamp :=
        List.countP_mono_left fun _ _ => Tile.isLamp_of_isLit
      rw [List.all_cons, Bool.and_eq_true, inductionHypothesis, List.countP_cons, List.countP_cons]
      cases lit : tile.isLit with
      | true => simp [Tile.isLamp_of_isLit lit]
      | false =>
          cases lamp : tile.isLamp with
          | true =>
              simp
              omega
          | false => simp

/-- Where no lamp is lit and there is one, not all lamps are lit. -/
theorem allLit_eq_false {grid : Grid} (lamps : grid.lampCount ≠ 0) (dark : grid.litCount = 0) :
    grid.allLit = false := by
  rw [Bool.eq_false_iff, ne_eq, allLit_iff, dark]
  exact lamps.symm

end Grid

end Lamplighter
