import Lamplighter.Proofs.Binary32.TotalOrder
import Lamplighter.Proofs.Scene.Painting

/-!
# The order in which cells are painted

Cells are painted from the farthest to the nearest, by the total order of all bit patterns. So there
is an order also where a projection makes NaNs of all depths: `Painter.drawOrder_sorts`.
-/

namespace Lamplighter.Painter

open Binary32

/-- How two cells with their places are compared. -/
def isNotNearer (first second : Int × Cell) : Bool := decide (first.1 ≤ second.1)

theorem isNotNearer_trans (first second third : Int × Cell)
    (before : isNotNearer first second = true) (behind : isNotNearer second third = true) :
    isNotNearer first third = true := by
  rw [isNotNearer, decide_eq_true_iff] at *
  exact Int.le_trans before behind

theorem isNotNearer_total (first second : Int × Cell) :
    (isNotNearer first second || isNotNearer second first) = true := by
  rw [Bool.or_eq_true, isNotNearer, isNotNearer, decide_eq_true_iff, decide_eq_true_iff]
  exact Int.le_total _ _

/-- A cell with its place in the order of depths. -/
def placed (painter : Painter) (cell : Cell) : Int × Cell := ((painter.depthKey cell).rank, cell)

/-- Cells are put in order by sorting them with their places. -/
theorem drawOrder_eq (painter : Painter) (cells : List Cell) :
    painter.drawOrder cells = ((cells.map painter.placed).mergeSort isNotNearer).map (·.2) := rfl

/-- No cell is painted behind a nearer one. -/
theorem pairwise_drawOrder (painter : Painter) (cells : List Cell) :
    (painter.drawOrder cells).Pairwise fun first second =>
      (painter.depthKey first).TotalLE (painter.depthKey second) := by
  have sorted := List.pairwise_mergeSort isNotNearer_trans isNotNearer_total
    (cells.map painter.placed)
  have isPlaced : ∀ entry ∈ (cells.map painter.placed).mergeSort isNotNearer,
      entry = painter.placed entry.2 := by
    intro entry member
    obtain ⟨cell, _, rfl⟩ := List.mem_map.1 (List.mem_mergeSort.1 member)
    rfl
  rw [drawOrder_eq, List.pairwise_map]
  refine sorted.imp_of_mem fun {first second} isFirst isSecond ordered => ?_
  rw [isPlaced first isFirst, isPlaced second isSecond] at ordered
  exact totalLE_iff_rank_le.2 (of_decide_eq_true ordered)

/-- Cells at the same depth keep their order. -/
theorem filter_drawOrder (painter : Painter) (cells : List Cell) (key : Binary32) :
    (painter.drawOrder cells).filter (fun cell => painter.depthKey cell = key) =
      cells.filter fun cell => painter.depthKey cell = key := by
  let kept := cells.filter fun cell => painter.depthKey cell = key
  have tied : (kept.map painter.placed).Pairwise fun first second =>
      isNotNearer first second = true := by
    rw [List.pairwise_map]
    refine List.pairwise_of_forall_mem_list fun first isFirst second isSecond => ?_
    have sameKey : painter.depthKey first = painter.depthKey second := by
      rw [of_decide_eq_true (List.mem_filter.1 isFirst).2,
        of_decide_eq_true (List.mem_filter.1 isSecond).2]
    exact decide_eq_true (Int.le_of_eq (congrArg rank sameKey))
  have among : (kept.map painter.placed).Sublist (cells.map painter.placed) :=
    List.filter_sublist.map painter.placed
  -- They are sorted already, so sorting keeps them in the order in which they came.
  have stays : kept.Sublist (painter.drawOrder cells) := by
    have sorted := (List.sublist_mergeSort isNotNearer_trans isNotNearer_total tied among).map (·.2)
    have recovers : (fun entry : Int × Cell => entry.2) ∘ painter.placed = id := rfl
    rwa [List.map_map, recovers, List.map_id, ← drawOrder_eq] at sorted
  have keptAmong := stays.filter fun cell => decide (painter.depthKey cell = key)
  rw [List.filter_filter] at keptAmong
  simp only [Bool.and_self] at keptAmong
  exact (keptAmong.eq_of_length
    ((painter.drawOrder_perm cells).filter _).length_eq.symm).symm

/-- For every projection and every camera, whatever bit patterns the depths of the cells are: all
cells of a list are painted, as often as they are listed, and none behind one that is nearer in the
total order of bit patterns. That order leaves nothing undecided, and ties only what is the same bit
by bit; cells with the same depth keep their order. -/
theorem drawOrder_sorts (painter : Painter) (cells : List Cell) :
    (painter.drawOrder cells).Perm cells ∧
      ((painter.drawOrder cells).Pairwise fun first second =>
        (painter.depthKey first).TotalLE (painter.depthKey second)) ∧
      (∀ key, (painter.drawOrder cells).filter (fun cell => painter.depthKey cell = key) =
        cells.filter fun cell => painter.depthKey cell = key) ∧
      (∀ left right : Binary32, left.TotalLE right ∨ right.TotalLE left) ∧
      (∀ first second third : Binary32,
        first.TotalLE second → second.TotalLE third → first.TotalLE third) ∧
      ∀ left right : Binary32, left.TotalLE right → right.TotalLE left → left = right :=
  ⟨painter.drawOrder_perm cells, painter.pairwise_drawOrder cells, painter.filter_drawOrder cells,
    totalLE_total, fun _ _ _ => TotalLE.trans, fun _ _ => TotalLE.antisymm⟩

/-- On a canvas with a height the cell in the middle is farther than the one listed twice, and is
moved to the front. Where the height of the canvas is a NaN all depths are that NaN, so the cells
stay as they are. The two zeros, which are equal as numbers, are not tied. -/
theorem drawOrder_sorts_blank :
    let painter : Painter := ⟨⟨800, 600, 0, 0⟩, .turned 1, true, false⟩
    let blank : Painter := ⟨⟨800, ⟨0x7fc00000⟩, 0, 0⟩, .turned 1, true, false⟩
    let cells : List Cell := [⟨2, 0⟩, ⟨0, 1⟩, ⟨2, 0⟩]
    painter.drawOrder cells = [⟨0, 1⟩, ⟨2, 0⟩, ⟨2, 0⟩] ∧ blank.drawOrder cells = cells ∧
      (zero true).TotalLE (zero false) ∧ ¬ (zero false).TotalLE (zero true) := by
  intro painter blank cells
  have zeros : (zero true).TotalLE (zero false) := .equal (by decide) (by decide)
  have different : zero true ≠ zero false := by decide
  refine ⟨?moved, ?still, zeros, ?apart⟩
  case moved =>
    obtain ⟨isPerm, sorted, _, _, _, antisymm⟩ := drawOrder_sorts painter cells
    have swapped : cells.Perm [⟨0, 1⟩, ⟨2, 0⟩, ⟨2, 0⟩] := .swap ..
    have inOrder : [(⟨0, 1⟩ : Cell), ⟨2, 0⟩, ⟨2, 0⟩].Pairwise fun first second =>
        (painter.depthKey first).TotalLE (painter.depthKey second) := by
      have farther : (painter.depthKey ⟨0, 1⟩).rank ≤ (painter.depthKey ⟨2, 0⟩).rank := by
        decide +kernel
      simp [totalLE_iff_rank_le, farther]
    have separate : ∀ first ∈ cells, ∀ second ∈ cells,
        painter.depthKey first = painter.depthKey second → first = second := by decide
    refine List.Perm.eq_of_pairwise ?_ sorted inOrder (isPerm.trans swapped)
    intro first second isFirst isSecond before behind
    exact separate first (isPerm.mem_iff.1 isFirst) second (swapped.mem_iff.2 isSecond)
      (antisymm _ _ before behind)
  case still =>
    obtain ⟨isPerm, _, stays, _⟩ := drawOrder_sorts blank cells
    have tied : ∀ cell ∈ cells, decide (blank.depthKey cell = ⟨0x7fc00000⟩) = true := by decide
    have tiedInOrder : ∀ cell ∈ blank.drawOrder cells,
        decide (blank.depthKey cell = ⟨0x7fc00000⟩) = true :=
      fun cell member => tied cell (isPerm.mem_iff.1 member)
    have same := stays ⟨0x7fc00000⟩
    rwa [List.filter_eq_self.2 tiedInOrder, List.filter_eq_self.2 tied] at same
  case apart =>
    intro behind
    exact different (zeros.antisymm behind)

end Lamplighter.Painter
