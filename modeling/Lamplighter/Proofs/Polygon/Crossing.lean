import Mathlib.Algebra.Ring.Parity
import Mathlib.Data.List.Rotate
import Mathlib.Data.Nat.Bits
import Lamplighter.Polygon

/-!
# The edges that pass a point

Whether a point is inside a polygon is found in one pass along the corners, with an index kept in
mind. `Point.isInside?_eq` says what is found: whether an odd number of edges passes the point on
its right. So it does not matter with which corner the list begins, nor how often a corner is listed
in its place: `Point.isInside_iff_odd_crossings`.
-/

namespace Lamplighter

/-! ## Edges -/

/-- The edges of a line from a point to one corner after the other, each as its end and its
start. -/
def edgesFrom (start : Point) : List Point → List (Point × Point)
  | [] => []
  | corner :: rest => (corner, start) :: edgesFrom corner rest

/-- The edges of a closed line; the first one comes from the last corner. -/
def cyclicEdges (polygon : List Point) : List (Point × Point) :=
  match polygon.getLast? with
  | none => []
  | some last => edgesFrom last polygon

/-- How many edges of a closed line pass a point on its right. -/
def Point.crossings (point : Point) (polygon : List Point) : Nat :=
  (cyclicEdges polygon).countP fun edge => point.isLeftOfEdge edge.1 edge.2

/-- A line that goes on goes on from the last corner that it has come to. -/
theorem edgesFrom_append (start : Point) (first second : List Point) :
    edgesFrom start (first ++ second) =
      edgesFrom start first ++ edgesFrom (first.getLastD start) second := by
  induction first generalizing start with
  | nil => rfl
  | cons corner rest inductionHypothesis =>
      rw [List.cons_append, edgesFrom, inductionHypothesis, List.getLastD_cons, edgesFrom,
        List.cons_append]

/-- A closed line with a first corner. -/
theorem cyclicEdges_cons (corner : Point) (rest : List Point) :
    cyclicEdges (corner :: rest) = (corner, rest.getLastD corner) :: edgesFrom corner rest := by
  rw [cyclicEdges, List.getLast?_cons, ← List.getLastD_eq_getLast?]
  rfl

/-- A closed line with a last corner. -/
theorem cyclicEdges_concat (corner : Point) (rest : List Point) :
    cyclicEdges (rest ++ [corner]) = edgesFrom corner rest ++ [(corner, rest.getLastD corner)] := by
  rw [cyclicEdges, List.getLast?_concat]
  exact edgesFrom_append corner rest [corner]

/-- Beginning with a later corner is beginning with the edge to it. -/
theorem cyclicEdges_rotate (polygon : List Point) (places : Nat) :
    cyclicEdges (polygon.rotate places) = (cyclicEdges polygon).rotate places := by
  induction places generalizing polygon with
  | zero => rw [List.rotate_zero, List.rotate_zero]
  | succ places inductionHypothesis =>
      cases polygon with
      | nil => rw [List.rotate_nil, cyclicEdges, List.getLast?_nil, List.rotate_nil]
      | cons corner rest =>
          rw [List.rotate_cons_succ, inductionHypothesis, cyclicEdges_concat, cyclicEdges_cons,
            List.rotate_cons_succ]

namespace Point

variable (point : Point)

/-! ## What is counted -/

/-- No edge without extent passes a point. -/
theorem isLeftOfEdge_self (corner : Point) : point.isLeftOfEdge corner corner = false := by
  rw [isLeftOfEdge, bne_self_eq_false, Bool.false_and]

theorem crossings_nil : point.crossings [] = 0 := rfl

/-- A single corner is joined to itself alone. -/
theorem crossings_singleton (corner : Point) : point.crossings [corner] = 0 := by
  rw [crossings, cyclicEdges_cons, List.getLastD_nil, edgesFrom, List.countP_singleton,
    isLeftOfEdge_self, if_neg Bool.false_ne_true]

theorem crossings_rotate (polygon : List Point) (places : Nat) :
    point.crossings (polygon.rotate places) = point.crossings polygon := by
  rw [crossings, cyclicEdges_rotate]
  exact (List.rotate_perm _ _).countP_eq _

/-- An edge more, from a corner to itself. -/
theorem crossings_duplicate (before : List Point) (corner : Point) (after : List Point) :
    point.crossings (before ++ corner :: corner :: after) =
      point.crossings (before ++ corner :: after) := by
  -- Both lines have the same last corner, so they close with the same edge.
  have closing : (before ++ corner :: corner :: after).getLast? =
      (before ++ corner :: after).getLast? := by
    simp
  simp only [crossings, cyclicEdges, closing]
  cases (before ++ corner :: after).getLast? with
  | none => rfl
  | some last =>
      simp only [edgesFrom_append, edgesFrom, List.countP_append, List.countP_cons,
        isLeftOfEdge_self, Bool.false_eq_true, if_false, Nat.add_zero]

theorem crossings_replicate (before : List Point) (corner : Point) (after : List Point)
    (further : Nat) :
    point.crossings (before ++ List.replicate (further + 1) corner ++ after) =
      point.crossings (before ++ corner :: after) := by
  induction further with
  | zero => rw [List.replicate_one, List.append_assoc, List.singleton_append]
  | succ further inductionHypothesis =>
      rw [List.replicate_succ, List.replicate_succ, List.append_assoc, List.cons_append,
        List.cons_append, crossings_duplicate, ← inductionHypothesis, List.replicate_succ,
        List.append_assoc, List.cons_append]

/-! ## What is found -/

/-- Going on from a corner, with its index in mind and the corners behind it ahead: no index is out
of range, and the answer is changed as often as an edge passes. -/
theorem passEdges?_eq {polygon : List Point} {inside : Bool} {before index : Nat}
    {start : Point} {corners : List Point} (isStart : polygon[before]? = some start)
    (isAhead : polygon.drop index = corners) :
    point.passEdges? polygon inside before index corners =
      some (inside ^^
        ((edgesFrom start corners).countP fun edge => point.isLeftOfEdge edge.1 edge.2).bodd) := by
  induction corners generalizing inside before index start with
  | nil => rw [passEdges?, edgesFrom, List.countP_nil, Nat.bodd_zero, Bool.xor_false]
  | cons corner rest inductionHypothesis =>
      have isCorner : polygon[index]? = some corner := by
        rw [← List.head?_drop, isAhead, List.head?_cons]
      have isRest : polygon.drop (index + 1) = rest := by
        rw [← List.tail_drop, isAhead, List.tail_cons]
      rw [passEdges?, isStart, edgesFrom, List.countP_cons]
      dsimp only
      rw [inductionHypothesis isCorner isRest, Nat.bodd_add]
      cases point.isLeftOfEdge corner start <;> cases inside <;> simp

/-- What is found is whether an odd number of edges passes. -/
theorem isInside?_eq (polygon : List Point) :
    point.isInside? polygon = some (point.crossings polygon).bodd := by
  cases polygon with
  | nil => rw [isInside?, passEdges?, crossings_nil, Nat.bodd_zero]
  | cons corner rest =>
      have isLast : (corner :: rest)[rest.length]? = some (rest.getLastD corner) := by
        rw [List.getLastD_eq_getLast?, ← List.getLast?_cons, List.getLast?_eq_getElem?]
        rfl
      rw [isInside?, List.length_cons, indexBefore, point.passEdges?_eq isLast List.drop_zero,
        Bool.false_xor, crossings, cyclicEdges_cons, edgesFrom]

theorem isInside_eq (polygon : List Point) :
    point.isInside polygon = (point.crossings polygon).bodd := by
  rw [isInside, isInside?_eq, Option.getD_some]

/-- With fewer than two corners nothing is inside. -/
theorem isInside_of_length_lt_two {polygon : List Point} (few : polygon.length < 2) :
    point.isInside polygon = false := by
  match polygon with
  | [] => rw [isInside_eq, crossings_nil, Nat.bodd_zero]
  | [corner] => rw [isInside_eq, crossings_singleton, Nat.bodd_zero]
  | _ :: _ :: rest => exact absurd few (Nat.not_lt.2 (Nat.le_add_left 2 rest.length))

/-- For every point and every list of corners, whatever bit patterns their coordinates are: no index
is out of range on the way, and the point is inside exactly if an odd number of the edges of the
closed line passes it on its right. The answer stays the same if the list begins with another of its
corners, or if a corner is listed further times in its place; and it is no if the list has fewer
than two corners. -/
theorem isInside_iff_odd_crossings (polygon : List Point) :
    point.isInside? polygon = some (point.isInside polygon) ∧
      (point.isInside polygon = true ↔ Odd (point.crossings polygon)) ∧
      (∀ places, point.isInside (polygon.rotate places) = point.isInside polygon) ∧
      (∀ before corner after further, polygon = before ++ corner :: after →
        point.isInside (before ++ List.replicate (further + 1) corner ++ after) =
          point.isInside polygon) ∧
      (polygon.length < 2 → point.isInside polygon = false) := by
  refine ⟨?found, ?odd, ?turned, ?repeated, point.isInside_of_length_lt_two⟩
  case found => rw [isInside?_eq, isInside_eq]
  case odd =>
    rw [isInside_eq, Nat.odd_iff, Nat.mod_two_of_bodd]
    cases (point.crossings polygon).bodd <;> simp
  case turned =>
    intro places
    rw [isInside_eq, isInside_eq, crossings_rotate]
  case repeated =>
    rintro before corner after further rfl
    rw [isInside_eq, isInside_eq, crossings_replicate]

/-- The middle of a square that stands on a corner is inside, from whichever corner on and with its
lowest corner listed three times. A corner alone has no inside. -/
theorem isInside_iff_odd_crossings_square :
    let middle : Point := ⟨0, 0⟩
    let square : List Point := [⟨0, -1⟩, ⟨1, 0⟩, ⟨0, 1⟩, ⟨-1, 0⟩]
    middle.crossings square = 1 ∧ middle.isInside? (square.rotate 3) = some true ∧
      middle.isInside [⟨0, -1⟩, ⟨1, 0⟩, ⟨0, 1⟩, ⟨0, 1⟩, ⟨0, 1⟩, ⟨-1, 0⟩] = true ∧
      [middle].length < 2 ∧ middle.isInside [middle] = false := by
  intro middle square
  have once : middle.crossings square = 1 := by decide
  obtain ⟨_, odd, turned, repeated, _⟩ := isInside_iff_odd_crossings middle square
  obtain ⟨found, _⟩ := isInside_iff_odd_crossings middle (square.rotate 3)
  obtain ⟨_, _, _, _, alone⟩ := isInside_iff_odd_crossings middle [middle]
  have inside : middle.isInside square = true := odd.2 (once ▸ odd_one)
  refine ⟨once, ?_, ?_, Nat.one_lt_two, alone Nat.one_lt_two⟩
  · rw [found, turned 3, inside]
  · exact (repeated [⟨0, -1⟩, ⟨1, 0⟩] ⟨0, 1⟩ [⟨-1, 0⟩] 2 rfl).trans inside

end Point

end Lamplighter
