import Lamplighter.Proofs.Engine.Progress
import Lamplighter.Proofs.Scene.Painting
import Lamplighter.Proofs.World.Showing

/-!
# Behind which cell the robot is painted

The robot is painted right behind one cell. `Engine.Snapshot.Straddles` says when it is between two
cells: then it is the one of them that is painted later, and otherwise the cell on which it has
arrived. `Frame.Arranged` turns this into places of the order in which a frame is painted.
-/

namespace Lamplighter

/-! ## Between two cells -/

namespace Engine.Snapshot

/-- What is shown has the robot between two cells: it walks and has not arrived, or it jumps and is
not beyond the middle of the jump. -/
def Straddles (snapshot : Snapshot) (animation : Animation) : Prop :=
  snapshot.animation = some animation ∧
    (animation.movement = .walk ∧ snapshot.progress.lt 1 = true ∨
      animation.movement.isJump = true ∧ snapshot.progress.le Painter.half = true)

section Straddles

variable {snapshot : Snapshot} {animation : Animation} (straddles : snapshot.Straddles animation)
include straddles

/-- Only who is led to another cell is between two. -/
theorem Straddles.leads : animation.movement ∈ Movement.leading := by
  rcases straddles.2 with ⟨walks, _⟩ | ⟨jumps, _⟩
  · rw [walks]
    decide
  · generalize animation.movement = movement at jumps
    cases movement <;> first | decide | exact absurd jumps Bool.false_ne_true

/-- Who is between two cells has not arrived. -/
theorem Straddles.unfinished : Binary32.le 1 snapshot.progress = false := by
  have early : snapshot.progress.lt 1 = true := by
    rcases straddles.2 with ⟨_, early⟩ | ⟨_, low⟩
    · exact early
    · exact Binary32.lt_of_le_of_lt low (by decide)
  cases arrived : Binary32.le 1 snapshot.progress with
  | false => rfl
  | true =>
      have never := Binary32.lt_of_le_of_lt arrived early
      exact absurd never (by decide)

end Straddles

end Engine.Snapshot

/-- A step in a direction changes the cell. -/
theorem Animation.moves_of_step {animation : Animation} {heading : Heading}
    (step : animation.delta.step = heading.step) : animation.moves = true := by
  obtain ⟨x, y⟩ := Cell.mk.inj step
  simp only [moves, x, y]
  cases heading <;> decide

/-! ## The anchor -/

namespace Painter

section Anchor

variable {pose : Pose} {snapshot : Engine.Snapshot} {order : List Cell}

/-- A robot between two cells of the order is painted behind the later one. -/
theorem robotAnchor_of_straddles {animation : Animation} (straddles : snapshot.Straddles animation)
    (moves : animation.moves = true) {departure arrival : Nat}
    (leaves : order.idxOf? (pose.position - animation.delta.step) = some departure)
    (reaches : order.idxOf? pose.position = some arrival) :
    robotAnchor pose snapshot order =
      if arrival < departure then pose.position - animation.delta.step else pose.position := by
  have unfinished := straddles.unfinished
  obtain ⟨shown, ⟨walks, _⟩ | ⟨jumps, low⟩⟩ := straddles
  · simp [robotAnchor, shown, moves, unfinished, leaves, reaches, walks]
  · cases isMovement : animation.movement with
    | jumpUp => simp [robotAnchor, shown, moves, unfinished, leaves, reaches, isMovement, low]
    | jumpDown => simp [robotAnchor, shown, moves, unfinished, leaves, reaches, isMovement, low]
    | _ => simp [Movement.isJump, isMovement] at jumps

/-- A robot that is not between two cells is painted behind the one on which it has arrived. -/
theorem robotAnchor_of_not_straddles (isNumber : snapshot.progress.isNaN = false)
    (settled : ∀ animation, ¬ snapshot.Straddles animation) :
    robotAnchor pose snapshot order = pose.position := by
  cases shown : snapshot.animation with
  | none => simp only [robotAnchor, shown]
  | some animation =>
      have notWalking : animation.movement = .walk → Binary32.le 1 snapshot.progress = true := by
        intro walks
        rw [Binary32.le_eq_not_lt (by decide) isNumber, Bool.not_eq_true']
        by_contra early
        exact settled animation ⟨shown, .inl ⟨walks, by simpa using early⟩⟩
      have notLow : animation.movement.isJump = true → snapshot.progress.le half = false := by
        intro jumps
        by_contra low
        exact settled animation ⟨shown, .inr ⟨jumps, by simpa using low⟩⟩
      cases isMovement : animation.movement with
      | walk => simp [robotAnchor, shown, notWalking isMovement]
      | jumpUp => simp [robotAnchor, shown, isMovement, notLow (by rw [isMovement]; rfl)]
      | jumpDown => simp [robotAnchor, shown, isMovement, notLow (by rw [isMovement]; rfl)]
      | _ => simp [robotAnchor, shown, isMovement]

end Anchor

end Painter

/-! ## Places in the order -/

/-- In a list without repetitions, an item has one place. -/
theorem idxOf?_eq_some_iff_getElem? {α : Type} [DecidableEq α] {list : List α} (once : list.Nodup)
    {item : α} {place : Nat} : list.idxOf? item = some place ↔ list[place]? = some item := by
  rw [List.idxOf?_eq_some_iff, List.getElem?_eq_some_iff]
  constructor
  · rintro ⟨inside, found, _⟩
    exact ⟨inside, found⟩
  · rintro ⟨inside, rfl⟩
    refine ⟨inside, rfl, fun earlier before same => ?_⟩
    have samePlace := (List.Nodup.getElem_inj_iff once).1 same
    omega

/-- A frame consists of the background, of some cells, each of them once, and of the robot right
behind one of them. -/
structure Frame.Arranged (frame : Frame) (cells : List Cell) (anchor : Cell) : Prop where
  once : cells.Nodup
  order : ∃ before after, cells = before ++ anchor :: after ∧
    frame.order = .background :: (before.map .cell ++ .cell anchor :: .robot :: after.map .cell)

namespace Frame

section Arranged

variable {frame : Frame} {cells : List Cell} {anchor : Cell} (arranged : frame.Arranged cells anchor)
include arranged

theorem Arranged.nodup_order : frame.order.Nodup := by
  obtain ⟨before, after, divided, order⟩ := arranged.order
  rw [order]
  exact Painter.nodup_items divided arranged.once

/-- The robot divides the cells behind the place of the anchor. -/
theorem Arranged.divided {last : Nat} (anchored : cells.idxOf? anchor = some last) :
    ∃ upTo after, upTo.length = last + 1 ∧ cells = upTo ++ after ∧
      frame.order = .background :: (upTo.map .cell ++ .robot :: after.map .cell) := by
  obtain ⟨before, after, divided, order⟩ := arranged.order
  have here : cells.idxOf? anchor = some before.length := by
    rw [idxOf?_eq_some_iff_getElem? arranged.once, divided,
      List.getElem?_append_right (Nat.le_refl _), Nat.sub_self, List.getElem?_cons_zero]
  obtain rfl : before.length = last := Option.some.inj (here.symm.trans anchored)
  refine ⟨before ++ [anchor], after, List.length_append, ?_, ?_⟩
  · rw [divided, List.append_assoc, List.singleton_append]
  · rw [order, List.map_append, List.map_singleton, List.append_assoc, List.singleton_append]

/-- The robot comes right behind the anchor; it is the background that moves both by a place. -/
theorem Arranged.robot_place {last : Nat} (anchored : cells.idxOf? anchor = some last) :
    frame.positionOf? .robot = some (last + 2) := by
  obtain ⟨upTo, after, length, -, order⟩ := arranged.divided anchored
  have many : (upTo.map DrawItem.cell).length = last + 1 := by rw [List.length_map, length]
  rw [Frame.positionOf?, idxOf?_eq_some_iff_getElem? arranged.nodup_order, order,
    List.getElem?_cons_succ, List.getElem?_append_right (Nat.le_of_eq many), many, Nat.sub_self,
    List.getElem?_cons_zero]

/-- The cells up to the anchor are painted in their order behind the background. -/
theorem Arranged.cell_place {last place : Nat} (anchored : cells.idxOf? anchor = some last)
    {cell : Cell} (found : cells.idxOf? cell = some place) (notBehind : place ≤ last) :
    frame.positionOf? (.cell cell) = some (place + 1) := by
  obtain ⟨upTo, after, length, divided, order⟩ := arranged.divided anchored
  have inside : place < upTo.length := by omega
  have many : (upTo.map DrawItem.cell).length = upTo.length := List.length_map _
  rw [idxOf?_eq_some_iff_getElem? arranged.once, divided, List.getElem?_append_left inside] at found
  rw [Frame.positionOf?, idxOf?_eq_some_iff_getElem? arranged.nodup_order, order,
    List.getElem?_cons_succ, List.getElem?_append_left (many ▸ inside), List.getElem?_map, found,
    Option.map_some]

end Arranged

end Frame

/-! ## The frame of a world -/

namespace Painter

/-- The cells of a world in the order in which they are painted. -/
abbrev cellOrder (painter : Painter) (world : World) : List Cell :=
  painter.drawOrder (world.grid.cells.map (·.1))

section Render

variable {world : World} (rectangular : world.grid.Rectangular) (small : world.grid.Small)
include rectangular small

/-- They are those of the map. -/
theorem mem_cellOrder_iff (painter : Painter) (cell : Cell) :
    cell ∈ painter.cellOrder world ↔ world.grid.contains cell = true := by
  rw [(painter.drawOrder_perm _).mem_iff, rectangular.mem_cells_iff small]

/-- Each of them has a place. -/
theorem exists_idxOf?_cellOrder (painter : Painter) {cell : Cell}
    (onMap : world.grid.contains cell = true) :
    ∃ place, (painter.cellOrder world).idxOf? cell = some place :=
  Option.isSome_iff_exists.1
    (List.isSome_idxOf?.2 ((mem_cellOrder_iff rectangular small painter cell).2 onMap))

variable (inside : world.grid.contains world.pose.position = true)
include inside

/-- The frame of a world on whose map the robot is consists of the background, the cells of the map
and the robot behind its anchor. -/
theorem arranged_render (painter : Painter) (snapshot : Engine.Snapshot) :
    (painter.render world snapshot).Arranged (painter.cellOrder world)
      (robotAnchor world.pose snapshot (painter.cellOrder world)) := by
  have isCell := mem_cellOrder_iff rectangular small painter
  have once : (painter.cellOrder world).Nodup :=
    (painter.drawOrder_perm _).nodup_iff.2 (rectangular.nodup_cells small)
  have onMap : ∀ cell ∈ painter.cellOrder world, ∃ tile, world.grid.tile? cell = some tile :=
    fun cell member => rectangular.tile?_of_contains ((isCell cell).1 member)
  obtain ⟨before, after, divided⟩ :=
    List.append_of_mem (robotAnchor_mem snapshot ((isCell _).2 inside))
  refine ⟨once, before, after, divided, ?_⟩
  rw [painter.render_eq world snapshot, Frame.order_assembled, List.map_cons,
    map_item_of_anchor divided onMap once]

/-- At the place of the robot, the robot is painted. -/
theorem paintsRobot_of_positionOf? (painter : Painter) (snapshot : Engine.Snapshot) {place : Nat}
    (found : (painter.render world snapshot).positionOf? .robot = some place) :
    painter.PaintsRobot world snapshot ((painter.render world snapshot).commandsFor place) := by
  have once := (arranged_render rectangular small inside painter snapshot).nodup_order
  exact paintsRobot_render ((idxOf?_eq_some_iff_getElem? once).1 found)

/-- A robot between two cells is painted right behind the later one. -/
theorem positionOf?_of_straddles (painter : Painter) {snapshot : Engine.Snapshot}
    {animation : Animation} (straddles : snapshot.Straddles animation)
    (traced : world.Traced animation) :
    ∃ departure arrival,
      (painter.render world snapshot).positionOf?
          (.cell (world.pose.position - animation.delta.step)) = some departure ∧
        (painter.render world snapshot).positionOf? (.cell world.pose.position) = some arrival ∧
        (painter.render world snapshot).positionOf? .robot = some (max departure arrival + 1) := by
  obtain ⟨departure, leaves⟩ :=
    exists_idxOf?_cellOrder rectangular small painter (traced.source straddles.leads)
  obtain ⟨arrival, reaches⟩ := exists_idxOf?_cellOrder rectangular small painter inside
  have arranged := arranged_render rectangular small inside painter snapshot
  have moves := Animation.moves_of_step (traced.step straddles.leads)
  refine ⟨departure + 1, arrival + 1, ?_⟩
  rw [robotAnchor_of_straddles straddles moves leaves reaches] at arranged
  rw [Nat.add_max_add_right]
  by_cases leavesLater : arrival < departure
  · rw [if_pos leavesLater] at arranged
    rw [Nat.max_eq_left (Nat.le_of_lt leavesLater)]
    exact ⟨arranged.cell_place leaves leaves (Nat.le_refl _),
      arranged.cell_place leaves reaches (Nat.le_of_lt leavesLater),
      arranged.robot_place leaves⟩
  · rw [if_neg leavesLater] at arranged
    have earlier : departure ≤ arrival := Nat.le_of_not_lt leavesLater
    rw [Nat.max_eq_right earlier]
    exact ⟨arranged.cell_place reaches leaves earlier,
      arranged.cell_place reaches reaches (Nat.le_refl _),
      arranged.robot_place reaches⟩

/-- A robot that is not between two cells is painted right behind the one on which it has
arrived. -/
theorem positionOf?_of_not_straddles (painter : Painter) {snapshot : Engine.Snapshot}
    (isNumber : snapshot.progress.isNaN = false)
    (settled : ∀ animation, ¬ snapshot.Straddles animation) :
    ∃ arrival,
      (painter.render world snapshot).positionOf? (.cell world.pose.position) = some arrival ∧
        (painter.render world snapshot).positionOf? .robot = some (arrival + 1) := by
  obtain ⟨arrival, reaches⟩ := exists_idxOf?_cellOrder rectangular small painter inside
  have arranged := arranged_render rectangular small inside painter snapshot
  rw [robotAnchor_of_not_straddles isNumber settled] at arranged
  exact ⟨arrival + 1, arranged.cell_place reaches reaches (Nat.le_refl _),
    arranged.robot_place reaches⟩

end Render

end Painter

end Lamplighter
