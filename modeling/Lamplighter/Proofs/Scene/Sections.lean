import Lamplighter.Scene.Painter
import Mathlib.Data.List.Nodup

/-!
# Sections of a frame

A frame is painted command by command, but it is read item by item. `Frame.assembled` is the frame
of some sections, each an item with its own commands. Starting an item and painting behind it adds a
section, and `Frame.commandsFor_assembled` gives the commands of each section back. The frame of a
map has a section for each cell, and one more behind a certain cell: `Frame.map_item_flatMap`.
-/

namespace Lamplighter.Frame

/-- An item with the commands that belong to it. -/
structure Section where
  item : DrawItem
  commands : List DrawCommand
deriving DecidableEq, Repr

/-- The items of some sections, where a number of commands precedes the first. -/
def itemsFrom (start : Nat) : List Section → List (DrawItem × Nat)
  | [] => []
  | first :: rest => (first.item, start) :: itemsFrom (start + first.commands.length) rest

/-- The frame of some sections, behind commands that belong to no item. -/
def assembled (loose : List DrawCommand) (sections : List Section) : Frame where
  commands := loose ++ sections.flatMap Section.commands
  items := itemsFrom loose.length sections

/-- A new frame has one section. -/
theorem new_eq_assembled (background : Colour) :
    new background = assembled [] [⟨.background, [.clear background]⟩] := rfl

/-! ## Adding a section -/

theorem itemsFrom_append (start : Nat) (before after : List Section) :
    itemsFrom start (before ++ after) =
      itemsFrom start before ++
        itemsFrom (start + (before.flatMap Section.commands).length) after := by
  induction before generalizing start with
  | nil => rfl
  | cons first rest inductionHypothesis =>
      rw [List.cons_append, itemsFrom, itemsFrom, inductionHypothesis, List.flatMap_cons,
        List.length_append, Nat.add_assoc, List.cons_append]

/-- Painting some commands adds them behind the others. -/
theorem paint_eq (frame : Frame) (commands : List DrawCommand) :
    Painter.paint frame commands = { frame with commands := frame.commands ++ commands } := by
  induction commands generalizing frame with
  | nil => simp [Painter.paint]
  | cons first rest inductionHypothesis =>
      have later := inductionHypothesis (frame.push first)
      rw [Painter.paint] at later ⊢
      rw [List.foldl_cons, later, push, List.append_assoc, List.singleton_append]

/-- Starting an item and painting some commands adds a section. -/
theorem paint_start_assembled (loose : List DrawCommand) (sections : List Section)
    (item : DrawItem) (commands : List DrawCommand) :
    Painter.paint ((assembled loose sections).start item) commands =
      assembled loose (sections ++ [⟨item, commands⟩]) := by
  simp [paint_eq, start, assembled, itemsFrom_append, itemsFrom]

/-- Where each item of a list adds some sections, all of them do so one after the other. -/
theorem foldl_assembled {α : Type} {step : Frame → α → Frame} {sectionsOf : α → List Section}
    {loose : List DrawCommand} {list : List α}
    (adds : ∀ item ∈ list, ∀ sections,
      step (assembled loose sections) item = assembled loose (sections ++ sectionsOf item))
    (sections : List Section) :
    list.foldl step (assembled loose sections) =
      assembled loose (sections ++ list.flatMap sectionsOf) := by
  induction list generalizing sections with
  | nil => simp
  | cons first rest inductionHypothesis =>
      obtain ⟨addsFirst, addsRest⟩ := List.forall_mem_cons.1 adds
      rw [List.foldl_cons, addsFirst, inductionHypothesis addsRest, List.flatMap_cons,
        List.append_assoc]

/-! ## Reading sections -/

/-- The order of a frame is that of its sections. -/
theorem order_assembled (loose : List DrawCommand) (sections : List Section) :
    (assembled loose sections).order = sections.map Section.item := by
  have items : ∀ start, (itemsFrom start sections).map (·.1) = sections.map Section.item := by
    induction sections with
    | nil => exact fun _ => rfl
    | cons first rest inductionHypothesis =>
        intro start
        rw [itemsFrom, List.map_cons, inductionHypothesis, List.map_cons]
  exact items loose.length

theorem length_itemsFrom (start : Nat) (sections : List Section) :
    (itemsFrom start sections).length = sections.length := by
  induction sections generalizing start with
  | nil => rfl
  | cons first rest inductionHypothesis =>
      rw [itemsFrom, List.length_cons, inductionHypothesis, List.length_cons]

/-- The commands of an item are those of its section: they end where the next section starts, or
with the frame. -/
theorem commandsFor_assembled (loose : List DrawCommand) (before : List Section)
    (current : Section) (after : List Section) :
    (assembled loose (before ++ current :: after)).commandsFor before.length =
      current.commands := by
  let start := loose.length + (before.flatMap Section.commands).length
  have items : (assembled loose (before ++ current :: after)).items =
      itemsFrom loose.length before ++
        (current.item, start) :: itemsFrom (start + current.commands.length) after :=
    itemsFrom_append _ _ _
  have here : (assembled loose (before ++ current :: after)).items[before.length]? =
      some (current.item, start) := by
    rw [items, List.getElem?_append_right (Nat.le_of_eq (length_itemsFrom _ _)),
      length_itemsFrom, Nat.sub_self, List.getElem?_cons_zero]
  have next : (assembled loose (before ++ current :: after)).items[before.length + 1]? =
      (itemsFrom (start + current.commands.length) after).head? := by
    rw [items, List.getElem?_append_right (by rw [length_itemsFrom]; omega), length_itemsFrom,
      Nat.add_sub_cancel_left, List.getElem?_cons_succ, List.head?_eq_getElem?]
  have commands : (assembled loose (before ++ current :: after)).commands =
      (loose ++ before.flatMap Section.commands) ++
        (current.commands ++ after.flatMap Section.commands) := by
    simp [assembled]
  -- Behind the last section the commands go on to the end of the frame, and that is where it ends.
  have finish : ((itemsFrom (start + current.commands.length) after).head?.map (·.2)).getD
      (assembled loose (before ++ current :: after)).commands.length =
        start + current.commands.length := by
    cases after with
    | nil => simp [itemsFrom, commands, start, Nat.add_assoc]
    | cons following rest => rfl
  have long : start = (loose ++ before.flatMap Section.commands).length :=
    List.length_append.symm
  simp only [commandsFor, here, next]
  rw [finish, commands, long, List.take_length_add_append, List.drop_left, List.take_left]

/-- The commands at a place in the order are those of the section at this place. -/
theorem commandsFor_of_getElem? {loose : List DrawCommand} {sections : List Section} {index : Nat}
    {current : Section} (found : sections[index]? = some current) :
    (assembled loose sections).commandsFor index = current.commands := by
  obtain ⟨inside, rfl⟩ := List.getElem?_eq_some_iff.1 found
  have divided := commandsFor_assembled loose (sections.take index) sections[index]
    (sections.drop (index + 1))
  rwa [List.getElem_cons_drop, List.take_append_drop, List.length_take,
    Nat.min_eq_left (Nat.le_of_lt inside)] at divided

/-- Behind every item of the order stand the commands of a section with this item. -/
theorem exists_section_of_order {loose : List DrawCommand} {sections : List Section} {index : Nat}
    {item : DrawItem} (found : (assembled loose sections).order[index]? = some item) :
    ∃ current ∈ sections, current.item = item ∧
      (assembled loose sections).commandsFor index = current.commands := by
  rw [order_assembled, List.getElem?_map, Option.map_eq_some_iff] at found
  obtain ⟨current, isSection, isItem⟩ := found
  exact ⟨current, List.mem_of_getElem? isSection, isItem, commandsFor_of_getElem? isSection⟩

/-! ## A section for each cell -/

/-- Cells among which the marked one is not make one item each. -/
theorem flatMap_items_of_not_mem {marked : Cell} {item : DrawItem} {cells : List Cell}
    (elsewhere : marked ∉ cells) :
    (cells.flatMap fun cell => DrawItem.cell cell :: if cell = marked then [item] else []) =
      cells.map .cell := by
  induction cells with
  | nil => rfl
  | cons first rest inductionHypothesis =>
      obtain ⟨notFirst, notRest⟩ := not_or.1 (mt List.mem_cons.2 elsewhere)
      rw [List.flatMap_cons, inductionHypothesis notRest, if_neg (Ne.symm notFirst), List.map_cons,
        List.singleton_append]

/-- Where each cell has a section, and the marked one has another one behind it, the items are the
cells in their order, with the other item behind the marked cell. -/
theorem map_item_flatMap {sectionsOf : Cell → List Section} {marked : Cell} {item : DrawItem}
    {cells before after : List Cell} (divided : cells = before ++ marked :: after)
    (once : cells.Nodup)
    (items : ∀ cell ∈ cells, (sectionsOf cell).map Section.item =
      .cell cell :: if cell = marked then [item] else []) :
    (cells.flatMap sectionsOf).map Section.item =
      before.map .cell ++ .cell marked :: item :: after.map .cell := by
  rw [List.map_flatMap, List.flatMap_congr items]
  subst divided
  -- The marked cell is listed once, so the other item follows no other cell.
  have notBefore : marked ∉ before := by
    intro member
    exact List.disjoint_of_nodup_append once member List.mem_cons_self
  have notAfter : marked ∉ after := (List.nodup_cons.1 (List.nodup_append.1 once).2.1).1
  rw [List.flatMap_append, List.flatMap_cons, flatMap_items_of_not_mem notBefore,
    flatMap_items_of_not_mem notAfter, if_pos rfl, List.cons_append, List.singleton_append]

/-- With the background and another item, cells that are listed once make items that are. -/
theorem nodup_items_of_divided {marked : Cell} {item : DrawItem} {cells before after : List Cell}
    (divided : cells = before ++ marked :: after) (once : cells.Nodup)
    (other : item ∉ DrawItem.background :: cells.map .cell) :
    (DrawItem.background ::
      (before.map .cell ++ .cell marked :: item :: after.map .cell)).Nodup := by
  have arranged : List.Perm
      (DrawItem.background :: (before.map .cell ++ .cell marked :: item :: after.map .cell))
      (item :: .background :: cells.map .cell) := by
    rw [divided, List.map_append, List.map_cons]
    refine List.Perm.trans (.cons _ ?_) (.swap _ _ _)
    exact (List.Perm.swap _ _ _).append_left _ |>.trans List.perm_middle
  rw [arranged.nodup_iff, List.nodup_cons]
  refine ⟨other, List.nodup_cons.2 ⟨?_, once.map fun _ _ => DrawItem.cell.inj⟩⟩
  rw [List.mem_map]
  rintro ⟨cell, _, isCell⟩
  exact absurd isCell DrawItem.noConfusion

end Lamplighter.Frame
