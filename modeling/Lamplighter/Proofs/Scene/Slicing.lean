import Lamplighter.Proofs.Scene.Sections

/-!
# Slices of a frame

A frame keeps its items apart from its commands: an item only remembers how many commands came
before it. `Frame.Sliced` is what makes this a division of the commands, and every call keeps it.
Which commands an item then has can be read off the history of the frame, call by call:
`Frame.commandsFor_of_made`.
-/

namespace Lamplighter.Frame

/-! ## Histories -/

/-- What a call adds to a frame. -/
inductive Event where
  | started (item : DrawItem)
  | issued (command : DrawCommand)

namespace Event

/-- The item that is started, if one is. -/
def item? : Event → Option DrawItem
  | started item => some item
  | issued _ => none

/-- The command that is issued, if one is. -/
def command? : Event → Option DrawCommand
  | started _ => none
  | issued command => some command

end Event

/-- A frame that was made by calls, with what they added to it in their order. -/
inductive Made : List Event → Frame → Prop where
  | empty : Made [] empty
  | new (background : Colour) :
      Made [.started .background, .issued (.clear background)] (new background)
  | start {history : List Event} {frame : Frame} (made : Made history frame) (item : DrawItem) :
      Made (history ++ [.started item]) (frame.start item)
  | polygon {history : List Event} {frame : Frame} (made : Made history frame)
      (points : List Point) (fill : Colour) (outline : Option Colour) :
      Made (history ++ [.issued (.polygon points fill outline)])
        (frame.polygon points fill outline)
  | disc {history : List Event} {frame : Frame} (made : Made history frame) (centre : Point)
      (radius : Binary32) (colour : Colour) :
      Made (history ++ [.issued (.disc centre radius colour)]) (frame.disc centre radius colour)

/-- The items that were started. -/
def itemsOf (history : List Event) : List DrawItem := history.filterMap Event.item?

/-- The commands that were issued. -/
def commandsOf (history : List Event) : List DrawCommand := history.filterMap Event.command?

/-- The commands that were issued before the next item was started. -/
def untilStart : List Event → List DrawCommand
  | [] => []
  | .started _ :: _ => []
  | .issued command :: rest => command :: untilStart rest

/-- Every item that was started, with the commands up to the next one. -/
def sectionsOf : List Event → List Section
  | [] => []
  | .started item :: rest => ⟨item, untilStart rest⟩ :: sectionsOf rest
  | .issued _ :: rest => sectionsOf rest

/-- The sections of a history have its items. -/
theorem map_item_sectionsOf (history : List Event) :
    (sectionsOf history).map Section.item = itemsOf history := by
  induction history with
  | nil => rfl
  | cons event rest inductionHypothesis =>
      cases event with
      | started item => exact congrArg (item :: ·) inductionHypothesis
      | issued command => exact inductionHypothesis

/-- The sections of a history have its commands, except for those in front of all items. -/
theorem untilStart_append_sectionsOf (history : List Event) :
    untilStart history ++ (sectionsOf history).flatMap Section.commands = commandsOf history := by
  induction history with
  | nil => rfl
  | cons event rest inductionHypothesis =>
      cases event with
      | started item => exact inductionHypothesis
      | issued command => exact congrArg (command :: ·) inductionHypothesis

/-- An item is the section behind those of the items that were started before it. -/
theorem getElem?_sectionsOf (before : List Event) (item : DrawItem) (behind : List Event) :
    (sectionsOf (before ++ .started item :: behind))[(itemsOf before).length]? =
      some ⟨item, untilStart behind⟩ := by
  induction before with
  | nil => rfl
  | cons event rest inductionHypothesis =>
      cases event with
      | started first => simpa [sectionsOf, itemsOf, Event.item?] using inductionHypothesis
      | issued command => exact inductionHypothesis

/-! ## The frame of a history -/

/-- Add to a frame what an event says. -/
def follow (frame : Frame) : Event → Frame
  | .started item => frame.start item
  | .issued command => frame.push command

/-- A frame that was made follows from its history. -/
theorem Made.eq_foldl {history : List Event} {frame : Frame} (made : Made history frame) :
    frame = history.foldl follow Frame.empty := by
  induction made with
  | empty => rfl
  | new background => rfl
  | start _ item inductionHypothesis =>
      rw [List.foldl_append, ← inductionHypothesis]
      rfl
  | polygon _ points fill outline inductionHypothesis =>
      rw [List.foldl_append, ← inductionHypothesis]
      rfl
  | disc _ centre radius colour inductionHypothesis =>
      rw [List.foldl_append, ← inductionHypothesis]
      rfl

/-- A command that is issued behind some sections belongs to the last of them. -/
theorem push_assembled (loose : List DrawCommand) (sections : List Section) (item : DrawItem)
    (commands : List DrawCommand) (command : DrawCommand) :
    (assembled loose (sections ++ [⟨item, commands⟩])).push command =
      assembled loose (sections ++ [⟨item, commands ++ [command]⟩]) := by
  simp [push, assembled, itemsFrom_append, itemsFrom]

/-- An item that is started behind some sections has no commands yet. -/
theorem start_assembled (loose : List DrawCommand) (sections : List Section) (item : DrawItem) :
    (assembled loose sections).start item = assembled loose (sections ++ [⟨item, []⟩]) :=
  paint_start_assembled loose sections item []

/-- Behind a section, a history first goes on with it. -/
theorem foldl_follow_section (loose : List DrawCommand) (sections : List Section) (item : DrawItem)
    (commands : List DrawCommand) (history : List Event) :
    history.foldl follow (assembled loose (sections ++ [⟨item, commands⟩])) =
      assembled loose
        (sections ++ ⟨item, commands ++ untilStart history⟩ :: sectionsOf history) := by
  induction history generalizing sections item commands with
  | nil => simp [untilStart, sectionsOf]
  | cons event rest inductionHypothesis =>
      cases event with
      | started next =>
          rw [List.foldl_cons, follow, start_assembled, inductionHypothesis]
          simp [untilStart, sectionsOf]
      | issued command =>
          rw [List.foldl_cons, follow, push_assembled, inductionHypothesis]
          simp [untilStart, sectionsOf]

/-- In front of all items, a history first goes on with commands that belong to none. -/
theorem foldl_follow_loose (loose : List DrawCommand) (history : List Event) :
    history.foldl follow (assembled loose []) =
      assembled (loose ++ untilStart history) (sectionsOf history) := by
  induction history generalizing loose with
  | nil => simp [untilStart, sectionsOf]
  | cons event rest inductionHypothesis =>
      cases event with
      | started item =>
          rw [List.foldl_cons, follow, start_assembled, foldl_follow_section]
          simp [untilStart, sectionsOf]
      | issued command =>
          have pushed : (assembled loose []).push command = assembled (loose ++ [command]) [] := by
            simp [push, assembled, itemsFrom]
          rw [List.foldl_cons, follow, pushed, inductionHypothesis]
          simp [untilStart, sectionsOf]

/-- A frame that was made consists of the sections of its history. -/
theorem Made.eq_assembled {history : List Event} {frame : Frame} (made : Made history frame) :
    frame = assembled (untilStart history) (sectionsOf history) :=
  made.eq_foldl.trans (foldl_follow_loose [] history)

/-! ## Slices -/

/-- The numbers of commands in front of the items. -/
def starts (frame : Frame) : List Nat := frame.items.map (·.2)

/-- There are as many starts as items. -/
theorem length_starts (frame : Frame) : frame.starts.length = frame.order.length := by
  rw [starts, order, List.length_map, List.length_map]

/-- The order and the starts, entry by entry, are the items. -/
theorem zip_order_starts (frame : Frame) : frame.order.zip frame.starts = frame.items := by
  rw [order, starts, List.zip_map', List.map_id'']
  exact fun _ => rfl

/-- A started item comes last in the order, and its start is the number of commands so far. -/
theorem order_starts_start (frame : Frame) (item : DrawItem) :
    (frame.start item).order = frame.order ++ [item] ∧
      (frame.start item).starts = frame.starts ++ [frame.commands.length] := by
  simp [start, order, starts]

/-- The places among all commands at which those of an item start and end. -/
def slice? (frame : Frame) (index : Nat) : Option (Nat × Nat) :=
  frame.starts[index]?.map fun start =>
    (start, frame.starts[index + 1]?.getD frame.commands.length)

/-- The commands of a frame are divided among its items: no item starts before an earlier one, and
none behind the end. -/
structure Sliced (frame : Frame) : Prop where
  ascending : frame.starts.Pairwise (· ≤ ·)
  inside : ∀ start ∈ frame.starts, start ≤ frame.commands.length

/-- A slice ends where the next one starts, or at the end. -/
theorem slice?_eq_some_iff {frame : Frame} {index start finish : Nat} :
    frame.slice? index = some (start, finish) ↔
      frame.starts[index]? = some start ∧
        frame.starts[index + 1]?.getD frame.commands.length = finish := by
  simp [slice?]

/-- The commands of an item are those in its slice. -/
theorem commandsFor_of_slice? {frame : Frame} {index start finish : Nat}
    (found : frame.slice? index = some (start, finish)) :
    frame.commandsFor index = (frame.commands.take finish).drop start := by
  obtain ⟨isFirst, rfl⟩ := slice?_eq_some_iff.1 found
  rw [starts, List.getElem?_map] at isFirst
  obtain ⟨⟨item, _⟩, isItem, rfl⟩ := Option.map_eq_some_iff.1 isFirst
  simp only [commandsFor, isItem, starts, List.getElem?_map]

/-- An empty frame is divided among no items. -/
theorem sliced_empty : empty.Sliced := ⟨.nil, fun _ member => absurd member List.not_mem_nil⟩

/-- Starting an item keeps the commands divided. -/
theorem Sliced.start {frame : Frame} (sliced : frame.Sliced) (item : DrawItem) :
    (frame.start item).Sliced := by
  obtain ⟨-, starts⟩ := frame.order_starts_start item
  constructor
  · rw [starts, List.pairwise_append]
    refine ⟨sliced.ascending, List.pairwise_singleton _ _, ?_⟩
    intro start member last isLast
    rw [List.mem_singleton.1 isLast]
    exact sliced.inside start member
  · intro start member
    rw [starts, List.mem_append, List.mem_singleton] at member
    rcases member with earlier | rfl
    · exact sliced.inside start earlier
    · exact Nat.le_refl _

/-- Issuing a command keeps the commands divided. -/
theorem Sliced.push {frame : Frame} (sliced : frame.Sliced) (command : DrawCommand) :
    (frame.push command).Sliced := by
  constructor
  · exact sliced.ascending
  · intro start member
    have within := sliced.inside start member
    rw [Frame.push, List.length_append]
    exact Nat.le_add_right_of_le within

/-- The commands of a frame that was made are divided among its items. -/
theorem Made.sliced {history : List Event} {frame : Frame} (made : Made history frame) :
    frame.Sliced := by
  induction made with
  | empty => exact sliced_empty
  | new background => exact (sliced_empty.start _).push _
  | start _ item inductionHypothesis => exact inductionHypothesis.start item
  | polygon _ points fill outline inductionHypothesis => exact inductionHypothesis.push _
  | disc _ centre radius colour inductionHypothesis => exact inductionHypothesis.push _

/-- A slice ends behind its start and within the commands. -/
theorem Sliced.slice_bounds {frame : Frame} (sliced : frame.Sliced) {index start finish : Nat}
    (found : frame.slice? index = some (start, finish)) :
    start ≤ finish ∧ finish ≤ frame.commands.length := by
  obtain ⟨isFirst, rfl⟩ := slice?_eq_some_iff.1 found
  cases next : frame.starts[index + 1]? with
  | none => exact ⟨sliced.inside start (List.mem_of_getElem? isFirst), Nat.le_refl _⟩
  | some following =>
      obtain ⟨here, isHere⟩ := List.getElem?_eq_some_iff.1 isFirst
      obtain ⟨there, isThere⟩ := List.getElem?_eq_some_iff.1 next
      have ascends :=
        List.pairwise_iff_getElem.1 sliced.ascending index (index + 1) here there (by omega)
      rw [isHere, isThere] at ascends
      exact ⟨ascends, sliced.inside following (List.mem_of_getElem? next)⟩

/-- A later slice starts behind an earlier one. -/
theorem Sliced.slices_disjoint {frame : Frame} (sliced : frame.Sliced)
    {index later start finish next last : Nat} (earlier : index < later)
    (found : frame.slice? index = some (start, finish))
    (foundLater : frame.slice? later = some (next, last)) : finish ≤ next := by
  obtain ⟨_, rfl⟩ := slice?_eq_some_iff.1 found
  obtain ⟨inside, isThere⟩ := List.getElem?_eq_some_iff.1 (slice?_eq_some_iff.1 foundLater).1
  have behind : index + 1 < frame.starts.length := Nat.lt_of_le_of_lt earlier inside
  rw [List.getElem?_eq_getElem behind, Option.getD_some, ← isThere]
  rcases Nat.eq_or_lt_of_le (Nat.succ_le_of_lt earlier) with rfl | between
  · exact Nat.le_refl _
  · exact List.pairwise_iff_getElem.1 sliced.ascending (index + 1) later behind inside between

/-! ## What is read -/

/-- Read one after the other, the items of some sections have all their commands. -/
theorem flatMap_commandsFor_assembled (loose : List DrawCommand) (sections : List Section) :
    (List.range sections.length).flatMap (assembled loose sections).commandsFor =
      sections.flatMap Section.commands := by
  have each : (List.range sections.length).map (assembled loose sections).commandsFor =
      sections.map Section.commands := by
    refine List.ext_getElem (by simp) fun index inside _ => ?_
    rw [List.length_map, List.length_range] at inside
    rw [List.getElem_map, List.getElem_range, List.getElem_map]
    exact commandsFor_of_getElem? (List.getElem?_eq_getElem inside)
  rw [List.flatMap_def, each, ← List.flatMap_def]

/-- Every item of the order has a slice. -/
theorem exists_slice? {frame : Frame} {index : Nat} (inside : index < frame.order.length) :
    ∃ start finish, frame.slice? index = some (start, finish) := by
  have within : index < frame.starts.length := by rwa [length_starts]
  rw [slice?, List.getElem?_eq_getElem within, Option.map_some]
  exact ⟨_, _, rfl⟩

/-- Behind the last item there are no commands. -/
theorem commandsFor_eq_nil {frame : Frame} {index : Nat} (beyond : frame.order.length ≤ index) :
    frame.commandsFor index = [] := by
  rw [order, List.length_map] at beyond
  simp [commandsFor, List.getElem?_eq_none beyond]

/-- However a frame was made: its items and its commands are those of the calls, in their order.
What an item has is just what was issued after it was started and before the next one was. The
slices are valid, since the starts never decrease and never exceed the number of commands, and none
overlaps a later one; together they are all commands but those issued in front of the first item. A
place behind the last item has no commands. -/
theorem commandsFor_of_made {history : List Event} {frame : Frame} (made : Made history frame) :
    (frame.order = itemsOf history ∧ frame.commands = commandsOf history) ∧
      (∀ before item behind, history = before ++ .started item :: behind →
        frame.order[(itemsOf before).length]? = some item ∧
          frame.commandsFor (itemsOf before).length = untilStart behind) ∧
      frame.Sliced ∧
      (∀ index, index < frame.order.length → ∃ start finish,
        frame.slice? index = some (start, finish) ∧
          start ≤ finish ∧ finish ≤ frame.commands.length ∧
          frame.commandsFor index = (frame.commands.take finish).drop start ∧
          ∀ later next last, index < later → frame.slice? later = some (next, last) →
            finish ≤ next) ∧
      frame.commands =
        untilStart history ++ (List.range frame.order.length).flatMap frame.commandsFor ∧
      ∀ index, frame.order.length ≤ index → frame.commandsFor index = [] := by
  have sliced := made.sliced
  have divided := made.eq_assembled
  have order : frame.order = (sectionsOf history).map Section.item := by
    rw [divided, order_assembled]
  have commands : frame.commands = commandsOf history := by
    rw [divided]
    exact untilStart_append_sectionsOf history
  refine ⟨⟨order.trans (map_item_sectionsOf history), commands⟩, ?_, sliced, ?_, ?_, ?_⟩
  · rintro before item behind rfl
    have current := getElem?_sectionsOf before item behind
    rw [order, List.getElem?_map, current, divided, commandsFor_of_getElem? current]
    exact ⟨rfl, rfl⟩
  · intro index inside
    obtain ⟨start, finish, found⟩ := exists_slice? inside
    obtain ⟨valid, within⟩ := sliced.slice_bounds found
    refine ⟨start, finish, found, valid, within, commandsFor_of_slice? found, ?_⟩
    intro later next last behind foundLater
    exact sliced.slices_disjoint behind found foundLater
  · rw [order, List.length_map, divided, flatMap_commandsFor_assembled]
    rfl
  · exact fun index beyond => commandsFor_eq_nil beyond

/-- A disc that belongs to no item, an item without commands, and a last item that is open. -/
theorem commandsFor_of_made_sketch :
    let dot : DrawCommand := .disc ⟨1, 2⟩ 3 .black
    let history : List Event :=
      [.issued dot, .started .robot, .started .spawnMarker, .issued dot, .issued dot]
    ∃ frame, Made history frame ∧ frame.commands.length = 3 ∧
      frame.commandsFor 0 = [] ∧ frame.commandsFor 1 = [dot, dot] ∧ frame.commandsFor 2 = [] ∧
      frame.commands = dot :: (frame.commandsFor 0 ++ frame.commandsFor 1) := by
  intro dot history
  have made : Made history _ :=
    ((((Made.empty.disc ⟨1, 2⟩ 3 .black).start .robot).start .spawnMarker).disc
      ⟨1, 2⟩ 3 .black).disc ⟨1, 2⟩ 3 .black
  obtain ⟨⟨order, commands⟩, reads, _, _, all, beyond⟩ := commandsFor_of_made made
  have two : itemsOf history = [.robot, .spawnMarker] := rfl
  refine ⟨_, made, ?_, ?_, ?_, ?_, ?_⟩
  · rw [commands]
    rfl
  · exact (reads [.issued dot] .robot [.started .spawnMarker, .issued dot, .issued dot] rfl).2
  · exact (reads [.issued dot, .started .robot] .spawnMarker [.issued dot, .issued dot] rfl).2
  · exact beyond 2 (by rw [order, two]; exact Nat.le_refl _)
  · rw [order, two] at all
    simpa [List.range_succ, history, untilStart] using all

end Lamplighter.Frame
