import Lamplighter.Geometry

/-!
# Display lists

A frame is what is painted, command by command, together with the items that the commands belong to:
each item remembers how many commands came before it. The commands of an item are those from its own
start to the start of the next item.
-/

namespace Lamplighter

/-- A colour, by its parts between zero and one. -/
structure Colour where
  red : Binary32
  green : Binary32
  blue : Binary32
  opacity : Binary32
deriving DecidableEq, Repr

namespace Colour

/-- The opaque colour of a number with eight bits for each of red, green and blue. -/
def ofCode (code : UInt32) : Colour :=
  let part (value : UInt32) : Binary32 := .ofNat (value &&& 0xff).toNat / 255
  ⟨part (code >>> 16), part (code >>> 8), part code, 1⟩

/-- Black. -/
def black : Colour := ⟨0, 0, 0, 1⟩

/-- A colour between two others. -/
def mix (first second : Colour) (share : Binary32) : Colour :=
  let share := share.clamp 0 1
  let between (start finish : Binary32) : Binary32 := start + (finish - start) * share
  ⟨between first.red second.red, between first.green second.green,
    between first.blue second.blue, between first.opacity second.opacity⟩

/-- The colour of the canvas. -/
def background : Colour := ofCode 0xf2f6f8

/-- The colour of the ground under a tile. -/
def ground : Colour := ofCode 0xdde5ea

/-- The colour of the top of a tile. -/
def tileTop : Colour := ofCode 0xc9d3d9

/-- The colour of the darker side of a tile. -/
def tileFront : Colour := ofCode 0xadb8bd

/-- The colour of the lighter side of a tile. -/
def tileSide : Colour := ofCode 0xe5f0f5

/-- The colour of the edges of a tile. -/
def outline : Colour := ofCode 0x485256

/-- The colour of a lamp that is not lit. -/
def lampOff : Colour := ofCode 0x0468fb

/-- The colour of a lamp that is lit. -/
def lampOn : Colour := ofCode 0xffe545

/-- The colour of the robot. -/
def robotBody : Colour := ofCode 0x3a8f5c

/-- The colour of the eye of the robot. -/
def robotEye : Colour := ofCode 0xffffff

/-- The colour of the robot while it lights a lamp. -/
def robotFlash : Colour := ofCode 0xfff3a0

/-- The colour of the mark where the robot starts. -/
def spawnMarker : Colour :=
  ⟨.ofFraction false 9 10, .ofFraction false 2 10, .ofFraction false 3 10, .ofFraction false 85 100⟩

/-- The colour that is laid over the cell under the pointer. -/
def hover : Colour := ⟨1, 1, 1, .ofFraction false 35 100⟩

/-- Every colour of the palette. -/
def palette : List Colour :=
  [background, ground, tileTop, tileFront, tileSide, outline, lampOff, lampOn, robotBody, robotEye,
    robotFlash, spawnMarker, hover]

end Colour

/-- One command of a display list. -/
inductive DrawCommand where
  /-- Fill the whole canvas. -/
  | clear (colour : Colour)
  /-- Fill a convex polygon and, perhaps, stroke its edges. -/
  | polygon (points : List Point) (fill : Colour) (outline : Option Colour)
  | disc (centre : Point) (radius : Binary32) (colour : Colour)
deriving DecidableEq, Repr

/-- What a run of commands paints. -/
inductive DrawItem where
  | background
  | cell (cell : Cell)
  | robot
  | spawnMarker
deriving DecidableEq, Repr

/-- A display list. -/
structure Frame where
  commands : List DrawCommand
  /-- The items in the order in which they are painted, each with how many commands precede it. The
  two lists that are read, the order and the starts, are those of the pairs, so neither can be longer
  than the other. -/
  items : List (DrawItem × Nat)
deriving DecidableEq, Repr

namespace Frame

/-- The frame in which nothing is painted. -/
def empty : Frame := ⟨[], []⟩

/-- Paint one more command. -/
def push (frame : Frame) (command : DrawCommand) : Frame :=
  { frame with commands := frame.commands ++ [command] }

/-- Start a new item. -/
def start (frame : Frame) (item : DrawItem) : Frame :=
  { frame with items := frame.items ++ [(item, frame.commands.length)] }

/-- The frame of a background. -/
def new (background : Colour) : Frame := (empty.start .background).push (.clear background)

/-- Paint a polygon. -/
def polygon (frame : Frame) (points : List Point) (fill : Colour) (outline : Option Colour) :
    Frame :=
  frame.push (.polygon points fill outline)

/-- Paint a disc. -/
def disc (frame : Frame) (centre : Point) (radius : Binary32) (colour : Colour) : Frame :=
  frame.push (.disc centre radius colour)

/-- The items in the order in which they are painted. -/
def order (frame : Frame) : List DrawItem := frame.items.map (·.1)

/-- The commands of the item at a place in the order. -/
def commandsFor (frame : Frame) (index : Nat) : List DrawCommand :=
  match frame.items[index]? with
  | none => []
  | some (_, start) =>
      let finish := ((frame.items[index + 1]?).map (·.2)).getD frame.commands.length
      (frame.commands.take finish).drop start

/-- The place of the first occurrence of an item. -/
def positionOf? (frame : Frame) (item : DrawItem) : Option Nat := frame.order.idxOf? item

end Frame

end Lamplighter
