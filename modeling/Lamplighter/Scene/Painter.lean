import Lamplighter.Binary32.Circular
import Lamplighter.Engine
import Lamplighter.Projection
import Lamplighter.Scene
import Lamplighter.Settings

/-!
# Painting a world

A painter draws the cells of a map from the farthest to the nearest, each with the ground, the sides
that face the viewer and the top, so that what is nearer covers what is farther. The robot is
painted right behind one cell: the one it stands on, or the one it is leaving while that one is
nearer.
-/

namespace Lamplighter

/-- A painter: where the map is drawn, how it is turned, and what the player has chosen. -/
structure Painter where
  projection : Projection
  camera : Camera
  outlines : Bool
  reducedMotion : Bool
deriving DecidableEq

namespace Painter

/-- The painter of a projection and a camera, with the standard choices. -/
def new (projection : Projection) (camera : Camera) : Painter := ⟨projection, camera, true, false⟩

/-- The painter with the choices of a player. -/
def withSettings (painter : Painter) (settings : Settings) : Painter :=
  { painter with outlines := settings.outlines, reducedMotion := settings.reducedMotion }

/-- One half. -/
def half : Binary32 := .ofFraction false 1 2

/-- The point of the screen at a place on the map. -/
def screen (painter : Painter) (column height row : Binary32) : Point :=
  painter.projection.projectMap column height row painter.camera

/-! ## The order of cells -/

/-- How far down on the screen the middle of a cell's ground is. Farther up is farther away. -/
def depthKey (painter : Painter) (cell : Cell) : Binary32 :=
  let place := cell.toPoint
  (painter.screen (place.x + half) 0 (place.y + half)).y

/-- The cells from the farthest to the nearest. Cells that are equally far keep their order. -/
def drawOrder (painter : Painter) (cells : List Cell) : List Cell :=
  let keyed := cells.map fun cell => ((painter.depthKey cell).rank, cell)
  (keyed.mergeSort fun first second => decide (first.1 ≤ second.1)).map (·.2)

/-! ## Tiles -/

/-- The corners of the top of a cell at a height. -/
def topFace (painter : Painter) (cell : Cell) (height : Binary32) : List Point :=
  let place := cell.toPoint
  [painter.screen place.x height place.y,
    painter.screen (place.x + 1) height place.y,
    painter.screen (place.x + 1) height (place.y + 1),
    painter.screen place.x height (place.y + 1)]

/-- One side of a tile: the step that leads out of it, and the two corners of its ground edge. -/
structure Side where
  outwards : Cell
  first : Point
  second : Point

/-- The four sides of a tile. -/
def sides : List Side := [
  ⟨⟨-1, 0⟩, ⟨0, 0⟩, ⟨0, 1⟩⟩,
  ⟨⟨1, 0⟩, ⟨1, 0⟩, ⟨1, 1⟩⟩,
  ⟨⟨0, -1⟩, ⟨0, 0⟩, ⟨1, 0⟩⟩,
  ⟨⟨0, 1⟩, ⟨0, 1⟩, ⟨1, 1⟩⟩]

/-- The colour of a side whose outward step has been turned with the map: none if the side faces
away from the viewer, and otherwise the darker one if it faces along the rows. -/
def sideColour? (turned : Cell) : Option Colour :=
  if 0 ≤ turned.x + turned.y then none
  else if turned.y < 0 then some .tileFront
  else some .tileSide

/-- The colour of the top of a tile. -/
def topColour : TileKind → Colour
  | .ground => .tileTop
  | .lamp false => .lampOff
  | .lamp true => .lampOn

/-- The colour in which edges are stroked, if they are. -/
def stroke (painter : Painter) : Option Colour := if painter.outlines then some .outline else none

/-- The command that paints a side of a tile, if the side can be seen. -/
def sideCommand? (painter : Painter) (cell : Cell) (height : Binary32) (side : Side) :
    Option DrawCommand :=
  (sideColour? (side.outwards.rotateQuarter painter.camera.rotation)).map fun colour =>
    let first := cell.toPoint + side.first
    let second := cell.toPoint + side.second
    .polygon
      [painter.screen first.x 0 first.y,
        painter.screen second.x 0 second.y,
        painter.screen second.x height second.y,
        painter.screen first.x height first.y]
      colour painter.stroke

/-- The commands that paint a tile. A flat tile is only ground. -/
def tileCommands (painter : Painter) (cell : Cell) (tile : Tile) : List DrawCommand :=
  let ground := .polygon (painter.topFace cell 0) .ground painter.stroke
  if tile.height = 0 then
    [ground]
  else
    let height := Binary32.ofNat tile.height.toNat
    ground :: sides.filterMap (painter.sideCommand? cell height) ++
      [.polygon (painter.topFace cell height) (topColour tile.kind) painter.stroke]

/-- Paint some commands. -/
def paint (frame : Frame) (commands : List DrawCommand) : Frame := commands.foldl Frame.push frame

/-! ## The robot -/

/-- The height of the middle of the body above the tile, in steps. -/
def bodyLift : Binary32 := .ofFraction false 9 10

/-- The height of the middle of the head above the tile, in steps. -/
def headLift : Binary32 := .ofFraction false 18 10

/-- The radius of the body, in tiles. -/
def bodyRadius : Binary32 := .ofFraction false 22 100

/-- The radius of the head, in tiles. -/
def headRadius : Binary32 := .ofFraction false 15 100

/-- The radius of the eye, in tiles. -/
def eyeRadius : Binary32 := .ofFraction false 5 100

/-- How far the robot shakes when a move is blocked, in tiles. -/
def shakeWidth : Binary32 := .ofFraction false 8 100

/-- The height of a jump at its top, in steps. -/
def jumpArc : Binary32 := .ofFraction false 8 10

/-- The cell behind which the robot is painted. While it leaves a cell that is painted later than
the one it goes to, it is painted behind the cell it leaves; in a jump, up to the middle of it. -/
def robotAnchor (pose : Pose) (snapshot : Engine.Snapshot) (order : List Cell) : Cell :=
  match snapshot.animation with
  | none => pose.position
  | some animation =>
      if !animation.moves || Binary32.le 1 snapshot.progress then
        pose.position
      else
        let source := pose.position - animation.delta.step
        let leavesLater :=
          match order.idxOf? pose.position, order.idxOf? source with
          | some arrival, some departure => decide (arrival < departure)
          | _, _ => false
        let isLow :=
          match animation.movement with
          | .walk => true
          | .jumpUp => snapshot.progress.le half
          | .jumpDown => snapshot.progress.le half
          | _ => false
        if leavesLater && isLow then source else pose.position

/-- Where the robot is seen, as a place on the map with a height in steps. A robot that moves is
still on its way, a robot that jumps is above it, and a robot that cannot move shakes. -/
def robotPosition (painter : Painter) (world : World) (snapshot : Engine.Snapshot) : WorldPoint :=
  let place := world.pose.position.toPoint
  let height := Binary32.ofInt ((world.heightAt? world.pose.position).getD 0).toInt
  let standing : WorldPoint := ⟨place.x + half, height, place.y + half⟩
  match snapshot.animation with
  | none => standing
  | some animation =>
      let played := snapshot.progress
      let left := 1 - played
      if animation.moves then
        let delta := animation.delta
        let between : WorldPoint :=
          ⟨standing.x - .ofInt delta.x.toInt * left,
            standing.y - .ofInt delta.climb.toInt * left,
            standing.z - .ofInt delta.y.toInt * left⟩
        if animation.movement.isJump then
          { between with y := between.y + jumpArc * 4 * played * left }
        else
          between
      else if animation.movement = .blocked ∧ painter.reducedMotion = false then
        let ahead := world.pose.heading.step.toPoint
        let shake := (played * Binary32.pi * 4).sin * shakeWidth * left
        { standing with x := standing.x + ahead.x * shake, z := standing.z + ahead.y * shake }
      else
        standing

/-- The angle of a heading on the ground, from the direction of the columns to that of the rows. -/
def headingAngle : Heading → Binary32
  | .northEast => 0
  | .northWest => .halfPi
  | .southWest => .pi
  | .southEast => -.halfPi

/-- The angle in which the robot looks. While it turns, it has not turned all the way. -/
def robotAngle (pose : Pose) (snapshot : Engine.Snapshot) : Binary32 :=
  let angle := headingAngle pose.heading
  let left := 1 - snapshot.progress
  match snapshot.animation.map Animation.movement with
  | some .turnLeft => angle - .halfPi * left
  | some .turnRight => angle + .halfPi * left
  | _ => angle

/-- The colour of the robot. It flashes while it lights a lamp. -/
def robotColour (snapshot : Engine.Snapshot) : Colour :=
  match snapshot.animation.map Animation.movement with
  | some .light =>
      Colour.robotBody.mix .robotFlash (snapshot.progress * Binary32.pi).sin
  | _ => .robotBody

/-- The commands that paint the robot: its body, its head and, if it looks towards the viewer, its
eye. -/
def robotCommands (painter : Painter) (world : World) (snapshot : Engine.Snapshot) :
    List DrawCommand :=
  let place := painter.robotPosition world snapshot
  let angle := robotAngle world.pose snapshot
  let scale := edgeLength * isoX
  let colour := robotColour snapshot
  let body := painter.screen place.x (place.y + bodyLift) place.z
  let head := painter.screen place.x (place.y + headLift) place.z
  let look : Point := ⟨angle.cos, angle.sin⟩
  let turned := look.rotateQuarter painter.camera.rotation
  let eye :=
    if (turned.x + turned.y).lt 0 then
      let centre := painter.screen (place.x + look.x * headRadius) (place.y + headLift)
        (place.z + look.y * headRadius)
      [DrawCommand.disc centre (eyeRadius * scale) .robotEye]
    else
      []
  .disc body (bodyRadius * scale) colour :: .disc head (headRadius * scale) colour :: eye

/-! ## The frame -/

/-- Paint one cell of a world and, if this is the cell, the robot behind it. -/
def renderCell (painter : Painter) (world : World) (snapshot : Engine.Snapshot) (anchor : Cell)
    (frame : Frame) (cell : Cell) : Frame :=
  match world.grid.tile? cell with
  | none => frame
  | some tile =>
      let frame := paint (frame.start (.cell cell)) (painter.tileCommands cell tile)
      if cell = anchor then
        paint (frame.start .robot) (painter.robotCommands world snapshot)
      else
        frame

/-- The frame of a world and what its engine is doing. -/
def render (painter : Painter) (world : World) (snapshot : Engine.Snapshot) : Frame :=
  let order := painter.drawOrder (world.grid.cells.map (·.1))
  let anchor := robotAnchor world.pose snapshot order
  order.foldl (painter.renderCell world snapshot anchor) (.new .background)

end Painter

end Lamplighter
