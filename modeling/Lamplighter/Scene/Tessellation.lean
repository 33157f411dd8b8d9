import Lamplighter.Binary32.Circular
import Lamplighter.Scene

/-!
# Triangles

A frame is handed to the graphics device as a list of vertices, three for each triangle, in the
order in which things are painted. A polygon is a fan of triangles around its first point, its
outline is one thin rectangle for each edge, and a disc is a ring of triangles around its centre.
Whatever is painted before the canvas is cleared is not handed over at all.
-/

namespace Lamplighter

/-- A corner of a triangle. -/
structure Vertex where
  position : Point
  colour : Colour
deriving DecidableEq, Repr

namespace Vertex

/-- The bytes that a vertex takes: six numbers of four bytes. -/
def stride : Nat := 6 * 4

/-- The places of the attributes of a vertex, with the number of bytes before each. -/
def attributes : List (Nat × Nat) := [(0, 0), (1, 2 * 4)]

end Vertex

namespace Tessellation

/-- The width of an outline in pixels. -/
def outlineWidth : Binary32 := .ofFraction false 3 2

/-- The number of triangles of a disc. -/
def discSegments : Nat := 20

/-- Some points in one colour. -/
def coloured (colour : Colour) (points : List Point) : List Vertex := points.map (⟨·, colour⟩)

/-- The triangles around a point, one for each two neighbours in a list. -/
def fan (centre : Point) : List Point → List Point
  | first :: second :: rest => centre :: first :: second :: fan centre (second :: rest)
  | _ => []

/-- The triangles of a filled polygon. -/
def polygon (points : List Point) (colour : Colour) : List Vertex :=
  match points with
  | [] => []
  | first :: rest => coloured colour (fan first rest)

/-- The two triangles of a thin rectangle along an edge. -/
def edge (start finish : Point) (halfWidth : Binary32) : List Point :=
  let aside := (finish - start).normalizedOrZero.perpendicular.scale halfWidth
  [start + aside, start - aside, finish + aside, finish + aside, start - aside, finish - aside]

/-- The triangles of the outline of a polygon. A single point has none. -/
def outline (points : List Point) (width : Binary32) (colour : Colour) : List Vertex :=
  match points with
  | first :: second :: rest =>
      let halfWidth := width * .ofFraction false 1 2
      coloured colour <|
        (points.zip (second :: rest ++ [first])).flatMap fun (start, finish) =>
          edge start finish halfWidth
  | _ => []

/-- The point of a circle after a number of segments out of all. -/
def rim (centre : Point) (radius : Binary32) (segments index : Nat) : Point :=
  let angle := Binary32.ofNat index / .ofNat segments * 2 * .pi
  ⟨centre.x + radius * angle.cos, centre.y + radius * angle.sin⟩

/-- The triangles of a filled circle. -/
def circle (centre : Point) (radius : Binary32) (colour : Colour) (segments : Nat) : List Vertex :=
  coloured colour <| (List.range segments).flatMap fun index =>
    [centre, rim centre radius segments index, rim centre radius segments (index + 1)]

/-- The triangles of a command. Clearing the canvas takes none. -/
def command : DrawCommand → List Vertex
  | .clear _ => []
  | .polygon points fill stroke =>
      polygon points fill ++
        match stroke with
        | some colour => outline points outlineWidth colour
        | none => []
  | .disc centre radius colour => circle centre radius colour discSegments

/-- What is handed over after some commands: the colour of the canvas, and the triangles. -/
structure Mesh where
  clear : Colour
  vertices : Array Vertex
deriving DecidableEq

/-- Add the triangles of a command. Clearing the canvas drops all triangles so far. -/
def Mesh.add (mesh : Mesh) (next : DrawCommand) : Mesh :=
  match next with
  | .clear colour => ⟨colour, #[]⟩
  | _ => { mesh with vertices := mesh.vertices ++ command next }

/-- What is handed over for a frame. A canvas that is never cleared is black. -/
def mesh (frame : Frame) : Mesh := frame.commands.foldl Mesh.add ⟨.black, #[]⟩

end Tessellation

end Lamplighter
