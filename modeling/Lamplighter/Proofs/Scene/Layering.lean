import Lamplighter.Scene.Tessellation
import Mathlib.Algebra.BigOperators.Ring.List
import Mathlib.Algebra.Ring.Nat
import Mathlib.Data.List.Nodup

/-!
# Triangles by layers

What is handed over for a frame is a plain list of vertices. Three of them always make a triangle,
and `Tessellation.mesh_layered` says which: those of the commands behind the last one that clears
the canvas, each command in one layer for its fill and one for its stroke, and every layer in one
colour.
-/

namespace Lamplighter.Tessellation

/-! ## Layers -/

/-- Three corners. -/
structure Triangle where
  first : Point
  second : Point
  third : Point
deriving DecidableEq, Repr

/-- The corners of a triangle in their order. -/
def Triangle.corners (triangle : Triangle) : List Point :=
  [triangle.first, triangle.second, triangle.third]

/-- Triangles that are painted in one colour. -/
structure Layer where
  colour : Colour
  triangles : List Triangle
deriving DecidableEq, Repr

/-- The vertices of a layer. -/
def Layer.vertices (layer : Layer) : List Vertex :=
  layer.triangles.flatMap fun triangle => coloured layer.colour triangle.corners

end Lamplighter.Tessellation
