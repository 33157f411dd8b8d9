import Lamplighter.Geometry

/-!
# Polygons

A closed line is a list of its corners. Each is joined to the one before it, and the first one to
the last one. A point is inside it if an odd number of its edges pass the point on the right.
-/

namespace Lamplighter

/-- Whether the edge between two points passes a point on its right: one end is below the height of
the point and the other is not, and the edge is farther right at that height. -/
def Point.isLeftOfEdge (point first second : Point) : Bool :=
  (point.y.lt first.y != point.y.lt second.y) &&
    point.x.lt
      ((second.x - first.x) * (point.y - first.y) / (second.y - first.y) + first.x)

/-- The greatest number that an index can be. -/
def greatestIndex : Nat := 0xffffffffffffffff

/-- The index before a number. There is none before zero, and counting down goes on with the
greatest one. -/
def indexBefore : Nat → Nat
  | 0 => greatestIndex
  | index + 1 => index

/-- Go along the corners from an index on, while the index of the corner before is kept in mind:
every edge that passes on the right changes the answer. There is no answer if no corner of the
polygon has the index that is kept. -/
def Point.passEdges? (point : Point) (polygon : List Point) (inside : Bool) (before index : Nat) :
    (corners : List Point) → Option Bool
  | [] => some inside
  | corner :: rest =>
      match polygon[before]? with
      | none => none
      | some previous =>
          let changed := if point.isLeftOfEdge corner previous then !inside else inside
          point.passEdges? polygon changed index (index + 1) rest

/-- Whether a point is inside a polygon, unless an index is out of range on the way. Before the
first corner the index before the number of corners is kept, which is that of the last one. -/
def Point.isInside? (point : Point) (polygon : List Point) : Option Bool :=
  point.passEdges? polygon false (indexBefore polygon.length) 0 polygon

/-- Whether a point is inside a polygon. No index is out of range, so there always is an answer. -/
def Point.isInside (point : Point) (polygon : List Point) : Bool :=
  (point.isInside? polygon).getD false

end Lamplighter
