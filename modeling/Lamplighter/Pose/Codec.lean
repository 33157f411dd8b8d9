import Lamplighter.Json.Codec
import Lamplighter.Pose

/-!
# Cells, headings and poses as JSON

Inside a pose, a cell is an array of its two coordinates and nothing else.
-/

namespace Lamplighter

open Json

instance : Codec Heading := namesCodec Heading.all Heading.name

/-- The codec of a cell as a pair of coordinates. -/
abbrev Cell.pairCodec : Codec Cell where
  encode cell := .array [Codec.encode cell.x, Codec.encode cell.y]
  decode? value :=
    match value with
    | .array [x, y] => do return ⟨← Codec.decode? x, ← Codec.decode? y⟩
    | _ => none

instance : Codec Pose where
  encode pose := .record [
    ("position", Cell.pairCodec.encode pose.position), ("direction", Codec.encode pose.heading)]
  decode? value :=
    match value.fields? ["position", "direction"] with
    | some [position, heading] => do
        return ⟨← position.bind Cell.pairCodec.decode?, ← required? heading⟩
    | _ => none

end Lamplighter
