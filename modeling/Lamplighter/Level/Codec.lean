import Lamplighter.Json.Codec
import Lamplighter.Level
import Lamplighter.Medal.Codec

/-!
# Level files

A level file is a JSON text over several lines. The heading, the medal limits and, in a cell, the
height and the mark may be left out.
-/

namespace Lamplighter

open Json

/-- The letter of a mark. -/
def CellMark.letter : CellMark → String
  | .block => "b"
  | .lamp => "l"

instance : Codec CellMark := namesCodec [.block, .lamp] CellMark.letter

instance : Codec LevelCell where
  encode cell := .record [("h", Codec.encode cell.height), ("t", Codec.encode cell.mark)]
  decode? value :=
    match value.fields? ["h", "t"] with
    | some [height, mark] => do return ⟨← optional? 0 height, ← optional? .block mark⟩
    | _ => none

/-- The codec of a cell as a record of its coordinates. -/
abbrev Cell.recordCodec : Codec Cell where
  encode cell := .record [("x", Codec.encode cell.x), ("y", Codec.encode cell.y)]
  decode? value :=
    match value.fields? ["x", "y"] with
    | some [x, y] => do return ⟨← required? x, ← required? y⟩
    | _ => none

namespace Level

instance : Codec Level where
  encode level := .record [
    ("direction", Codec.encode level.direction),
    ("position", Cell.recordCodec.encode level.position),
    ("map", Codec.encode level.map),
    ("medals", Codec.encode level.medals)]
  decode? value :=
    match value.fields? ["direction", "position", "map", "medals"] with
    | some [direction, position, map, medals] => do
        return {
          direction := ← optional? 0 direction
          position := ← position.bind Cell.recordCodec.decode?
          map := ← required? map
          medals := ← optional? .unset medals }
    | _ => none

/-- The level of a level file. -/
def ofText? (text : String) : Option Level := Json.read? text

/-- The level file of a level. -/
def toText (level : Level) : String := (Codec.encode level).pretty

end Level

end Lamplighter
