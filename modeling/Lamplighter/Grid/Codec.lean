import Lamplighter.Grid
import Lamplighter.Level.Codec

/-!
# Grids as JSON

Ground is a bare name; a lamp is a record under the name of its kind. The number of columns is read
as it is written, beside whatever rows there are.
-/

namespace Lamplighter

open Json

instance : Codec TileKind where
  encode
    | .ground => .string "Ground"
    | .lamp lit => .record [("Lamp", .record [("lit", Codec.encode lit)])]
  decode? value :=
    match value with
    | .object [(some "Lamp", fields)] =>
        match fields.fields? ["lit"] with
        | some [lit] => (required? lit).map .lamp
        | _ => none
    | _ => if value.name? = some "Ground" then some .ground else none

instance : Codec Tile where
  encode tile := .record [("height", Codec.encode tile.height), ("kind", Codec.encode tile.kind)]
  decode? value :=
    match value.fields? ["height", "kind"] with
    | some [height, kind] => do return ⟨← required? height, ← required? kind⟩
    | _ => none

instance : Codec Grid where
  encode grid := .record [
    ("cols", sizeCodec.encode grid.columns), ("rows", Codec.encode grid.rows)]
  decode? value :=
    match value.fields? ["cols", "rows"] with
    | some [columns, rows] => do return ⟨← columns.bind sizeCodec.decode?, ← required? rows⟩
    | _ => none

end Lamplighter
