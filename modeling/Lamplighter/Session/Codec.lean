import Lamplighter.Medal.Codec
import Lamplighter.Session

/-!
# Parts of sessions as JSON
-/

namespace Lamplighter

open Json

/-- The name of a mode. -/
def Mode.name : Mode → String
  | .idle => "Idle"
  | .running => "Running"

instance : Codec Mode := namesCodec [.idle, .running] Mode.name

instance : Codec LevelInfo where
  encode info := .record [("id", Codec.encode info.id), ("medals", Codec.encode info.medals)]
  decode? value :=
    match value.fields? ["id", "medals"] with
    | some [id, medals] => do return ⟨← required? id, ← required? medals⟩
    | _ => none

end Lamplighter
