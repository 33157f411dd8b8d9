import Lamplighter.Animation
import Lamplighter.Json.Codec

/-!
# Animations as JSON

The displacement of an animation is an array of its three numbers and nothing else.
-/

namespace Lamplighter

open Json

instance : Codec Movement := namesCodec Movement.all Movement.name

instance : Codec Speed := namesCodec Speed.all Speed.name

instance : Codec Displacement where
  encode delta := .array [Codec.encode delta.x, Codec.encode delta.y, Codec.encode delta.climb]
  decode? value :=
    match value with
    | .array [x, y, climb] => do
        return ⟨← Codec.decode? x, ← Codec.decode? y, ← Codec.decode? climb⟩
    | _ => none

instance : Codec Animation where
  encode animation := .record [
    ("name", Codec.encode animation.movement),
    ("duration_ticks", Codec.encode animation.duration),
    ("delta", Codec.encode animation.delta)]
  decode? value :=
    match value.fields? ["name", "duration_ticks", "delta"] with
    | some [movement, duration, delta] => do
        return ⟨← required? movement, ← required? duration, ← required? delta⟩
    | _ => none

end Lamplighter
