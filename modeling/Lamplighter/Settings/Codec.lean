import Lamplighter.Animation.Codec
import Lamplighter.Settings

/-!
# Settings as JSON

Whatever is missing from stored settings is taken from the standard ones.
-/

namespace Lamplighter

open Json

instance : Codec Camera where
  encode camera := .record [("rotation", Codec.encode camera.rotation)]
  decode? value :=
    match value.fields? ["rotation"] with
    | some [rotation] => (required? rotation).map Camera.mk
    | _ => none

namespace Settings

instance : Codec Settings where
  encode settings := .record [
    ("speed", Codec.encode settings.speed),
    ("camera_rotation", Codec.encode settings.cameraRotation),
    ("outlines", Codec.encode settings.outlines),
    ("reduced_motion", Codec.encode settings.reducedMotion)]
  decode? value :=
    match value.fields? ["speed", "camera_rotation", "outlines", "reduced_motion"] with
    | some [speed, rotation, outlines, reducedMotion] => do
        return {
          speed := ← optional? standard.speed speed
          cameraRotation := ← optional? standard.cameraRotation rotation
          outlines := ← optional? standard.outlines outlines
          reducedMotion := ← optional? standard.reducedMotion reducedMotion }
    | _ => none

/-- The settings of a stored text. The camera is brought into the range that cameras have. -/
def ofText? (text : String) : Option Settings := do
  let settings : Settings ← Json.read? text
  return { settings with cameraRotation := settings.cameraRotation % 4 }

end Settings

end Lamplighter
