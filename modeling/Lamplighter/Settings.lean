import Lamplighter.Animation
import Lamplighter.Projection

/-!
# Settings

What a player has chosen. Where there is no storage, the choices are the defaults and are forgotten.
-/

namespace Lamplighter

/-- The choices of a player. -/
structure Settings where
  speed : Speed
  cameraRotation : UInt8
  /-- Stroke the edges of tiles. -/
  outlines : Bool
  /-- Do not shake the robot when a move is blocked. -/
  reducedMotion : Bool
deriving DecidableEq, Repr

namespace Settings

/-- The choices of a player who has not made any. -/
def standard : Settings := ⟨.normal, 0, true, false⟩

/-- The camera that was chosen. -/
def camera (settings : Settings) : Camera := .turned settings.cameraRotation

/-- Choose a camera. -/
def setCamera (settings : Settings) (camera : Camera) : Settings :=
  { settings with cameraRotation := camera.rotation }

end Settings

end Lamplighter
