import Lamplighter.Scene.Painter
import Lamplighter.Session

/-!
# The view of a session

The map of a session is drawn in the projection of the game and with the camera of the session, and
the robot as the engine is moving it.
-/

namespace Lamplighter.Session

/-- Who draws a session on a canvas of a size, with the standard choices. -/
def painter (session : Session) (width height : Binary32) : Painter :=
  .new (session.projection width height) session.camera

/-- The frame of a session, drawn by a painter. -/
def render (session : Session) (painter : Painter) : Frame :=
  painter.render session.world session.engine.snapshot

end Lamplighter.Session
