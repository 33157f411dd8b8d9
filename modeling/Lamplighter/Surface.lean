/-!
# The surface

What can go wrong between a display list and the screen. Before anything is drawn, a device and a
surface have to be found and a pixel format chosen; while drawing, a surface can fail at any time.
-/

namespace Lamplighter

/-- Why a surface gives no picture to draw on. -/
inductive SurfaceFailure where
  | timeout
  | outdated
  | lost
  | outOfMemory
  | other
deriving DecidableEq, Repr

/-- The explanation of the failure of a surface. -/
def SurfaceFailure.message : SurfaceFailure → String
  | timeout => "A timeout was encountered while trying to acquire the next frame"
  | outdated =>
      "The underlying surface has changed, and therefore the swap chain must be updated"
  | lost => "The swap chain has been lost and needs to be recreated"
  | outOfMemory => "There is no more memory left to allocate a new frame"
  | other =>
      "Acquiring a texture failed with a generic error. Check error callbacks for more information"

/-- Why no picture can be shown. The texts are those of the graphics system. -/
inductive RenderError where
  | createSurface (reason : String)
  | adapter (reason : String)
  | device (reason : String)
  | noSurfaceFormat
  | surface (failure : SurfaceFailure)
deriving DecidableEq, Repr

namespace RenderError

/-- The name of the kind of an error. -/
def kind : RenderError → String
  | createSurface _ => "CreateSurface"
  | adapter _ => "Adapter"
  | device _ => "Device"
  | noSurfaceFormat => "NoSurfaceFormat"
  | surface _ => "Surface"

/-- The explanation of an error. -/
def message : RenderError → String
  | createSurface reason => s!"failed to create surface: {reason}"
  | adapter reason => s!"no suitable adapter: {reason}"
  | device reason => s!"failed to create device: {reason}"
  | noSurfaceFormat => "surface reports no texture formats"
  | surface failure => s!"surface error: {failure.message}"

/-- The error of looking for an adapter by a name that has not been set. -/
def adapterNotNamed : RenderError := adapter "WGPU_ADAPTER_NAME not set"

end RenderError

/-- A pixel format that a surface offers, and whether it converts colours on its own. -/
structure SurfaceFormat where
  name : String
  isSrgb : Bool
deriving DecidableEq, Repr

/-- Choose a pixel format. Colours are given as they are to be shown, so a format that does not
convert them is preferred; otherwise the first one has to do. -/
def SurfaceFormat.choose (offered : List SurfaceFormat) : Except RenderError SurfaceFormat :=
  match offered.find? fun format => !format.isSrgb with
  | some format => .ok format
  | none =>
      match offered with
      | format :: _ => .ok format
      | [] => .error .noSurfaceFormat

end Lamplighter
