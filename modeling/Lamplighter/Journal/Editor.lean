import Lamplighter.Editor
import Lamplighter.Journal

/-!
# What the editor tells
-/

namespace Lamplighter.Editor

/-- What an editor tells after its map was made anew in a size. -/
def resizeNotes (editor : Editor) : List Message :=
  [.info s!"Editor map resized to {editor.columns}x{editor.rowCount}"]

/-- What an editor tells after it has loaded a level. -/
def loadNotes (editor : Editor) : List Message :=
  [.info s!"Editor loaded {editor.columns}x{editor.rowCount} map"]

end Lamplighter.Editor
