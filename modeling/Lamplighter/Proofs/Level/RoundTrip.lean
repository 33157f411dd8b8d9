import Lamplighter.Level.Codec
import Lamplighter.Proofs.Editor.Exporting
import Lamplighter.Proofs.Json.Layout
import Lamplighter.Proofs.Medal.RoundTrip

/-!
# Level files are read back

`Level.toText_faithful`: every level is read back from its file, whatever it is made of; what may be
left out of a file is always written. A map that is exported to a file therefore comes back from it.
-/

namespace Lamplighter

open Json

/-! ## Records -/

instance : LawfulCodec CellMark where
  decode?_encode := decode?_name (fun mark => by cases mark <;> decide) (by decide)

instance : LawfulCodec LevelCell where
  decode?_encode cell := by
    have fields := @Value.fields?_record
      [("h", Codec.encode cell.height), ("t", Codec.encode cell.mark)] ["h", "t"] rfl (by decide)
    unfold Codec.decode? instCodecLevelCell
    simp [fields, optional?, LawfulCodec.decode?_encode]

/-- A cell is read back from the record of its coordinates. -/
theorem Cell.decode?_encode_recordCodec (cell : Cell) :
    recordCodec.decode? (recordCodec.encode cell) = some cell := by
  have fields := @Value.fields?_record
    [("x", Codec.encode cell.x), ("y", Codec.encode cell.y)] ["x", "y"] rfl (by decide)
  unfold Codec.decode? recordCodec
  simp [fields, required?, LawfulCodec.decode?_encode]

namespace Level

instance : LawfulCodec Level where
  decode?_encode level := by
    have fields := @Value.fields?_record
      [("direction", Codec.encode level.direction),
        ("position", Cell.recordCodec.encode level.position), ("map", Codec.encode level.map),
        ("medals", Codec.encode level.medals)]
      ["direction", "position", "map", "medals"] rfl (by decide)
    unfold Codec.decode? instCodec
    simp [fields, required?, optional?, LawfulCodec.decode?_encode,
      Cell.decode?_encode_recordCodec]

/-! ## Files -/

/-- A level is read back from its file. -/
theorem ofText?_toText (level : Level) : ofText? level.toText = some level := by
  rw [ofText?, read?, toText, Value.read?_pretty, Option.bind_some, LawfulCodec.decode?_encode]

/-- A level is read back from its file, of whatever shape its map is. So whatever is done with an
editor, levels that are loaded being of fewer than `2 ^ 31` columns and rows: the file of its map is
read as a level that every other editor accepts, and that editor then has the tiles and the start of
the map. -/
theorem toText_faithful (level : Level) :
    ofText? level.toText = some level ∧
      ∀ (viewport : Point) (commands : List Editor.Command) (other : Editor),
        (∀ level, .load level ∈ commands → level.Small) →
        let editor := (Editor.new viewport).obeyAll commands
        ∃ exported imported loaded,
          editor.toLevel = .ok exported ∧ ofText? exported.toText = some imported ∧
            imported.Addressable ∧ other.load imported = .ok loaded ∧
            loaded.tiles = editor.tiles ∧ loaded.spawn = editor.spawn := by
  refine ⟨ofText?_toText level, ?_⟩
  intro viewport commands other small editor
  have sound : editor.Sound := (Editor.sound_new viewport).obeyAll small
  obtain ⟨addressable, accepted⟩ := sound.load_of_toLevel sound.toLevel_eq other
  exact ⟨_, _, _, sound.toLevel_eq, ofText?_toText _, addressable, accepted, rfl, rfl⟩

/-- A level with an unknown heading, an empty row and a row of two cells, one of which is as high as
can be, and with the least and the greatest number where they are possible. -/
def scraps : Level where
  direction := 255
  position := ⟨Int32.minValue, Int32.maxValue⟩
  map := [[], [LevelPack.lamp 4294967295, LevelPack.block 0]]
  medals := ⟨0, 4294967295, 7⟩

/-- The scraps are read back from their file, and the sketch from that of its map. -/
theorem toText_faithful_scraps :
    (∀ level, .load level ∈ Editor.sketch → level.Small) ∧
      ofText? scraps.toText = some scraps ∧
      let editor := (Editor.new ⟨800, 600⟩).obeyAll Editor.sketch
      ∃ exported imported loaded,
        editor.toLevel = .ok exported ∧ ofText? exported.toText = some imported ∧
          (Editor.new ⟨640, 480⟩).load imported = .ok loaded ∧
          loaded.tiles = editor.tiles ∧ loaded.spawn = ⟨⟨1, 1⟩, .northEast⟩ := by
  obtain ⟨readBack, restored⟩ := toText_faithful scraps
  obtain ⟨exported, imported, loaded, written, reads, _, accepted, tiles, spawn⟩ :=
    restored ⟨800, 600⟩ Editor.sketch (Editor.new ⟨640, 480⟩) Editor.small_of_mem_sketch
  exact ⟨Editor.small_of_mem_sketch, readBack, exported, imported, loaded, written, reads, accepted,
    tiles, spawn⟩

end Level

end Lamplighter
