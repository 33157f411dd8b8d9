import Lamplighter.Proofs.Editor.Editing
import Lamplighter.Proofs.World.Export

/-!
# Exporting a map and loading it again

What an editor writes as a level, any editor takes over as it was, and what an editor has taken over
from a level, it writes as that level again, up to the medal limits and the lamps on the ground
plane: `Editor.load_exported`. Both ways the order of the rows is turned around twice, which is
settled in `Grid.ofLevelRows_toLevelRows` and `Grid.toLevelRows_of_ofLevelRows`.
-/

namespace Lamplighter

namespace Editor

/-- The level of a sound map can be copied, and whatever editor loads it has the tiles and the start
of the map. -/
theorem Sound.load_of_toLevel {editor : Editor} (sound : editor.Sound) {level : Level}
    (written : editor.toLevel = .ok level) (other : Editor) :
    level.Addressable ∧
      other.load level = .ok { other with
        tiles := editor.tiles
        spawn := editor.spawn
        spawnHeading := editor.spawn.heading } := by
  obtain rfl := Except.ok.inj (sound.toLevel_eq.symm.trans written)
  have made := Grid.ofLevelRows_toLevelRows sound.rectangular sound.wide sound.tall sound.authored
  have inside := sound.rectangular.contains_of_mem_cells sound.small
  obtain ⟨columns, rows⟩ := sound.rectangular.sides_le sound.wide sound.tall inside
  constructor
  · intro grid isGrid
    obtain rfl := Except.ok.inj (made.symm.trans isGrid)
    exact inside
  · simp only [Editor.load, made, Heading.ofIndex?_index, sound.spawn, other.put_cells sound.rectangular
      columns rows, bind, Except.bind, pure, Except.pure, if_true]
    rfl

/-- A map that was taken over from a level is written as this level, in which lamps on the ground
plane have become blocks, with unset medal limits. -/
theorem toLevel_of_load_eq_ok {editor loaded : Editor} {level : Level}
    (addressable : level.Addressable) (accepted : editor.load level = .ok loaded) :
    loaded.toLevel = .ok { level.grounded with medals := .unset } := by
  obtain ⟨grid, heading, made, known, inside, rfl⟩ :=
    of_load_eq_ok_of_addressable addressable accepted
  obtain ⟨wide, tall⟩ := Grid.ne_zero_of_contains inside
  have again := (Grid.of_ofRows_eq_ok made).2.ofRows_rows wide tall
  simp only [toLevel, again, Grid.toLevelRows_of_ofLevelRows made,
    Heading.index_of_ofIndex? known, bind, Except.bind, pure, Except.pure]
  rfl

/-- Import undoes export, and export undoes import. Whatever is done with an editor, levels that are
loaded being of fewer than `2 ^ 31` columns and rows: its map is written as a level that every other
editor accepts, and that editor then has the tiles and the start of the map. And every level that an
editor accepts and copies is written again, with unset medal limits and with blocks for the lamps on
the ground plane; all else, the order of the rows too, is as it was. -/
theorem load_exported (viewport : Point) (commands : List Command)
    (small : ∀ level, .load level ∈ commands → level.Small) (other : Editor) :
    (let editor := (new viewport).obeyAll commands
      ∃ level loaded, editor.toLevel = .ok level ∧ level.Addressable ∧
        other.load level = .ok loaded ∧
          loaded.tiles = editor.tiles ∧ loaded.spawn = editor.spawn) ∧
      ∀ level loaded, level.Addressable → other.load level = .ok loaded →
        loaded.toLevel = .ok { level.grounded with medals := .unset } := by
  refine ⟨?_, fun level loaded => toLevel_of_load_eq_ok⟩
  have sound := (sound_new viewport).obeyAll small
  obtain ⟨addressable, accepted⟩ := sound.load_of_toLevel sound.toLevel_eq other
  exact ⟨_, _, sound.toLevel_eq, addressable, accepted, rfl, rfl⟩

/-- The levels that the sketch is taken from are small. -/
theorem small_of_mem_sketch (level : Level) (loads : .load level ∈ sketch) : level.Small := by
  have either : level = LevelPack.corner ∨ level = { LevelPack.firstSteps with direction := 4 } := by
    simpa [sketch] using loads
  obtain rfl | rfl := either
  · exact ⟨by decide, by decide⟩
  · exact ⟨by decide, by decide⟩

/-- The sketch is taken over by an editor that showed the pier, and the pier by one that showed the
sketch; the flat lamp of the pier comes back as a block. -/
theorem load_exported_sketch :
    (∀ level, .load level ∈ sketch → level.Small) ∧ World.pier.Addressable ∧
      let editor := (new ⟨800, 600⟩).obeyAll sketch
      let other := (new ⟨640, 480⟩).obeyAll [.load World.pier]
      ∃ level loaded replaced,
        (editor.toLevel = .ok level ∧ other.load level = .ok loaded ∧
          loaded.tiles = editor.tiles ∧ loaded.spawn = ⟨⟨1, 1⟩, .northEast⟩) ∧
        editor.load World.pier = .ok replaced ∧
          replaced.toLevel = .ok {
            direction := 3
            position := ⟨1, 0⟩
            map := [[LevelPack.block 0, LevelPack.block 2], [LevelPack.lamp 1, LevelPack.block 1]]
            medals := .unset } := by
  have addressable : World.pier.Addressable := Level.Small.addressable ⟨by decide, by decide⟩
  obtain ⟨⟨level, loaded, written, _, accepted, tiles, spawn⟩, _⟩ :=
    load_exported ⟨800, 600⟩ sketch small_of_mem_sketch ((new ⟨640, 480⟩).obeyAll [.load World.pier])
  obtain ⟨_, exports⟩ :=
    load_exported ⟨800, 600⟩ sketch small_of_mem_sketch ((new ⟨800, 600⟩).obeyAll sketch)
  have takesOver : ((new ⟨800, 600⟩).obeyAll sketch).load World.pier = .ok _ := rfl
  exact ⟨small_of_mem_sketch, addressable, level, loaded, _, ⟨written, accepted, tiles, spawn⟩, takesOver,
    exports World.pier _ addressable takesOver⟩

end Editor

end Lamplighter
