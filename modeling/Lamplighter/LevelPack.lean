import Lamplighter.Level

/-!
# The built-in levels

Each built-in level has a name that stays the same, under which its medals are kept.
-/

namespace Lamplighter.LevelPack

/-- A block of a height. -/
def block (height : UInt32) : LevelCell := ⟨height, .block⟩

/-- A lamp at a height. -/
def lamp (height : UInt32) : LevelCell := ⟨height, .lamp⟩

/-- A straight walk to a lamp. -/
def firstSteps : Level where
  direction := 1
  position := ⟨0, 1⟩
  map := [
    [block 1, block 1, block 1],
    [block 1, block 1, lamp 1],
    [block 1, block 1, block 1]]
  medals := ⟨3, 4, 5⟩

/-- A lamp behind a wall that can only be jumped. -/
def stepsUp : Level where
  direction := 1
  position := ⟨0, 0⟩
  map := [
    [block 0, block 0, block 0, block 0],
    [block 1, block 3, block 3, lamp 2]]
  medals := ⟨4, 5, 6⟩

/-- A walk that is long enough for a loop. -/
def longRoad : Level where
  direction := 1
  position := ⟨0, 0⟩
  map := [[block 1, block 1, block 1, block 1, block 1, lamp 1]]
  medals := ⟨6, 7, 8⟩

/-- Two lamps, with a turn between them. -/
def corner : Level where
  direction := 1
  position := ⟨0, 0⟩
  map := [
    [block 1, block 1, lamp 1],
    [block 1, block 2, block 1],
    [block 1, block 1, lamp 1]]
  medals := ⟨7, 8, 10⟩

/-- The pack with the names of its levels, in the order of play. -/
def entries : List (String × Level) :=
  [("first-steps", firstSteps), ("steps-up", stepsUp), ("long-road", longRoad), ("corner", corner)]

/-- The number of built-in levels. -/
def count : Nat := entries.length

/-- The name of a built-in level. -/
def id? (index : Nat) : Option String := entries[index]?.map (·.1)

/-- A built-in level. -/
def level? (index : Nat) : Option Level := entries[index]?.map (·.2)

end Lamplighter.LevelPack
