import Lamplighter.Binary32

/-!
# The clock

The game moves in ticks of equal length, however often a picture is shown.
-/

namespace Lamplighter.Clock

/-- The number of ticks in a second. -/
def ticksPerSecond : Nat := 30

/-- The length of a tick in seconds. -/
def tickLength : Binary32 := 1 / .ofNat ticksPerSecond

/-- The most ticks that are made up for between two pictures. -/
def maxTicksPerPicture : Nat := 4

end Lamplighter.Clock
