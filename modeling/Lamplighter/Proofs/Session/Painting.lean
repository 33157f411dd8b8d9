import Lamplighter.Proofs.Scene.Anchoring
import Lamplighter.Proofs.Session.Showing

/-!
# Where a session has its robot painted

The painter looks for the cell that the robot is leaving among the cells of the map, and would
silently go by the other cell if it were not there. In a session it always is: `World.Traced` holds
of whatever is shown, in every history. So the robot is never covered by the top of a cell over which
it still is: `Session.positionOf?_robot`.
-/

namespace Lamplighter.Session

/-- In every history of a session whose levels have fewer than `2 ^ 31` columns and rows, and whoever
paints: no item is painted twice; a robot between two cells is painted right behind the one of them
that is painted later, and any other robot right behind the cell on which it has arrived. There its
body and its head are painted. -/
theorem positionOf?_robot {id : String} {level : Level} {session : Session}
    (begun : Session.new id level = .ok session) (small : level.Small) (steps : List Step)
    (smallLoads : ∀ id level, .load id level ∈ steps → level.Small) (painter : Painter) :
    let current := session.after steps
    let here := current.world.pose.position
    let snapshot := current.engine.snapshot
    let frame := painter.render current.world snapshot
    frame.order.Nodup ∧
      (∃ place, frame.positionOf? .robot = some place ∧
        painter.PaintsRobot current.world snapshot (frame.commandsFor place)) ∧
      (∀ animation, snapshot.Straddles animation →
        ∃ departure arrival,
          frame.positionOf? (.cell (here - animation.delta.step)) = some departure ∧
            frame.positionOf? (.cell here) = some arrival ∧
            frame.positionOf? .robot = some (max departure arrival + 1)) ∧
      ((∀ animation, ¬ snapshot.Straddles animation) →
        ∃ arrival,
          frame.positionOf? (.cell here) = some arrival ∧
            frame.positionOf? .robot = some (arrival + 1)) := by
  intro current here snapshot frame
  have displays : current.Displays Grid.Small World.Traced := by
    obtain ⟨world, loaded, rfl⟩ := of_new_eq_ok begun
    refine (displays_of_load loaded (World.small_of_load loaded small) rfl).after ?_ ?_
    · exact fun _ _ action => World.traced_perform _ action
    · exact fun id level loads world loaded =>
        World.small_of_load loaded (smallLoads id level loads)
  obtain ⟨fresh, isFresh, fit, played⟩ := displays.played
  have rectangular := played.grid.rectangular isFresh.rectangular
  have smallGrid := played.grid.small fit
  have bounds := Engine.progress_bounds fun animation shown =>
    (displays.shown animation shown).duration
  have between : ∀ animation, snapshot.Straddles animation → _ := fun animation straddles =>
    Painter.positionOf?_of_straddles rectangular smallGrid played.inside painter straddles
      (displays.shown animation straddles.1)
  have settled := @Painter.positionOf?_of_not_straddles _ rectangular smallGrid played.inside
    painter snapshot (Binary32.isNaN_of_le bounds.2).1
  refine ⟨?_, ?_, between, settled⟩
  · exact (Painter.arranged_render rectangular smallGrid played.inside painter snapshot).nodup_order
  · obtain ⟨place, found⟩ : ∃ place, frame.positionOf? .robot = some place := by
      by_cases straddles : ∃ animation, snapshot.Straddles animation
      · obtain ⟨animation, straddles⟩ := straddles
        obtain ⟨_, _, _, _, found⟩ := between animation straddles
        exact ⟨_, found⟩
      · obtain ⟨_, _, found⟩ := settled (not_exists.1 straddles)
        exact ⟨_, found⟩
    exact ⟨place, found, Painter.paintsRobot_of_positionOf? rectangular smallGrid played.inside
      painter snapshot found⟩

/-- The robot that jumps up the wall is shown faster and faster. -/
def wallLanding : List Step :=
  wallJump ++ [.tick { TickInput.nothing with cycleSpeed := true },
    .tick { TickInput.nothing with cycleSpeed := true }, .tick .nothing, .tick .nothing]

/-- The robot is painted behind both cells at first, and right behind the upper one when it is beyond
the middle of the jump. There its body and its head are painted in its colour. -/
theorem positionOf?_robot_wallLanding :
    LevelPack.firstSteps.Small ∧ (∀ id level, .load id level ∈ wallLanding → level.Small) ∧
      ∃ session, Session.new "first-steps" LevelPack.firstSteps = .ok session ∧
        let painter : Painter := ⟨⟨800, 600, 0, 0⟩, .turned 3, true, false⟩
        let jump : Animation := ⟨.jumpUp, 20, ⟨1, 0, 2⟩⟩
        let leaving := session.after wallJump
        let landing := session.after wallLanding
        let frame := painter.render leaving.world leaving.engine.snapshot
        let later := painter.render landing.world landing.engine.snapshot
        (leaving.engine.snapshot.Straddles jump ∧
          ∃ departure arrival robot, frame.positionOf? (.cell ⟨0, 0⟩) = some departure ∧
            frame.positionOf? (.cell ⟨1, 0⟩) = some arrival ∧
            frame.positionOf? .robot = some robot ∧ departure < robot ∧ arrival < robot) ∧
        (∀ animation, ¬ landing.engine.snapshot.Straddles animation) ∧
          landing.engine.animation = some jump ∧
          ∃ arrival eye, later.positionOf? (.cell ⟨1, 0⟩) = some arrival ∧
            later.positionOf? .robot = some (arrival + 1) ∧
            let place := painter.robotPosition landing.world landing.engine.snapshot
            later.commandsFor (arrival + 1) =
              painter.discAbove place (.ofFraction false 9 10) (.ofFraction false 22 100)
                  .robotBody ::
                painter.discAbove place (.ofFraction false 18 10) (.ofFraction false 15 100)
                  .robotBody :: eye := by
  have small : LevelPack.firstSteps.Small := ⟨by decide, by decide⟩
  have smallStairs : LevelPack.stepsUp.Small := ⟨by decide, by decide⟩
  have smallJump : ∀ id level, .load id level ∈ wallJump → level.Small := by
    intro id level loads
    obtain ⟨_, rfl⟩ : id = "steps-up" ∧ level = LevelPack.stepsUp := by
      simpa [wallJump] using loads
    exact smallStairs
  have smallLanding : ∀ id level, .load id level ∈ wallLanding → level.Small := by
    intro id level loads
    exact smallJump id level (by simpa [wallLanding] using loads)
  refine ⟨small, smallLanding, _, rfl, ?_⟩
  intro painter jump
  obtain ⟨_, _, between, _⟩ := @positionOf?_robot "first-steps" LevelPack.firstSteps _ rfl small
    wallJump smallJump painter
  obtain ⟨_, ⟨place, found, paints⟩, _, settled⟩ := @positionOf?_robot "first-steps" LevelPack.firstSteps _ rfl small
    wallLanding smallLanding painter
  generalize isLeaving : after _ wallJump = leaving at *
  generalize isLanding : after _ wallLanding = landing at *
  have jumps : leaving.engine.animation = some jump ∧ leaving.world.pose.position = ⟨1, 0⟩ := by
    rw [← isLeaving]
    decide
  have lands : landing.engine.animation = some jump ∧ landing.world.pose.position = ⟨1, 0⟩ := by
    rw [← isLanding]
    decide
  have low : leaving.engine.progress.le Painter.half = true := by
    rw [← isLeaving]
    decide
  have high : landing.engine.progress.le Painter.half = false := by
    rw [← isLanding]
    decide
  have straddles : leaving.engine.snapshot.Straddles jump := ⟨jumps.1, .inr ⟨rfl, low⟩⟩
  have arrives : ∀ animation, ¬ landing.engine.snapshot.Straddles animation := by
    rintro animation ⟨shown, between⟩
    obtain rfl : jump = animation := Option.some.inj (lands.1.symm.trans shown)
    rcases between with ⟨walks, _⟩ | ⟨_, lowStill⟩
    · exact absurd walks (by decide)
    · exact absurd (high.symm.trans lowStill) Bool.false_ne_true
  have source : (⟨1, 0⟩ : Cell) - jump.delta.step = ⟨0, 0⟩ := by decide
  obtain ⟨departure, arrival, leaves, reaches, behind⟩ := between jump straddles
  obtain ⟨landed, reachesStill, behindStill⟩ := settled arrives
  rw [jumps.2, source] at leaves
  rw [jumps.2] at reaches
  rw [lands.2] at reachesStill
  obtain rfl : place = landed + 1 := Option.some.inj (found.symm.trans behindStill)
  generalize painted : Frame.commandsFor _ (landed + 1) = commands at paints
  obtain ⟨rfl, own, _⟩ := paints
  obtain rfl := own (by simp [Engine.snapshot, lands.1, jump])
  exact ⟨⟨straddles, departure, arrival, _, leaves, reaches, behind, by omega, by omega⟩, arrives,
    lands.1, landed, _, reachesStill, behindStill, painted⟩

end Lamplighter.Session
