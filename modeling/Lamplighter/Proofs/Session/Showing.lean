import Lamplighter.Proofs.Engine.Progress
import Lamplighter.Proofs.Session.Scoring
import Lamplighter.Proofs.World.Showing

/-!
# What a session shows

The world and the animation are kept apart, and whoever paints relies on both. `Session.Displays` is
the invariant that they agree, whatever is asked of the two: every tick and every load either keeps
both, changes both together or leaves no animation. So what is shown agrees with the world in every
history, however often runs are started, stopped and started again: `Session.shows_after_new`.
-/

namespace Lamplighter.Session

/-- Turning the camera and choosing a speed leave the animation as it is. -/
@[simp] theorem steer_animation (session : Session) (input : TickInput) :
    (session.steer input).engine.animation = session.engine.animation := by
  simp only [steer]
  split <;> rfl

/-! ## Animations that agree with the world -/

/-- The animation of a session, if there is one, agrees with its world, which comes from a fresh one
with a fit grid. -/
structure Displays (fits : Grid → Prop) (agrees : World → Animation → Prop) (session : Session) :
    Prop where
  played : ∃ fresh : World, fresh.Fresh ∧ fits fresh.grid ∧ fresh.PlayedFrom session.world
  shown : ∀ animation, session.engine.animation = some animation → agrees session.world animation

section Displays

variable {fits : Grid → Prop} {agrees : World → Animation → Prop}

/-- A world that has just been loaded is shown without an animation. -/
theorem displays_of_load {session : Session} {level : Level}
    (loaded : World.load level = .ok session.world) (fit : fits session.world.grid)
    (still : session.engine.animation = none) : session.Displays fits agrees :=
  have isFresh := World.fresh_of_load loaded
  ⟨⟨session.world, isFresh, fit, isFresh.playedFrom⟩, by simp [still]⟩

variable {session : Session} (displays : session.Displays fits agrees)
include displays

/-- Taking up what the player did keeps the animation together with the world, or forgets it. -/
theorem Displays.prepare (input : TickInput) : (session.prepare input).Displays fits agrees := by
  obtain ⟨fresh, isFresh, fit, played⟩ := displays.played
  have prepares := session.prepares input
  have placed := prepares.playedFrom isFresh played
  generalize session.prepare input = prepared at prepares placed
  refine ⟨⟨fresh, isFresh, fit, placed⟩, ?_⟩
  cases prepares with
  | keeps _ _ _ =>
      intro animation isShown
      rw [steer_animation] at isShown
      exact displays.shown animation isShown
  | begins _ _ => exact nofun
  | rests _ _ still _ _ => simp [still]

variable (agree : ∀ {fresh world : World}, fits fresh.grid → fresh.PlayedFrom world →
  ∀ action, agrees (world.perform action).1 (world.perform action).2)
include agree

/-- The engine starts an animation together with the change of the world that it shows. -/
theorem Displays.moves {outcome : Session × List GameEvent} (moves : Moves session outcome) :
    outcome.1.Displays fits agrees := by
  obtain ⟨fresh, isFresh, fit, played⟩ := displays.played
  -- Whatever action starts, its animation and its world come out of the same call.
  have agreesNow := agree fit played
  refine ⟨⟨fresh, isFresh, fit, moves.playedFrom played⟩, ?_⟩
  cases moves with
  | rests _ => simpa using displays.shown
  | waits _ _ => simpa using displays.shown
  | finishes _ _ _ => exact displays.shown
  | @starts _ _ _ action _ _ _ _ _ _ =>
      intro animation isShown
      obtain rfl : (session.world.perform action).2 = animation := by
        simpa [Engine.started] using isShown
      exact agreesNow action
  | @solves _ _ _ action _ _ _ _ _ _ _ _ =>
      intro animation isShown
      obtain rfl : (session.world.perform action).2 = animation := by
        simpa [Engine.started, Engine.ended] using isShown
      exact agreesNow action

theorem Displays.step {step : Step} (fitLoads : ∀ id level, step = .load id level →
    ∀ world, World.load level = .ok world → fits world.grid) :
    (session.step step).1.Displays fits agrees := by
  cases step with
  | tick input => exact (displays.prepare input).moves agree (session.tick_moves input)
  | load id level =>
      rcases session.step_load id level with same | ⟨world, loaded, swapped⟩
      · rw [same]
        exact displays
      · rw [swapped]
        exact displays_of_load loaded (fitLoads id level rfl world loaded) rfl

/-- So the animation agrees with the world after any steps. -/
theorem Displays.after {steps : List Step} (fitLoads : ∀ id level, .load id level ∈ steps →
    ∀ world, World.load level = .ok world → fits world.grid) :
    (session.after steps).Displays fits agrees := by
  induction steps generalizing session with
  | nil => exact displays
  | cons step rest inductionHypothesis =>
      refine inductionHypothesis (displays.step agree ?_) ?_
      · rintro id level rfl
        exact fitLoads id level List.mem_cons_self
      · exact fun id level later => fitLoads id level (List.mem_cons_of_mem _ later)

end Displays

/-! ## What an animation says -/

/-- The animation of a session, if there is one, agrees with its world, on which every height can be
told as a signed number. -/
structure Showing (session : Session) : Prop where
  played : ∃ fresh : World, fresh.Fresh ∧ fresh.grid.Low ∧ fresh.PlayedFrom session.world
  shown : ∀ animation, session.engine.animation = some animation → session.world.Shows animation

theorem showing_iff_displays {session : Session} :
    session.Showing ↔ session.Displays Grid.Low World.Shows :=
  ⟨fun showing => ⟨showing.played, showing.shown⟩, fun displays => ⟨displays.played, displays.shown⟩⟩

/-- A world that has just been loaded from a low level is shown without an animation. -/
theorem showing_of_load {session : Session} {level : Level} (low : level.Low)
    (loaded : World.load level = .ok session.world) (still : session.engine.animation = none) :
    session.Showing :=
  showing_iff_displays.2 (displays_of_load loaded (World.low_of_load loaded low) still)

/-- An animation that agrees with the world goes on to agree with it. -/
theorem Showing.after {session : Session} (showing : session.Showing) {steps : List Step}
    (low : ∀ id level, .load id level ∈ steps → level.Low) : (session.after steps).Showing := by
  refine showing_iff_displays.2 ((showing_iff_displays.1 showing).after ?_ ?_)
  · exact fun low played => World.shows_perform (played.grid.low low)
  · exact fun id level loads world loaded => World.low_of_load loaded (low id level loads)

/-- In every history of a session whose levels have all their heights below `2 ^ 31`, the animation
that is shown agrees with the world, and its progress lies between zero and one. -/
theorem shows_after_new {id : String} {level : Level} {session : Session}
    (begun : Session.new id level = .ok session) (low : level.Low) (steps : List Step)
    (lowLoads : ∀ id level, .load id level ∈ steps → level.Low) :
    let current := session.after steps
    (∀ animation, current.engine.animation = some animation → current.world.Shows animation) ∧
      Binary32.le 0 current.engine.progress = true ∧ current.engine.progress.le 1 = true := by
  intro current
  have showing : current.Showing := by
    obtain ⟨world, loaded, rfl⟩ := of_new_eq_ok begun
    exact (showing_of_load low loaded rfl).after lowLoads
  refine ⟨showing.shown, Engine.progress_bounds ?_⟩
  exact fun animation isShown => (showing.shown animation isShown).duration

/-- Another level is loaded, and a robot starts to jump up a wall there. -/
def wallJump : List Step :=
  [.load "steps-up" LevelPack.stepsUp,
    .tick { TickInput.nothing with program := some ⟨[.act .jump]⟩, run := true }]

/-- The robot stands on the wall already while the animation still shows its jump, which rises by the
two steps between the tiles. -/
theorem shows_after_new_wallJump :
    LevelPack.firstSteps.Low ∧ (∀ id level, .load id level ∈ wallJump → level.Low) ∧
      ∃ session, Session.new "first-steps" LevelPack.firstSteps = .ok session ∧
        let current := session.after wallJump
        current.engine.animation = some ⟨.jumpUp, 20, ⟨1, 0, 2⟩⟩ ∧
          current.world.pose = ⟨⟨1, 0⟩, .northEast⟩ ∧ current.engine.progress.le 1 = true ∧
          ∃ there here : Int32, current.world.heightAt? ⟨0, 0⟩ = some there ∧
            current.world.heightAt? ⟨1, 0⟩ = some here ∧ 2 = here.toInt - there.toInt := by
  have low : LevelPack.firstSteps.Low := by decide
  have lowLoads : ∀ id level, .load id level ∈ wallJump → level.Low := by
    intro id level loads
    obtain ⟨_, rfl⟩ : id = "steps-up" ∧ level = LevelPack.stepsUp := by
      simpa [wallJump] using loads
    decide
  refine ⟨low, lowLoads, _, rfl, ?_⟩
  obtain ⟨shown, _, played⟩ :=
    @shows_after_new "first-steps" LevelPack.firstSteps _ rfl low wallJump lowLoads
  generalize isCurrent : after _ wallJump = current at *
  have jumps : current.engine.animation = some ⟨.jumpUp, 20, ⟨1, 0, 2⟩⟩ := by
    rw [← isCurrent]
    decide
  have pose : current.world.pose = ⟨⟨1, 0⟩, .northEast⟩ := by
    rw [← isCurrent]
    decide
  obtain ⟨there, here, _, atThere, atHere, climb⟩ := (shown _ jumps).source (by decide)
  rw [pose] at atThere atHere
  exact ⟨jumps, pose, played, there, here, atThere, atHere, climb⟩

end Lamplighter.Session
