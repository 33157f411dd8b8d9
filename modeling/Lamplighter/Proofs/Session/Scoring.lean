import Lamplighter.LevelPack
import Lamplighter.Proofs.Medal.Keeping
import Lamplighter.Proofs.Session.History
import Lamplighter.Proofs.World.Play

/-!
# Scores are sound

`Session.Sound` is the invariant of sessions: the world comes from a fresh one by playing, and the
medal that is shown is backed by the book. Every step of a history keeps it. Together with what the
moments of a history tell about a run in progress, it says what a score means: it counts the actions
of one run from the spawn, and neither the medal shown nor the book forgets it.
-/

namespace Lamplighter.Session

/-! ## The world of a session -/

section PlayedFrom

variable {fresh : World}

/-- What the player does leaves the world as it is or puts it back. -/
theorem Prepares.playedFrom {session prepared : Session} {input : TickInput}
    (prepares : Prepares session input prepared) (isFresh : fresh.Fresh)
    (played : fresh.PlayedFrom session.world) : fresh.PlayedFrom prepared.world := by
  cases prepares with
  | keeps _ _ _ => exact played
  | begins _ _ =>
      rw [played.reset_eq isFresh]
      exact isFresh.playedFrom
  | rests _ _ _ placed _ =>
      rcases placed with rfl | rfl
      · exact played
      · rw [played.reset_eq isFresh]
        exact isFresh.playedFrom

/-- What the engine does to the world is to perform an action. -/
theorem Moves.playedFrom {prepared : Session} {outcome : Session × List GameEvent}
    (moves : Moves prepared outcome) (played : fresh.PlayedFrom prepared.world) :
    fresh.PlayedFrom outcome.1.world := by
  cases moves with
  | rests _ => exact played
  | waits _ _ => exact played
  | finishes _ _ _ => exact played
  | @starts _ _ _ action _ _ _ _ _ _ => exact played.perform action
  | @solves _ _ _ action _ _ _ _ _ _ _ _ => exact played.perform action

end PlayedFrom

/-- What is true of every session that is being played. -/
structure Sound (session : Session) : Prop where
  played : ∃ fresh : World, fresh.Fresh ∧ fresh.PlayedFrom session.world
  unsolved : session.engine.isRunning = true → session.world.isSolved = false
  unscored : session.engine.isRunning = true → session.lastMedal = none
  held : ∀ medal, session.lastMedal = some medal →
    medal.rank ≤ (session.book.best session.level.id).rank

/-- A new session has a world that has just been loaded, and no run is in progress in it. -/
theorem of_new_eq_ok {id : String} {level : Level} {session : Session}
    (begun : Session.new id level = .ok session) :
    ∃ world, World.load level = .ok world ∧
      session = ⟨world, .new, .straight, ⟨id, level.medals⟩, .empty, none⟩ := by
  cases loaded : World.load level with
  | error failure => simp [Session.new, loaded, bind, Except.bind] at begun
  | ok world =>
      simp only [Session.new, loaded, bind, Except.bind, pure, Except.pure] at begun
      exact ⟨world, rfl, (Except.ok.inj begun).symm⟩

/-- A new session is sound. -/
theorem sound_new {id : String} {level : Level} {session : Session}
    (begun : Session.new id level = .ok session) : session.Sound := by
  obtain ⟨world, loaded, rfl⟩ := of_new_eq_ok begun
  have isFresh := World.fresh_of_load loaded
  exact ⟨⟨world, isFresh, isFresh.playedFrom⟩, nofun, nofun, nofun⟩

section Step

variable {session : Session} (sound : session.Sound)
include sound

/-- Taking up what the player did keeps a session sound. -/
theorem Sound.prepare (input : TickInput) : (session.prepare input).Sound := by
  obtain ⟨fresh, isFresh, played⟩ := sound.played
  have prepares := session.prepares input
  have placed := prepares.playedFrom isFresh played
  generalize session.prepare input = prepared at prepares placed
  cases prepares with
  | keeps noRun noStop untaken =>
      refine ⟨⟨fresh, isFresh, placed⟩, ?_, ?_, sound.held⟩
      · intro running
        rw [steer_isRunning] at running
        exact sound.unsolved running
      · intro running
        rw [steer_isRunning] at running
        exact sound.unscored running
  | begins starts runs =>
      refine ⟨⟨fresh, isFresh, placed⟩, fun _ => ?_, fun _ => rfl, nofun⟩
      rw [played.reset_eq isFresh]
      exact isFresh.unsolved
  | rests notStarts idle still _ medal =>
      refine ⟨⟨fresh, isFresh, placed⟩, ?_, ?_, ?_⟩
      · simp [idle]
      · simp [idle]
      · rcases medal with rfl | rfl
        · exact sound.held
        · exact nofun

/-- What the engine does keeps a session sound: when an action lights the last lamp, the run ends,
and the medal shown has just been recorded. -/
theorem Sound.moves {outcome : Session × List GameEvent} (moves : Moves session outcome) :
    outcome.1.Sound := by
  obtain ⟨fresh, isFresh, played⟩ := sound.played
  have placed := moves.playedFrom played
  cases moves with
  | rests idle => exact ⟨⟨fresh, isFresh, placed⟩, by simp [idle], by simp [idle], sound.held⟩
  | waits running unready =>
      exact ⟨⟨fresh, isFresh, placed⟩, fun _ => sound.unsolved running,
        fun _ => sound.unscored running, sound.held⟩
  | finishes running ready nothing =>
      exact ⟨⟨fresh, isFresh, placed⟩, by simp, by simp, sound.held⟩
  | starts running ready runs isCursor taken unsolved =>
      exact ⟨⟨fresh, isFresh, placed⟩, fun _ => unsolved,
        fun _ => sound.unscored running, sound.held⟩
  | @solves _ _ _ _ medal running ready runs isCursor taken solved awarded =>
      refine ⟨⟨fresh, isFresh, placed⟩, by simp, by simp, ?_⟩
      intro shown isShown
      obtain rfl : medal = shown := Option.some.inj isShown
      exact session.book.rank_le_best_record session.level.id ⟨medal, session.engine.executed + 1⟩

theorem Sound.tick (input : TickInput) : (session.tick input).1.Sound :=
  (sound.prepare input).moves (session.tick_moves input)

theorem Sound.step (step : Step) : (session.step step).1.Sound := by
  cases step with
  | tick input => exact sound.tick input
  | load id level =>
      rcases session.step_load id level with same | ⟨world, loaded, swapped⟩
      · rw [same]
        exact sound
      · have isFresh := World.fresh_of_load loaded
        rw [swapped]
        exact ⟨⟨world, isFresh, isFresh.playedFrom⟩, nofun, nofun, nofun⟩

end Step

/-- A sound session stays sound. -/
theorem Sound.after {session : Session} (sound : session.Sound) (steps : List Step) :
    (session.after steps).Sound := by
  induction steps generalizing session with
  | nil => exact sound
  | cons step rest inductionHypothesis => exact inductionHypothesis (sound.step step)

/-! ## The book -/

/-- No step makes anything in the book worse. -/
theorem keepsUp_step (session : Session) (step : Step) :
    (session.step step).1.book.KeepsUp session.book := by
  cases step with
  | tick input =>
      have moves := session.tick_moves input
      rw [← session.prepare_book input, step]
      generalize session.tick input = outcome at moves
      cases moves with
      | solves => exact MedalBook.keepsUp_record _ _ _
      | _ => exact .refl _
  | load id level =>
      rcases session.step_load id level with same | ⟨world, loaded, swapped⟩
      · rw [same]
        exact .refl _
      · rw [swapped]
        exact .refl _

/-- No history makes anything in the book worse. -/
theorem keepsUp_after (session : Session) (steps : List Step) :
    (session.after steps).book.KeepsUp session.book := by
  induction steps generalizing session with
  | nil => exact .refl _
  | cons step rest inductionHypothesis =>
      exact (inductionHypothesis (session.step step).1).trans (session.keepsUp_step step)

/-! ## Runs -/

/-- Where a run is in progress, the moments tell when it started. -/
def Recorded (past : List Moment) (session : Session) : Prop :=
  session.engine.isRunning = true →
    ∃ earlier start during, past = earlier ++ start :: during ∧
      RunSince start during session.engine.executed

/-- A run that goes on in a tick, or ends in it, started at one of the moments up to this tick. -/
theorem Sound.runSince_tick {session : Session} (sound : session.Sound) {past : List Moment}
    (recorded : Recorded past session) {input : TickInput}
    (running : (session.prepare input).engine.isRunning = true) :
    ∃ earlier start during, past ++ [⟨session, .tick input⟩] = earlier ++ start :: during ∧
      RunSince start during (session.tick input).1.engine.executed := by
  rw [(session.tick_moves input).executed_eq]
  by_cases starts : session.StartsRun input
  · obtain ⟨program, runs, begun⟩ := prepare_of_startsRun starts
    obtain ⟨fresh, isFresh, played⟩ := sound.played
    have again := played.reset_eq isFresh
    refine ⟨past, ⟨session, .tick input⟩, [], by simp, ?_⟩
    exact {
      starts
      begins := by
        simp only [Moment.prepared, begun]
        rfl
      atSpawn := by
        simp only [Moment.prepared, begun, again]
        exact isFresh.pose
      dark := by
        simp only [Moment.prepared, begun, again]
        exact isFresh.dark
      goesOn := fun moment member => absurd member List.not_mem_nil
      counted := by
        rw [startsTold_singleton, begun]
        exact UInt32.zero_add _ }
  · obtain ⟨already, same⟩ := prepare_of_not_startsRun starts running
    obtain ⟨earlier, start, during, split, since⟩ := recorded already
    refine ⟨earlier, start, during ++ [⟨session, .tick input⟩], by simp [split], ?_⟩
    rw [same, steer_executed]
    exact since.snoc already starts

/-- Each step adds a moment to the record of the run in progress. -/
theorem Sound.recorded_step {session : Session} (sound : session.Sound) {past : List Moment}
    (recorded : Recorded past session) (step : Step) :
    Recorded (past ++ [⟨session, step⟩]) (session.step step).1 := by
  intro running
  cases step with
  | tick input => exact sound.runSince_tick recorded ((session.tick_moves input).running running)
  | load id level =>
      rcases session.step_load id level with same | ⟨world, loaded, swapped⟩
      · rw [same] at running ⊢
        obtain ⟨earlier, start, during, split, since⟩ := recorded running
        have further := @RunSince.snoc _ ⟨session, .load id level⟩ _ _ since running not_false
        refine ⟨earlier, start, during ++ [⟨session, .load id level⟩], by simp [split], ?_⟩
        simpa [Moment.events, same, startCount] using further
      · simp [swapped, Engine.new, Engine.setSpeed, Engine.isRunning] at running

/-- The moments of a history tell when the run in progress started. -/
theorem Sound.recorded_after {session : Session} (sound : session.Sound) {past : List Moment}
    (recorded : Recorded past session) (steps : List Step) :
    Recorded (past ++ session.moments steps) (session.after steps) := by
  induction steps generalizing session past with
  | nil => simpa [moments] using recorded
  | cons step rest inductionHypothesis =>
      have further := inductionHypothesis (sound.step step) (sound.recorded_step recorded step)
      simpa [moments] using further

/-! ## Scores -/

/-- Where a solved level is told of, a run was in progress, its actions have been counted, and the
medal for this count has been recorded and is shown. -/
theorem Moves.of_mem_mapSolved {prepared : Session} {outcome : Session × List GameEvent}
    (moves : Moves prepared outcome) {executed : UInt32} {medal : Medal}
    (told : .mapSolved executed medal ∈ outcome.2) :
    prepared.engine.isRunning = true ∧ executed = outcome.1.engine.executed ∧
      medal = prepared.level.medals.award executed ∧ outcome.1.lastMedal = some medal ∧
      outcome.1.book = prepared.book.record prepared.level.id ⟨medal, executed⟩ := by
  have notAnnounced : ∀ action animation,
      GameEvent.mapSolved executed medal ∉ announce action animation := by
    intro action animation
    unfold announce
    split <;> simp
  cases moves with
  | rests _ => simp at told
  | waits _ _ => simp at told
  | finishes _ _ _ => simp at told
  | starts _ _ _ _ _ _ => simp [notAnnounced] at told
  | solves running _ _ _ _ _ awarded =>
      obtain ⟨rfl, rfl⟩ : executed = prepared.engine.executed + 1 ∧ medal = _ := by
        simpa [notAnnounced] using told
      exact ⟨running, by simp [Engine.ended], awarded, rfl, rfl⟩

/-- Whatever is done in a session: while a run is in progress, the level is not solved and no medal
is shown; a medal that is shown is no better than the one that the book has for the level; and what
comes later makes no result in the book worse. Whenever a tick tells that the level is solved, this
is the end of a run that was started from the spawn with no lamp lit; the count told is the number
of actions that were told to start since then; the medal is the one for this count, it is shown, and
the book holds a result that is as good. -/
theorem scores_after_new {id : String} {level : Level} {session : Session}
    (begun : Session.new id level = .ok session) (steps : List Step) :
    let current := session.after steps
    (current.engine.isRunning = true →
        current.world.isSolved = false ∧ current.lastMedal = none) ∧
      (∀ medal, current.lastMedal = some medal →
        medal.rank ≤ (current.book.best current.level.id).rank) ∧
      (∀ further, (current.after further).book.KeepsUp current.book) ∧
      ∀ input executed medal, .mapSolved executed medal ∈ (current.tick input).2 →
        (∃ earlier start during,
          session.moments (steps ++ [.tick input]) = earlier ++ start :: during ∧
            RunSince start during executed ∧
            (startsTold (start :: during) < UInt32.size →
              executed.toNat = startsTold (start :: during))) ∧
          medal = current.level.medals.award executed ∧
          (current.tick input).1.lastMedal = some medal ∧
          ∃ entry, (current.tick input).1.book.find? current.level.id = some entry ∧
            entry.AsGood ⟨medal, executed⟩ := by
  intro current
  have sound : current.Sound := (sound_new begun).after steps
  refine ⟨fun running => ⟨sound.unsolved running, sound.unscored running⟩, sound.held,
    current.keepsUp_after, ?_⟩
  intro input executed medal told
  obtain ⟨running, rfl, awarded, shown, booked⟩ := (current.tick_moves input).of_mem_mapSolved told
  refine ⟨?_, ?_, shown, ?_⟩
  · have idle : Recorded [] session := by
      obtain ⟨world, _, rfl⟩ := of_new_eq_ok begun
      exact nofun
    have recorded := (sound_new begun).recorded_after idle steps
    obtain ⟨earlier, start, during, split, since⟩ := sound.runSince_tick recorded running
    refine ⟨earlier, start, during, by rw [moments_append]; exact split, since, ?_⟩
    intro countable
    rw [since.counted, UInt32.toNat_ofNat_of_lt' countable]
  · rw [← current.prepare_level input]
    exact awarded
  · rw [booked, ← current.prepare_level input]
    exact MedalBook.find?_record _ _ _

theorem scores_after_new_firstSteps :
    ∃ session steps, Session.new "first-steps" LevelPack.firstSteps = .ok session ∧
      let current := session.after steps
      .mapSolved 3 .gold ∈ (current.tick .nothing).2 ∧
        (∃ earlier start during,
          session.moments (steps ++ [.tick .nothing]) = earlier ++ start :: during ∧
            RunSince start during 3) ∧
        (current.tick .nothing).1.lastMedal = some .gold ∧
        ∃ entry, (current.tick .nothing).1.book.find? current.level.id = some entry ∧
          entry.AsGood ⟨.gold, 3⟩ := by
  -- The program is started at triple speed, and on the way a level without a map does not load.
  obtain ⟨session, steps, begun, told⟩ :
      ∃ session steps, Session.new "first-steps" LevelPack.firstSteps = .ok session ∧
        .mapSolved 3 .gold ∈ ((session.after steps).tick .nothing).2 := by
    refine ⟨_, [.tick { TickInput.nothing with cycleSpeed := true },
      .tick { TickInput.nothing with
        program := some (.ofActions [.walk, .walk, .light]), run := true, cycleSpeed := true },
      .load "nowhere" { LevelPack.firstSteps with map := [] }] ++
        List.replicate 9 (.tick .nothing), rfl, ?_⟩
    decide +kernel
  obtain ⟨_, _, _, scores⟩ := scores_after_new begun steps
  obtain ⟨⟨earlier, start, during, split, since, _⟩, _, shown, held⟩ := scores .nothing 3 .gold told
  exact ⟨session, steps, begun, told, ⟨earlier, start, during, split, since⟩, shown, held⟩

end Lamplighter.Session
