import Lamplighter.Proofs.Session.Scoring

/-!
# A run does not depend on the past

Idle sessions on a level may have any past: runs that solved it, came to their end, were stopped or
never began. `Session.Agree` says that two sessions differ at most in the camera and in the book.
Starting a run brings two idle sessions on a level to agreement if they run the same program at the
same speed, whatever else they remember, and no later input tells sessions apart that agree.
-/

namespace Lamplighter

namespace Engine

/-- At the start of a run an engine knows the program and the speed, and nothing else. -/
theorem begun_congr {first second : Engine} (speed : first.speed = second.speed)
    (program : Program) : first.begun program = second.begun program := by
  simp only [begun, rewind, speed]

/-- An engine that has forgotten its run knows its program and its speed, and nothing else. -/
theorem halt_congr {first second : Engine} (speed : first.speed = second.speed)
    (program : first.program = second.program) : first.halt = second.halt := by
  simp only [halt, speed, program]

end Engine

namespace Session

/-! ## Sessions on a level -/

/-- A session on a level. It began there or came there by a load, and has been played since. -/
inductive Plays (id : String) (level : Level) : Session → Prop where
  | begun {session : Session} (isNew : Session.new id level = .ok session) : Plays id level session
  | loaded {before session : Session} (isLoaded : before.loadLevel id level = .ok session) :
      Plays id level session
  | ticked {session : Session} (plays : Plays id level session) (input : TickInput) :
      Plays id level (session.tick input).1

/-- A session on a level has its name and its medal limits, and its world comes from the loaded one
by playing. -/
theorem Plays.onLevel {id : String} {level : Level} {session : Session}
    (plays : session.Plays id level) :
    session.level = ⟨id, level.medals⟩ ∧
      ∃ fresh, World.load level = .ok fresh ∧ fresh.PlayedFrom session.world := by
  induction plays with
  | begun isNew =>
      obtain ⟨world, isLoaded, rfl⟩ := of_new_eq_ok isNew
      exact ⟨rfl, world, isLoaded, (World.fresh_of_load isLoaded).playedFrom⟩
  | loaded isLoaded =>
      obtain ⟨world, isWorld, rfl⟩ := of_loadLevel_eq_ok isLoaded
      exact ⟨rfl, world, isWorld, (World.fresh_of_load isWorld).playedFrom⟩
  | @ticked session _ input inductionHypothesis =>
      obtain ⟨onLevel, fresh, isLoaded, played⟩ := inductionHypothesis
      have isFresh := World.fresh_of_load isLoaded
      have prepared := (session.prepares input).playedFrom isFresh played
      refine ⟨?_, fresh, isLoaded, (session.tick_moves input).playedFrom prepared⟩
      rw [(session.tick_moves input).level_eq, prepare_level, onLevel]

/-- What is played on a level comes from the world that it makes. -/
theorem Plays.playedFrom {id : String} {level : Level} {session : Session}
    (plays : session.Plays id level) {world : World} (isLoaded : World.load level = .ok world) :
    world.PlayedFrom session.world := by
  obtain ⟨_, fresh, isFresh, played⟩ := plays.onLevel
  obtain rfl : world = fresh := Except.ok.inj (isLoaded.symm.trans isFresh)
  exact played

/-- A session on a level stays there over any ticks. -/
theorem Plays.ticks {id : String} {level : Level} {session : Session}
    (plays : session.Plays id level) (inputs : List TickInput) :
    (session.after (inputs.map .tick)).Plays id level := by
  induction inputs generalizing session with
  | nil => exact plays
  | cons input rest inductionHypothesis => exact inductionHypothesis (plays.ticked input)

/-! ## Agreement -/

/-- Two sessions differ at most in the camera and in the book. -/
structure Agree (first second : Session) : Prop where
  world : first.world = second.world
  engine : first.engine = second.engine
  level : first.level = second.level
  lastMedal : first.lastMedal = second.lastMedal

section Agree

variable {first second : Session} (agree : first.Agree second)
include agree

theorem Agree.steer (input : TickInput) : (first.steer input).Agree (second.steer input) where
  world := agree.world
  engine := by simp only [Session.steer, agree.engine]
  level := agree.level
  lastMedal := agree.lastMedal

theorem Agree.reset : first.reset.Agree second.reset where
  world := by simp only [Session.reset, Engine.reset, agree.world]
  engine := by simp only [Session.reset, Engine.reset, agree.engine]
  level := agree.level
  lastMedal := agree.lastMedal

theorem Agree.halt (input : TickInput) : (first.halt input).Agree (second.halt input) := by
  unfold Session.halt
  split
  · exact agree.reset
  · exact agree

theorem Agree.supply (input : TickInput) : (first.supply input).Agree (second.supply input) := by
  unfold Session.supply
  split
  · exact ⟨agree.world, by simp only [agree.engine], agree.level, agree.lastMedal⟩
  · exact agree

theorem Agree.toggle (input : TickInput) : (first.toggle input).Agree (second.toggle input) := by
  have again := agree.reset
  unfold Session.toggle
  rw [agree.engine]
  split
  · split
    · exact again
    · exact ⟨again.world, by simp only [again.engine], again.level, rfl⟩
  · exact agree

theorem Agree.prepare (input : TickInput) : (first.prepare input).Agree (second.prepare input) :=
  (((agree.steer input).halt input).supply input).toggle input

/-- Sessions that agree tell the same of an event. -/
theorem Agree.take (event : EngineEvent) :
    (first.take event).1.Agree (second.take event).1 ∧
      (first.take event).2 = (second.take event).2 := by
  cases event with
  | started action animation => exact ⟨agree, rfl⟩
  | solved executed =>
      simp only [Session.take, agree.level]
      exact ⟨⟨agree.world, agree.engine, rfl, rfl⟩, trivial⟩
  | finished executed => exact ⟨agree, rfl⟩

theorem Agree.takeAll (events : List EngineEvent) :
    (first.takeAll events).1.Agree (second.takeAll events).1 ∧
      (first.takeAll events).2 = (second.takeAll events).2 := by
  induction events generalizing first second with
  | nil => exact ⟨agree, rfl⟩
  | cons event rest inductionHypothesis =>
      obtain ⟨taken, told⟩ := agree.take event
      obtain ⟨takenAll, toldAll⟩ := inductionHypothesis taken
      simp only [Session.takeAll, told, toldAll, and_true]
      exact takenAll

end Agree

/-- Sessions that agree once the input is taken up agree after the tick, and tell the same in it. -/
theorem agree_tick_of_prepare {first second : Session} {input : TickInput}
    (prepared : (first.prepare input).Agree (second.prepare input)) :
    (first.tick input).1.Agree (second.tick input).1 ∧
      (first.tick input).2 = (second.tick input).2 := by
  have moved : ∀ engine world,
      ({ first.prepare input with engine, world } : Session).Agree
        { second.prepare input with engine, world } :=
    fun _ _ => ⟨rfl, rfl, prepared.level, prepared.lastMedal⟩
  simp only [Session.tick, prepared.engine, prepared.world]
  obtain ⟨taken, told⟩ := (moved _ _).takeAll _
  exact ⟨taken, congrArg (· ++ [GameEvent.tick]) told⟩

/-! ## What can be seen -/

/-- What can be seen of a tick and of the session behind it. -/
structure Observation where
  events : List GameEvent
  world : World
  snapshot : Engine.Snapshot
  executed : UInt32
  medal : Option Medal
deriving DecidableEq

/-- What can be seen of the outcome of a tick. -/
def Observation.of (outcome : Session × List GameEvent) : Observation where
  events := outcome.2
  world := outcome.1.world
  snapshot := outcome.1.engine.snapshot
  executed := outcome.1.engine.executed
  medal := outcome.1.lastMedal

/-- What can be seen of a session in some ticks, one after the other. -/
def observe (session : Session) : List TickInput → List Observation
  | [] => []
  | input :: rest => .of (session.tick input) :: (session.tick input).1.observe rest

/-- Outcomes look the same that tell the same and agree. -/
theorem Observation.of_congr {first second : Session × List GameEvent}
    (agree : first.1.Agree second.1) (told : first.2 = second.2) :
    Observation.of first = Observation.of second := by
  simp only [Observation.of, told, agree.world, agree.engine, agree.lastMedal]

/-- No inputs tell sessions apart that agree. -/
theorem Agree.observe {first second : Session} (agree : first.Agree second)
    (inputs : List TickInput) : first.observe inputs = second.observe inputs := by
  induction inputs generalizing first second with
  | nil => rfl
  | cons input rest inductionHypothesis =>
      obtain ⟨agreeNext, told⟩ := agree_tick_of_prepare (agree.prepare input)
      rw [Session.observe, Session.observe, Observation.of_congr agreeNext told,
        inductionHypothesis agreeNext]

/-! ## The start of a run -/

/-- The run button brings idle sessions on a level to agreement that have the same speed and, unless
they are given one, the same program. -/
theorem agree_prepare_of_run {id : String} {level : Level} {first second : Session}
    (firstPlays : first.Plays id level) (secondPlays : second.Plays id level)
    (firstIdle : first.engine.isRunning = false) (secondIdle : second.engine.isRunning = false)
    (sameSpeed : first.engine.speed = second.engine.speed) {input : TickInput}
    (pressed : input.run = true)
    (sameProgram : input.program = none → first.engine.program = second.engine.program) :
    (first.prepare input).Agree (second.prepare input) := by
  obtain ⟨firstLevel, fresh, isLoaded, firstPlayed⟩ := firstPlays.onLevel
  have secondPlayed := secondPlays.playedFrom isLoaded
  have isFresh := World.fresh_of_load isLoaded
  have runs : input.program.or first.engine.program = input.program.or second.engine.program := by
    cases given : input.program with
    | none => simpa using sameProgram given
    | some program => simp only [Option.some_or]
  have speed : (first.steer input).engine.speed = (second.steer input).engine.speed := by
    rw [steer_speed, steer_speed, sameSpeed]
  rw [prepare_of_run pressed (.inl firstIdle), prepare_of_run pressed (.inl secondIdle)]
  constructor
  · simp only [firstPlayed.reset_eq isFresh, secondPlayed.reset_eq isFresh]
  · simp only [runs]
    cases found : input.program.or second.engine.program with
    | some program => exact Engine.begun_congr speed program
    | none =>
        have firstNone := (Option.or_eq_none_iff.1 (runs.trans found)).2
        have secondNone := (Option.or_eq_none_iff.1 found).2
        apply Engine.halt_congr speed
        rw [steer_program, steer_program, firstNone, secondNone]
  · exact firstLevel.trans secondPlays.onLevel.1.symm
  · rfl

/-- What is seen of a run, and of all that follows it, does not depend on what was played before.
Two idle sessions on the same level, with any pasts, look the same at every tick from the press of
the run button on, if they have the same speed and the same program. The programs that they have
make no difference when the first input brings one. -/
theorem observe_of_run {id : String} {level : Level} {first second : Session}
    (firstPlays : first.Plays id level) (secondPlays : second.Plays id level)
    (firstIdle : first.engine.isRunning = false) (secondIdle : second.engine.isRunning = false)
    (sameSpeed : first.engine.speed = second.engine.speed) {input : TickInput}
    (pressed : input.run = true)
    (sameProgram : input.program = none → first.engine.program = second.engine.program)
    (inputs : List TickInput) :
    first.observe (input :: inputs) = second.observe (input :: inputs) := by
  have prepared := agree_prepare_of_run firstPlays secondPlays firstIdle secondIdle sameSpeed
    pressed sameProgram
  obtain ⟨agree, told⟩ := agree_tick_of_prepare prepared
  rw [observe, observe, Observation.of_congr agree told, agree.observe inputs]

/-- One session has solved its level, the other has only been given the program. -/
theorem observe_of_run_firstSteps :
    ∃ (fresh : Session) (firstPast secondPast : List TickInput),
      Session.new "first-steps" LevelPack.firstSteps = .ok fresh ∧
      let first := fresh.after (firstPast.map .tick)
      let second := fresh.after (secondPast.map .tick)
      let inputs := { TickInput.nothing with run := true } :: List.replicate 30 .nothing
      (first.engine.isRunning = false ∧ second.engine.isRunning = false) ∧
        first.engine.speed = second.engine.speed ∧
        first.engine.program = second.engine.program ∧
        (first.lastMedal = some .gold ∧ second.lastMedal = none) ∧
        (∃ seen ∈ second.observe inputs, .mapSolved 3 .gold ∈ seen.events) ∧
        first.observe inputs = second.observe inputs := by
  obtain ⟨fresh, firstPast, secondPast, isNew, idle, speed, program, medals, solves⟩ :
      ∃ (fresh : Session) (firstPast secondPast : List TickInput),
        Session.new "first-steps" LevelPack.firstSteps = .ok fresh ∧
        let first := fresh.after (firstPast.map .tick)
        let second := fresh.after (secondPast.map .tick)
        let inputs := { TickInput.nothing with run := true } :: List.replicate 30 .nothing
        (first.engine.isRunning = false ∧ second.engine.isRunning = false) ∧
          first.engine.speed = second.engine.speed ∧
          first.engine.program = second.engine.program ∧
          (first.lastMedal = some .gold ∧ second.lastMedal = none) ∧
          ∃ seen ∈ second.observe inputs, .mapSolved 3 .gold ∈ seen.events := by
    let program := Program.ofActions [.walk, .walk, .light]
    refine ⟨_, { TickInput.nothing with program := some program, run := true } ::
      List.replicate 30 .nothing, [{ TickInput.nothing with program := some program }], rfl, ?_⟩
    decide +kernel
  have firstPlays := (Plays.begun isNew).ticks firstPast
  have secondPlays := (Plays.begun isNew).ticks secondPast
  exact ⟨fresh, firstPast, secondPast, isNew, idle, speed, program, medals, solves,
    observe_of_run firstPlays secondPlays idle.1 idle.2 speed rfl (fun _ => program) _⟩

end Session

end Lamplighter
