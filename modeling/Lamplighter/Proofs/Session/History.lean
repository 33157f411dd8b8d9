import Lamplighter.Proofs.Session.Tick

/-!
# Histories of a session

A session is brought forward by ticks and by loads of other levels. Each step of a history happens
at a moment that knows the session before it, so that a history can be searched for the tick that
started a run, and what has been told since can be counted.
-/

namespace Lamplighter

/-- What can be done to a session. -/
inductive Session.Step where
  | tick (input : TickInput)
  | load (id : String) (level : Level)

/-- The event tells that an action has started. -/
def GameEvent.isStart : GameEvent → Bool
  | .instructionStarted _ _ => true
  | _ => false

namespace Session

/-! ## Steps -/

/-- The session after a step, and what the step tells. Where a level does not load, the session
stays as it is. -/
def step (session : Session) : Step → Session × List GameEvent
  | .tick input => session.tick input
  | .load id level =>
      match session.loadLevel id level with
      | .ok next => (next, [])
      | .error _ => (session, [])

/-- The session after some steps, one after the other. -/
def after (session : Session) (steps : List Step) : Session :=
  steps.foldl (fun current step => (current.step step).1) session

@[simp] theorem after_nil (session : Session) : session.after [] = session := rfl

@[simp] theorem after_cons (session : Session) (step : Step) (rest : List Step) :
    session.after (step :: rest) = (session.step step).1.after rest := rfl

/-- A level that loads brings its world and its medal limits, and an engine that has kept nothing
but the speed. -/
theorem of_loadLevel_eq_ok {session next : Session} {id : String} {level : Level}
    (isLoaded : session.loadLevel id level = .ok next) :
    ∃ world, World.load level = .ok world ∧
      next = { session with
        world
        engine := Engine.new.setSpeed session.engine.speed
        level := ⟨id, level.medals⟩
        lastMedal := none } := by
  cases loaded : World.load level with
  | error failure => simp [loadLevel, loaded, bind, Except.bind] at isLoaded
  | ok world =>
      simp only [loadLevel, loaded, bind, Except.bind, pure, Except.pure] at isLoaded
      exact ⟨world, rfl, (Except.ok.inj isLoaded).symm⟩

/-- A load leads to a world that has just been loaded and to an engine without a run, or it changes
nothing. -/
theorem step_load (session : Session) (id : String) (level : Level) :
    session.step (.load id level) = (session, []) ∨
      ∃ world, World.load level = .ok world ∧
        session.step (.load id level) =
          ({ session with
              world
              engine := Engine.new.setSpeed session.engine.speed
              level := ⟨id, level.medals⟩
              lastMedal := none }, []) := by
  cases loaded : World.load level with
  | error failure =>
      refine .inl ?_
      simp only [step, loadLevel, loaded, bind, Except.bind]
  | ok world =>
      refine .inr ⟨world, rfl, ?_⟩
      simp only [step, loadLevel, loaded, bind, Except.bind, pure, Except.pure]

/-! ## Moments -/

/-- A step of a history together with the session before it. -/
structure Moment where
  session : Session
  step : Step

namespace Moment

/-- What is told at a moment. -/
def events (moment : Moment) : List GameEvent := (moment.session.step moment.step).2

/-- A run starts at the moment. -/
def StartsRun (moment : Moment) : Prop :=
  match moment.step with
  | .tick input => moment.session.StartsRun input
  | .load _ _ => False

/-- The session when what the player did at the moment has been taken up. -/
def prepared (moment : Moment) : Session :=
  match moment.step with
  | .tick input => moment.session.prepare input
  | .load _ _ => moment.session

end Moment

/-- The moments at which the steps of a history happen. -/
def moments (session : Session) : List Step → List Moment
  | [] => []
  | step :: rest => ⟨session, step⟩ :: (session.step step).1.moments rest

theorem moments_append (session : Session) (steps further : List Step) :
    session.moments (steps ++ further) =
      session.moments steps ++ (session.after steps).moments further := by
  induction steps generalizing session with
  | nil => rfl
  | cons step rest inductionHypothesis =>
      simp only [List.cons_append, moments, inductionHypothesis, after_cons]

/-! ## Counting actions -/

/-- The number of actions that are told to start. -/
def startCount (events : List GameEvent) : Nat := events.countP GameEvent.isStart

/-- The announcement of an action tells that one action has started. -/
@[simp] theorem startCount_announce_append (action : Action) (animation : Animation)
    (further : List GameEvent) :
    startCount (announce action animation ++ further) = 1 + startCount further := by
  simp only [startCount, announce, List.countP_append]
  split <;> rfl

/-- The number of actions that are told to start at some moments. -/
def startsTold (moments : List Moment) : Nat := startCount (moments.flatMap Moment.events)

@[simp] theorem startsTold_append (first second : List Moment) :
    startsTold (first ++ second) = startsTold first + startsTold second := by
  simp [startsTold, startCount]

@[simp] theorem startsTold_singleton (moment : Moment) :
    startsTold [moment] = startCount moment.events := by
  simp [startsTold]

theorem startsTold_cons (moment : Moment) (rest : List Moment) :
    startsTold (moment :: rest) = startCount moment.events + startsTold rest := by
  simp [startsTold, startCount]

/-- A tick counts the action that it starts. -/
theorem Moves.executed_eq {prepared : Session} {outcome : Session × List GameEvent}
    (moves : Moves prepared outcome) :
    outcome.1.engine.executed = prepared.engine.executed + .ofNat (startCount outcome.2) := by
  cases moves with
  | rests idle => simp [startCount, GameEvent.isStart]
  | waits running unready => simp [startCount, GameEvent.isStart]
  | finishes running ready nothing => simp [startCount, GameEvent.isStart, Engine.ended]
  | starts running ready runs isCursor taken unsolved =>
      rw [startCount_announce_append, Engine.play_executed]
      rfl
  | solves running ready runs isCursor taken solved awarded =>
      rw [startCount_announce_append, Engine.play_executed]
      rfl

/-- No run goes on after a tick that did not go on during it. -/
theorem Moves.running {prepared : Session} {outcome : Session × List GameEvent}
    (moves : Moves prepared outcome) (running : outcome.1.engine.isRunning = true) :
    prepared.engine.isRunning = true := by
  cases moves with
  | rests idle => simpa using running
  | waits already _ => exact already
  | finishes already _ _ => exact already
  | starts already _ _ _ _ _ => exact already
  | solves already _ _ _ _ _ _ => exact already

/-! ## Runs in a history -/

/-- A run started at a moment from the spawn with no lamp lit, has been going on since then, and so
many actions have been told to start in it. -/
structure RunSince (start : Moment) (during : List Moment) (executed : UInt32) : Prop where
  starts : start.StartsRun
  begins : start.prepared.engine.isRunning = true
  atSpawn : start.prepared.world.pose = start.prepared.world.spawn
  dark : start.prepared.world.litCount = 0
  goesOn : ∀ moment ∈ during, moment.session.engine.isRunning = true ∧ ¬ moment.StartsRun
  counted : executed = .ofNat (startsTold (start :: during))

/-- At a further moment of a run, the actions that are told then are counted too. -/
theorem RunSince.snoc {start moment : Moment} {during : List Moment} {executed : UInt32}
    (since : RunSince start during executed) (running : moment.session.engine.isRunning = true)
    (notStarts : ¬ moment.StartsRun) :
    RunSince start (during ++ [moment]) (executed + .ofNat (startCount moment.events)) where
  starts := since.starts
  begins := since.begins
  atSpawn := since.atSpawn
  dark := since.dark
  goesOn := by
    intro other member
    rcases List.mem_append.1 member with before | now
    · exact since.goesOn other before
    · obtain rfl := List.mem_singleton.1 now
      exact ⟨running, notStarts⟩
  counted := by
    rw [← List.cons_append, startsTold_append, startsTold_singleton, UInt32.ofNat_add,
      ← since.counted]

end Session

end Lamplighter
