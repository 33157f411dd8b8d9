import Lamplighter.Proofs.Session.Checked

/-!
# What sessions tell, and when

What a tick tells has one of four shapes, `Session.Tells`. Over a history, what is told is ruled by
one fact: an idle session is quiet until a run starts, `Session.quiet_of_idle`. Everything that ends
a run, and everything that stops one, leaves an idle session; so a run has at most one end, and
nothing is told of it behind that end.
-/

namespace Lamplighter

/-- The event tells that a run has come to its end. -/
def GameEvent.isEnd : GameEvent → Bool
  | .mapSolved _ _ => true
  | .programFinished _ => true
  | _ => false

namespace Session

/-! ## One tick -/

/-- What one tick may tell. An action that starts is announced, and announced as blocked where the
robot cannot move; only lighting a lamp solves a level. -/
inductive Tells : List GameEvent → Prop where
  | rests : Tells [.tick]
  | finishes (executed : UInt32) : Tells [.programFinished executed, .tick]
  | starts (action : Action) (animation : Animation) : Tells (announce action animation ++ [.tick])
  | solves (animation : Animation) (executed : UInt32) (medal : Medal) :
      Tells (announce .light animation ++ [.mapSolved executed medal, .tick])

/-- Every tick of a sound session tells one of these lists. -/
theorem Sound.tells {session : Session} (sound : session.Sound) (input : TickInput) :
    Tells (session.tick input).2 := by
  have unsolved := (sound.prepare input).unsolved
  have moves := session.tick_moves input
  generalize session.prepare input = prepared at unsolved moves
  generalize session.tick input = outcome at moves
  cases moves with
  | rests idle => exact .rests
  | waits running unready => exact .rests
  | finishes running ready nothing => exact .finishes _
  | starts running ready runs isCursor taken unsolved => exact .starts _ _
  | solves running ready runs isCursor taken solved awarded =>
      obtain rfl := World.eq_light_of_isSolved_perform (unsolved running) solved
      exact .solves _ _ _

/-! ## One moment -/

/-- The number of ends of runs among some events. -/
def endCount (events : List GameEvent) : Nat := events.countP GameEvent.isEnd

/-- The announcement of an action tells of no end. -/
@[simp] theorem endCount_announce_append (action : Action) (animation : Animation)
    (further : List GameEvent) :
    endCount (announce action animation ++ further) = endCount further := by
  simp only [endCount, announce, List.countP_append]
  split <;> simp [GameEvent.isEnd]

namespace Moment

/-- The session after the step of a moment. -/
def after (moment : Moment) : Session := (moment.session.step moment.step).1

/-- The history from a moment on. -/
theorem moments_cons (session : Session) (step : Step) (rest : List Step) :
    session.moments (step :: rest) =
      ⟨session, step⟩ :: (⟨session, step⟩ : Moment).after.moments rest := rfl

/-- Nothing is told at a moment, except that time passes. -/
def Quiet (moment : Moment) : Prop := ∀ event ∈ moment.events, event = .tick

/-- The player gives up the run, if there is one: with the stop button, with the run button during a
run, or by loading another level. -/
def StopsRun (moment : Moment) : Prop :=
  match moment.step with
  | .tick input =>
      input.stop = true ∨ (input.run = true ∧ moment.session.engine.isRunning = true)
  | .load id level => ∃ next, moment.session.loadLevel id level = .ok next

/-- At a quiet moment nothing ends. -/
theorem Quiet.endCount_eq {moment : Moment} (quiet : moment.Quiet) :
    endCount moment.events = 0 := by
  rw [endCount, List.countP_eq_zero]
  intro event member
  rw [quiet event member]
  exact Bool.false_ne_true

end Moment

/-- Where the engine is idle once the input is taken up, the tick is quiet and the engine stays
idle. -/
theorem Moves.quiet {prepared : Session} {outcome : Session × List GameEvent}
    (moves : Moves prepared outcome) (idle : prepared.engine.isRunning = false) :
    outcome.2 = [.tick] ∧ outcome.1.engine.isRunning = false := by
  cases moves with
  | rests => exact ⟨rfl, by simpa using idle⟩
  | waits running => simp [idle] at running
  | finishes running => simp [idle] at running
  | starts running => simp [idle] at running
  | solves running => simp [idle] at running

/-- A tick tells of no end, or of one, and is then idle. -/
theorem Moves.endCount_eq {prepared : Session} {outcome : Session × List GameEvent}
    (moves : Moves prepared outcome) :
    endCount outcome.2 = 0 ∨
      (endCount outcome.2 = 1 ∧ outcome.1.engine.isRunning = false) := by
  cases moves with
  | rests => exact .inl rfl
  | waits => exact .inl rfl
  | finishes => exact .inr ⟨rfl, rfl⟩
  | starts => exact .inl (endCount_announce_append _ _ _)
  | solves => exact .inr ⟨endCount_announce_append _ _ _, by simp⟩

/-- A tick from an idle session is quiet unless it starts a run. -/
theorem isRunning_prepare_of_idle {session : Session} {input : TickInput}
    (idle : session.engine.isRunning = false) (notStarts : ¬ session.StartsRun input) :
    (session.prepare input).engine.isRunning = false := by
  rw [← Bool.not_eq_true]
  intro running
  have already := (prepare_of_not_startsRun notStarts running).1
  simp [idle] at already

/-- An input that stops the run in progress and starts none leaves an idle engine. -/
theorem isRunning_prepare_of_stops {session : Session} {input : TickInput}
    (stops : input.stop = true ∨ (input.run = true ∧ session.engine.isRunning = true))
    (notStarts : ¬ session.StartsRun input) :
    (session.prepare input).engine.isRunning = false := by
  have prepares := session.prepares input
  generalize session.prepare input = prepared at prepares
  cases prepares with
  | keeps noRun noStop => simp [noRun, noStop] at stops
  | begins starts => exact absurd starts notStarts
  | rests _ idle => exact idle

/-- A tick in which the engine is idle once the input is taken up is a quiet moment. -/
theorem quiet_tick {session : Session} {input : TickInput}
    (idle : (session.prepare input).engine.isRunning = false) :
    (⟨session, .tick input⟩ : Moment).Quiet ∧
      (⟨session, .tick input⟩ : Moment).after.engine.isRunning = false := by
  obtain ⟨told, stays⟩ := (session.tick_moves input).quiet idle
  refine ⟨?_, stays⟩
  intro event member
  rw [Moment.events, step, told] at member
  exact List.mem_singleton.1 member

/-- A load is a quiet moment. Behind it the engine is idle if it was so before, or if the level has
been loaded. -/
theorem quiet_load {session : Session} {id : String} {level : Level}
    (idle : session.engine.isRunning = false ∨ ∃ next, session.loadLevel id level = .ok next) :
    (⟨session, .load id level⟩ : Moment).Quiet ∧
      (⟨session, .load id level⟩ : Moment).after.engine.isRunning = false := by
  cases isLoaded : session.loadLevel id level with
  | error failure =>
      have stays : session.step (.load id level) = (session, []) := by simp only [step, isLoaded]
      simp only [Moment.Quiet, Moment.events, Moment.after, stays]
      refine ⟨?_, idle.resolve_right (by simp [isLoaded])⟩
      exact fun event member => absurd member List.not_mem_nil
  | ok next =>
      have swaps : session.step (.load id level) = (next, []) := by simp only [step, isLoaded]
      obtain ⟨world, _, rfl⟩ := of_loadLevel_eq_ok isLoaded
      simp only [Moment.Quiet, Moment.events, Moment.after, swaps]
      exact ⟨fun event member => absurd member List.not_mem_nil, rfl⟩

section Moments

variable {moment : Moment}

/-- An idle session is quiet at a moment at which no run starts, and it stays idle. -/
theorem Moment.quiet_of_idle (idle : moment.session.engine.isRunning = false)
    (notStarts : ¬ moment.StartsRun) :
    moment.Quiet ∧ moment.after.engine.isRunning = false := by
  obtain ⟨session, step⟩ := moment
  cases step with
  | tick input => exact quiet_tick (isRunning_prepare_of_idle idle notStarts)
  | load id level => exact quiet_load (.inl idle)

/-- A session is quiet at a moment at which a run is stopped and none starts, and idle behind it. -/
theorem Moment.quiet_of_stopsRun (stops : moment.StopsRun) (notStarts : ¬ moment.StartsRun) :
    moment.Quiet ∧ moment.after.engine.isRunning = false := by
  obtain ⟨session, step⟩ := moment
  cases step with
  | tick input => exact quiet_tick (isRunning_prepare_of_stops stops notStarts)
  | load id level => exact quiet_load (.inr stops)

/-- A moment tells of no end, or of one, and then the session is idle behind it. -/
theorem Moment.endCount_cases (moment : Moment) :
    endCount moment.events = 0 ∨
      (endCount moment.events = 1 ∧ moment.after.engine.isRunning = false) := by
  obtain ⟨session, step⟩ := moment
  cases step with
  | tick input => exact (session.tick_moves input).endCount_eq
  | load id level =>
      left
      rcases session.step_load id level with same | ⟨world, _, swapped⟩
      · simp [Moment.events, same, endCount]
      · simp [Moment.events, swapped, endCount]

end Moments

/-! ## Histories -/

/-- An idle session is quiet at all moments of a history in which no run starts. -/
theorem quiet_of_idle {session : Session} (idle : session.engine.isRunning = false)
    {steps : List Step} (noStart : ∀ moment ∈ session.moments steps, ¬ moment.StartsRun) :
    ∀ moment ∈ session.moments steps, moment.Quiet := by
  induction steps generalizing session with
  | nil =>
      intro moment member
      exact absurd member List.not_mem_nil
  | cons step rest inductionHypothesis =>
      rw [Moment.moments_cons, List.forall_mem_cons] at noStart ⊢
      obtain ⟨quiet, stays⟩ := Moment.quiet_of_idle idle noStart.1
      exact ⟨quiet, inductionHypothesis stays noStart.2⟩

/-- The number of ends of runs that are told of at some moments. -/
def endsTold (moments : List Moment) : Nat := endCount (moments.flatMap Moment.events)

@[simp] theorem endsTold_cons (moment : Moment) (rest : List Moment) :
    endsTold (moment :: rest) = endCount moment.events + endsTold rest := by
  simp [endsTold, endCount]

/-- At quiet moments nothing ends. -/
theorem endsTold_of_quiet {moments : List Moment} (quiet : ∀ moment ∈ moments, moment.Quiet) :
    endsTold moments = 0 := by
  induction moments with
  | nil => rfl
  | cons moment rest inductionHypothesis =>
      rw [List.forall_mem_cons] at quiet
      rw [endsTold_cons, quiet.1.endCount_eq, inductionHypothesis quiet.2]

/-- A history in which no run starts behind its first moment tells of at most one end. -/
theorem endsTold_le_one {moment : Moment} {rest : List Step}
    (noStart : ∀ later ∈ moment.after.moments rest, ¬ later.StartsRun) :
    endsTold (moment :: moment.after.moments rest) ≤ 1 := by
  induction rest generalizing moment with
  | nil =>
      rcases moment.endCount_cases with none | ⟨one, _⟩
      · simp [moments, endsTold, none]
      · simp [moments, endsTold, one]
  | cons next rest inductionHypothesis =>
      rw [endsTold_cons]
      rcases moment.endCount_cases with none | ⟨one, idle⟩
      · rw [Moment.moments_cons, List.forall_mem_cons] at noStart
        rw [none, Nat.zero_add, Moment.moments_cons]
        exact inductionHypothesis noStart.2
      · exact Nat.le_of_eq (by rw [one, endsTold_of_quiet (quiet_of_idle idle noStart)])

/-- Whatever is done in a session, as long as the game does not break off, each tick tells one of
the lists of `Tells`. It breaks off exactly in a tick that starts an action which overflows, or which
is the first one too many to be counted; on a moderate grid no action overflows. From any moment up
to the next one at which a run starts, at most one event tells that a run has ended, whether with a
solved level or at the end of the program. Behind a moment that tells of such an end nothing is told
until a run starts; and the same holds from a moment on at which a run is stopped. -/
theorem tells_of_play? {id : String} {level : Level} {session : Session}
    (begun : Session.new id level = .ok session) {past : List Step} {current : Session}
    {before : List Moment} (played : session.play? past = some (current, before)) :
    (∀ input after told, current.tick? input = some (after, told) → Tells told) ∧
      (∀ input, current.tick? input = none ↔
        ∃ action, (current.prepare input).engine.nextAction? = some action ∧
          ((current.prepare input).world.performOverflows action = true ∨
            (current.prepare input).engine.executed.toNat + 1 = UInt32.size)) ∧
      (current.world.initial.Moderate → ∀ input action,
        (current.prepare input).world.performOverflows action = false) ∧
      ∀ step during last moment following,
        current.play? (step :: during) = some (last, moment :: following) →
        (∀ later ∈ following, ¬ later.StartsRun) →
          endsTold (moment :: following) ≤ 1 ∧
          ((∃ event ∈ moment.events, event.isEnd = true) →
            ∀ later ∈ following, later.Quiet) ∧
          (moment.StopsRun → ¬ moment.StartsRun →
            ∀ later ∈ moment :: following, later.Quiet) := by
  obtain ⟨rfl, -⟩ := after_of_play? played
  have sound := (sound_new begun).after past
  have straightened := straightened_after (straightened_new begun) past
  refine ⟨?_, tick?_eq_none_iff straightened, sound.performOverflows_eq_false, ?_⟩
  · intro input after told ticked
    have tells := sound.tells input
    rwa [tick_of_tick? ticked] at tells
  · intro step during last moment following further noStart
    obtain ⟨-, split⟩ := after_of_play? further
    obtain ⟨rfl, rfl⟩ := List.cons.inj split
    refine ⟨endsTold_le_one noStart, ?_, ?_⟩
    · rintro ⟨event, told, isEnd⟩
      rcases Moment.endCount_cases ⟨session.after past, step⟩ with none | ⟨_, idle⟩
      · exact absurd isEnd (List.countP_eq_zero.1 none event told)
      · exact quiet_of_idle idle noStart
    · intro stops notStarts
      obtain ⟨quiet, idle⟩ := Moment.quiet_of_stopsRun stops notStarts
      exact List.forall_mem_cons.2 ⟨quiet, quiet_of_idle idle noStart⟩

/-- A run lights the only lamp of the first level. Behind its end a program is given and another
level is loaded, and nothing is told of either. -/
theorem tells_of_play?_firstSteps :
    ∃ session past current before after last moment following,
      Session.new "first-steps" LevelPack.firstSteps = .ok session ∧
        session.play? past = some (current, before) ∧
        current.tick? .nothing = some (after, [.instructionStarted .light (.still .light),
          .mapSolved 3 .gold, .tick]) ∧
        Tells [.instructionStarted .light (.still .light), .mapSolved 3 .gold, .tick] ∧
        current.play? [.tick .nothing, .tick { TickInput.nothing with program := some .empty },
          .load "corner" LevelPack.corner] = some (last, moment :: following) ∧
        following.length = 2 ∧ ∀ later ∈ following, later.Quiet := by
  obtain ⟨session, past, begun, plays, tells, silent⟩ :
      ∃ session past, Session.new "first-steps" LevelPack.firstSteps = .ok session ∧
        (session.play? past).isSome = true ∧
        ((session.after past).tick? .nothing).map Prod.snd =
          some [.instructionStarted .light (.still .light), .mapSolved 3 .gold, .tick] ∧
        ((session.after past).play? [.tick .nothing,
          .tick { TickInput.nothing with program := some .empty },
          .load "corner" LevelPack.corner]).isSome = true := by
    refine ⟨_, .tick { TickInput.nothing with
      program := some (.ofActions [.walk, .walk, .light]), run := true } ::
        List.replicate 29 (.tick .nothing), rfl, ?_⟩
    decide +kernel
  obtain ⟨⟨current, before⟩, played⟩ := Option.isSome_iff_exists.1 plays
  obtain ⟨rfl, -⟩ := after_of_play? played
  obtain ⟨⟨after, told⟩, ticked, rfl⟩ := Option.map_eq_some_iff.1 tells
  obtain ⟨⟨last, passed⟩, further⟩ := Option.isSome_iff_exists.1 silent
  obtain ⟨-, rfl⟩ := after_of_play? further
  obtain ⟨lists, -, -, protocol⟩ := tells_of_play? begun played
  obtain ⟨-, quiet, -⟩ := protocol _ _ _ _ _ further
    (by simp [moments, Moment.StartsRun, StartsRun, TickInput.nothing])
  refine ⟨session, past, _, before, after, last, _, _, begun, played, ticked,
    lists _ _ _ ticked, further, rfl, quiet ⟨.mapSolved 3 .gold, ?_, rfl⟩⟩
  rw [Moment.events, step, tick_of_tick? ticked]
  simp

/-- On the brink the first tick of a run of a single step breaks off, and tells none of the lists. -/
theorem tick?_startsRun_brink :
    ∃ session, Session.new "brink" World.brink = .ok session ∧
      session.play? [] = some (session, []) ∧
      session.tick? { TickInput.nothing with program := some (.ofActions [.walk]), run := true } =
        none :=
  ⟨_, rfl, rfl, by decide⟩

end Session

end Lamplighter
