import Lamplighter.Proofs.Engine.Overflow
import Lamplighter.Proofs.World.Climb

/-!
# Runs in a game that checks its arithmetic

A game that checks its arithmetic breaks off in the tick that overflows, and up to that tick it does
what any other game does. `Engine.Stage` is the invariant of such a run: it has broken off, it has
come to its end, or it still has actions ahead. It breaks off exactly when an action overflows that
it would take, and on a moderate grid none does.
-/

namespace Lamplighter

namespace World

/-! ## Actions that overflow -/

/-- Some action overflows among those taken until every lamp is lit. -/
def playOutOverflows (world : World) : List Action → Bool
  | [] => false
  | action :: rest =>
      world.performOverflows action ||
        (!(world.perform action).1.isSolved && (world.perform action).1.playOutOverflows rest)

/-- Actions that do not solve the level are all taken. -/
theorem playOutOverflows_of_staysUnsolved {world : World} {actions : List Action}
    (unsolved : world.StaysUnsolved actions) :
    world.playOutOverflows actions = world.performAllOverflows actions := by
  induction actions generalizing world with
  | nil => rfl
  | cons action rest inductionHypothesis =>
      obtain ⟨notFirst, notLater⟩ := unsolved.of_cons
      rw [playOutOverflows, notFirst, inductionHypothesis notLater]
      rfl

/-- No action is taken behind the one that solves the level. -/
theorem playOutOverflows_of_solved {world : World} {actions : List Action} {before : Nat}
    (within : before < actions.length)
    (lit : (world.performAll (actions.take (before + 1))).isSolved = true)
    (first : world.StaysUnsolved (actions.take before)) :
    world.playOutOverflows actions = world.performAllOverflows (actions.take (before + 1)) := by
  induction actions generalizing world before with
  | nil => simp at within
  | cons action rest inductionHypothesis =>
      cases before with
      | zero =>
          have atOnce : (world.perform action).1.isSolved = true := by simpa [performAll] using lit
          simp [playOutOverflows, performAllOverflows, atOnce]
      | succ before =>
          rw [List.take_succ_cons] at first
          obtain ⟨notFirst, notLater⟩ := first.of_cons
          rw [playOutOverflows, notFirst, List.take_succ_cons, performAllOverflows,
            inductionHypothesis (Nat.lt_of_succ_lt_succ within) lit notLater]
          rfl

/-- The actions that are taken are those up to the end. -/
theorem EndsAfter.playOutOverflows_eq {world : World} {actions : List Action} {count : Nat}
    {ending : EngineEvent} (endsAfter : world.EndsAfter actions count ending) :
    world.playOutOverflows actions = world.performAllOverflows (actions.take count) := by
  obtain ⟨before, executed, rfl, rfl, within, lit, first⟩ | ⟨executed, rfl, rfl, never⟩ :=
    endsAfter.solved_or_finished
  · exact playOutOverflows_of_solved within lit first
  · rw [List.take_length]
    exact playOutOverflows_of_staysUnsolved never

end World

namespace Engine

/-! ## Calls -/

/-- The engine and the world after a call, with what the call tells, unless the game breaks off. -/
def serve? (engine : Engine) (world : World) :
    Call → Option (Engine × World × List EngineEvent)
  | .tick => engine.tick? world
  | call => some (engine.serve world call)

/-- Make calls one after the other for as long as the engine runs, and collect what they tell, unless
the game breaks off. -/
def serveAll? (engine : Engine) (world : World) :
    List Call → Option (Engine × World × List EngineEvent)
  | [] => some (engine, world, [])
  | call :: rest =>
      if engine.isRunning then do
        let (next, after, events) ← engine.serve? world call
        let (last, final, further) ← next.serveAll? after rest
        return (last, final, events ++ further)
      else
        some (engine, world, [])

/-- A tick that does not break off is a tick. -/
theorem tick?_eq_some_iff {engine : Engine} {world : World}
    {outcome : Engine × World × List EngineEvent} :
    engine.tick? world = some outcome ↔
      engine.tickOverflows world = false ∧ engine.tick world = outcome := by
  rw [tick?]
  cases engine.tickOverflows world <;> simp

/-- A call that does not break off is a call. -/
theorem serve_of_serve? {engine : Engine} {world : World} {call : Call}
    {outcome : Engine × World × List EngineEvent}
    (served : engine.serve? world call = some outcome) : engine.serve world call = outcome := by
  cases call with
  | tick => exact (tick?_eq_some_iff.1 served).2
  | setSpeed _ => exact Option.some.inj served
  | cycleSpeed => exact Option.some.inj served
  | queue _ => exact Option.some.inj served
  | execute => exact Option.some.inj served

/-- Where no call breaks off, the checked game is the other one. -/
theorem serveAll_of_serveAll? {engine : Engine} {world : World} {calls : List Call}
    {outcome : Engine × World × List EngineEvent}
    (served : engine.serveAll? world calls = some outcome) :
    engine.serveAll world calls = outcome := by
  induction calls generalizing engine world outcome with
  | nil => exact Option.some.inj served
  | cons call rest inductionHypothesis =>
      cases running : engine.isRunning with
      | false => simpa [serveAll?, serveAll, running] using served
      | true =>
          simp only [serveAll?, running, if_true, Option.bind_eq_bind, Option.bind_eq_some_iff]
            at served
          obtain ⟨⟨next, after, events⟩, first, ⟨last, final, further⟩, others, same⟩ := served
          simp only [serveAll, running, if_true, serve_of_serve? first, inductionHypothesis others]
          exact Option.some.inj same

/-! ## The invariant of a checked run -/

/-- What has become of a run in a checked game. One of the actions overflows that it takes, or none
does, as `overflows` says. -/
inductive Stage (program : Program) (overflows : Bool) :
    Option (Engine × World × List EngineEvent) → Prop where
  /-- It has broken off, which it does only if an action overflows. -/
  | brokenOff (does : overflows = true) : Stage program overflows none
  /-- It has come to its end, which it does only if no action overflows. -/
  | ended {engine : Engine} {world : World} {events : List EngineEvent}
      (idle : engine.isRunning = false) (doesNot : overflows = false) :
      Stage program overflows (some (engine, world, events))
  /-- It has actions ahead and can count them. None has overflowed so far. -/
  | goesOn {engine : Engine} {world : World} {events : List EngineEvent} {ahead : List Action}
      (underway : engine.Underway program ahead)
      (countable : engine.executed.toNat + ahead.length < UInt32.size)
      (same : world.playOutOverflows ahead = overflows) :
      Stage program overflows (some (engine, world, events))

/-- At the start of a run everything is ahead. -/
theorem stage_begun (engine : Engine) (world : World) {program : Program}
    (countable : program.actions.length < UInt32.size) (events : List EngineEvent) :
    Stage program (world.playOutOverflows program.actions)
      (some (engine.begun program, world, events)) := by
  have sameCount : (engine.begun program).executed = 0 := rfl
  exact .goesOn (underway_begun engine program) (by simpa [sameCount] using countable) rfl

section Stage

variable {program : Program} {overflows : Bool} {engine : Engine} {world : World}
  {events : List EngineEvent} (stage : Stage program overflows (some (engine, world, events)))
include stage

/-- What has been told does not matter for what is ahead. -/
theorem Stage.told (others : List EngineEvent) :
    Stage program overflows (some (engine, world, others)) := by
  cases stage with
  | ended idle doesNot => exact .ended idle doesNot
  | goesOn underway countable same => exact .goesOn underway countable same

/-- A choice of speed leaves a run where it is. -/
theorem Stage.setSpeed (speed : Speed) (others : List EngineEvent) :
    Stage program overflows (some (engine.setSpeed speed, world, others)) := by
  cases stage with
  | ended idle doesNot => exact .ended idle doesNot
  | goesOn underway countable same =>
      exact .goesOn ⟨underway.running, underway.runs, underway.stands⟩ countable same

/-- A tick breaks off where the action that it starts overflows. Otherwise this action is counted, or
the run ends. -/
theorem Stage.tick? : Stage program overflows (engine.tick? world) := by
  cases stage with
  | ended idle doesNot =>
      have calm : engine.tickOverflows world = false := by simp [tickOverflows, nextAction?, idle]
      have rests := engine.tick_ticks world
      rw [Engine.tick?, calm]
      generalize engine.tick world = outcome at rests
      cases rests with
      | rests _ => exact .ended (by simpa using idle) doesNot
      | waits running _ => simp [idle] at running
      | finishes running _ _ => simp [idle] at running
      | starts running _ _ _ _ _ => simp [idle] at running
      | solves running _ _ _ _ _ => simp [idle] at running
  | @goesOn _ _ _ ahead underway countable same =>
      -- The actions ahead can be counted, so that only performing the next one can overflow.
      have overflows_eq := Countable.tickOverflows_eq
        (fun _ => ⟨program, ahead, underway, countable⟩) world
      have ticks := engine.tick_ticks world
      rw [Engine.tick?, overflows_eq]
      generalize engine.tick world = outcome at ticks
      cases ticks with
      | rests idle => simp [underway.running] at idle
      | waits _ unready =>
          rw [nextAction?, unready, Bool.and_false]
          exact .goesOn (underway.play unready).1 (by simpa using countable) same
      | finishes _ _ nothing =>
          obtain rfl := underway.ahead_eq_nil nothing
          have none : engine.nextAction? = none :=
            Option.toList_eq_nil_iff.1 (List.length_eq_zero_iff.1
              (Nat.le_zero.1 underway.length_nextAction?_le))
          rw [none]
          exact .ended rfl same.symm
      | starts running ready runs isCursor taken unsolved =>
          obtain ⟨rest, rfl, further, -⟩ := underway.start runs isCursor taken world
          rw [nextAction?_eq running ready runs isCursor taken, Option.any_some]
          rw [World.playOutOverflows, unsolved, Bool.not_false, Bool.true_and] at same
          cases does : world.performOverflows _ with
          | true => exact .brokenOff (by simpa [does] using same.symm)
          | false => exact .goesOn further (executed_start countable _ _) (by simpa [does] using same)
      | solves running ready runs isCursor taken solved =>
          obtain ⟨rest, rfl, -⟩ := underway.taken runs isCursor taken
          rw [nextAction?_eq running ready runs isCursor taken, Option.any_some]
          rw [World.playOutOverflows, solved, Bool.not_true, Bool.false_and, Bool.or_false] at same
          cases does : world.performOverflows _ with
          | true => exact .brokenOff (by rw [← same, does])
          | false => exact .ended (by simp) (by rw [← same, does])

/-- No call but a tick takes an action. -/
theorem Stage.serve? (running : engine.isRunning = true) (call : Call) :
    Stage program overflows (engine.serve? world call) := by
  cases call with
  | tick => exact stage.tick?
  | setSpeed speed => exact stage.setSpeed speed []
  | cycleSpeed => exact stage.setSpeed engine.speed.next []
  | queue other =>
      change Stage program overflows (some (engine.queue other, world, []))
      rw [queue_of_isRunning running]
      exact stage.told []
  | execute =>
      change Stage program overflows (some (engine.execute, world, []))
      rw [execute_of_isRunning running]
      exact stage.told []

end Stage

/-- Whatever calls are made during a run, it is at one of its stages. -/
theorem Stage.serveAll? {program : Program} {overflows : Bool} {engine : Engine} {world : World}
    {events : List EngineEvent} (stage : Stage program overflows (some (engine, world, events)))
    (calls : List Call) : Stage program overflows (engine.serveAll? world calls) := by
  induction calls generalizing engine world events with
  | nil => exact stage.told []
  | cons call rest inductionHypothesis =>
      cases running : engine.isRunning with
      | false =>
          simp only [Engine.serveAll?, running, Bool.false_eq_true, if_false]
          exact stage.told []
      | true =>
          have served := stage.serve? running call
          simp only [Engine.serveAll?, running, if_true, Option.bind_eq_bind]
          generalize engine.serve? world call = outcome at served ⊢
          cases outcome with
          | none => exact served
          | some outcome =>
              obtain ⟨next, after, first⟩ := outcome
              have further := inductionHypothesis served
              simp only [Option.bind_some]
              generalize next.serveAll? after rest = outcome at further ⊢
              cases outcome with
              | none => exact further
              | some outcome => exact further.told _

/-! ## The refinement -/

/-- A run of an engine is determined by the world in which it starts and by the actions of its
program. Taken one after the other until every lamp is lit or none is left, these tell some events.
However calls are made during the run, and at whatever speed, it has told the first of these events
as long as it has not broken off, and it ends within a bounded number of ticks. At its end it has
told all of them and their number, and has left the world that the actions leave. The run breaks off
exactly if one of the actions taken overflows, and on a moderate grid none does. -/
theorem serveAll?_execute (world : World) (program : Program)
    (countable : program.actions.length < UInt32.size) :
    ∃ count ending, world.EndsAfter program.actions count ending ∧
      let taken := program.actions.take count
      (∀ level loaded commands, World.load level = .ok loaded → loaded.grid.Moderate →
        world = loaded.obeyAll commands → world.performAllOverflows taken = false) ∧
      ∀ engine : Engine, engine.isRunning = false → ∀ calls : List Call,
        let outcome? := ((engine.queue program).execute).serveAll? world calls
        (∀ last final events, outcome? = some (last, final, events) →
          events <+: world.startAll taken ++ [ending] ∧
            (program.tickBound ≤ calls.count .tick → last.isRunning = false) ∧
            (last.isRunning = false →
              final = world.performAll taken ∧ events = world.startAll taken ++ [ending])) ∧
        (world.performAllOverflows taken = false → outcome?.isSome = true) ∧
        (world.performAllOverflows taken = true → program.tickBound ≤ calls.count .tick →
          outcome? = none) := by
  obtain ⟨count, ending, endsAfter, played⟩ := world.playOut_endsAfter countable
  refine ⟨count, ending, endsAfter, ?_, fun engine idle calls => ?_⟩
  · rintro level loaded commands isLoaded moderate rfl
    have isFresh := World.fresh_of_load isLoaded
    exact (isFresh.playedFrom.obeyAll isFresh commands).performAllOverflows_eq_false isFresh
      moderate _
  · rw [execute_queue idle]
    -- Whether the run breaks off is told by its stage, all else by the game that does not check.
    obtain ⟨tells, stops, leaves⟩ := serveAll_begun engine world program calls
    have stage := (stage_begun engine world countable []).serveAll? calls
    rw [endsAfter.playOutOverflows_eq] at stage
    rw [played] at tells leaves
    generalize served : (engine.begun program).serveAll? world calls = outcome at stage
    refine ⟨fun last final events same => ?_, fun calm => ?_, fun overflows enough => ?_⟩
    · rw [serveAll_of_serveAll? (served.trans same)] at tells stops leaves
      exact ⟨tells, stops, fun idleLast => (Prod.mk.inj (leaves idleLast)).imp Eq.symm Eq.symm⟩
    · cases stage with
      | brokenOff overflows => simp [calm] at overflows
      | ended _ _ => rfl
      | goesOn _ _ _ => rfl
    · cases stage with
      | brokenOff _ => rfl
      | ended _ calm => simp [overflows] at calm
      | goesOn underway _ _ =>
          have idleLast := stops enough
          rw [serveAll_of_serveAll? served, underway.running] at idleLast
          exact absurd idleLast.symm Bool.false_ne_true

/-- The first level is moderate, and three actions light its only lamp. -/
theorem endsAfter_firstSteps {world : World}
    (isLoaded : World.load LevelPack.firstSteps = .ok world) :
    world.grid.Moderate ∧
      world.EndsAfter (Program.ofActions [.walk, .walk, .light]).actions 3 (.solved 3) := by
  obtain rfl := Except.ok.inj isLoaded
  refine ⟨⟨by decide, by decide, by decide⟩, .solved (by decide) (by decide) rfl ?_ rfl⟩
  rintro fewer some few
  match fewer, some, few with
  | 1, _, _ => rfl
  | 2, _, _ => rfl

/-- On the first level no action overflows, so a run comes to its end although speed, program and
start buttons are pressed on the way. -/
theorem serveAll?_execute_firstSteps :
    ∃ world, World.load LevelPack.firstSteps = .ok world ∧ world.grid.Moderate ∧
      let program := Program.ofActions [.walk, .walk, .light]
      program.actions.length < UInt32.size ∧ Engine.new.isRunning = false ∧
        ∃ last, ((Engine.new.queue program).execute).serveAll? world
            ([.tick, .setSpeed .triple, .queue .empty, .execute] ++ List.replicate 60 .tick) =
          some (last, world.performAll program.actions,
            world.startAll program.actions ++ [.solved 3]) := by
  have isLoaded : World.load LevelPack.firstSteps = .ok _ := rfl
  obtain ⟨isModerate, endsHere⟩ := endsAfter_firstSteps isLoaded
  refine ⟨_, isLoaded, isModerate, by decide, rfl, ?_⟩
  obtain ⟨count, ending, endsAfter, moderate, runs⟩ := serveAll?_execute _
    (Program.ofActions [.walk, .walk, .light]) (by decide)
  obtain ⟨rfl, rfl⟩ := endsAfter.unique endsHere
  have calm := moderate _ _ [] isLoaded isModerate rfl
  obtain ⟨leaves, served, -⟩ := runs Engine.new rfl
    ([.tick, .setSpeed .triple, .queue .empty, .execute] ++ List.replicate 60 .tick)
  obtain ⟨⟨last, final, events⟩, isServed⟩ := Option.isSome_iff_exists.1 (served calm)
  obtain ⟨-, stops, told⟩ := leaves _ _ _ isServed
  obtain ⟨rfl, rfl⟩ := told (stops (by decide))
  exact ⟨last, isServed⟩

/-- On the brink, a run of a single step would tell of its start and then of its end. It breaks off
in its first tick, at any speed. -/
theorem serveAll?_brink :
    ∃ world, World.load World.brink = .ok world ∧
      let program := Program.ofActions [.walk]
      program.actions.length < UInt32.size ∧ Engine.new.isRunning = false ∧
        world.EndsAfter program.actions 1 (.finished 1) ∧
        ∀ speed, ((Engine.new.queue program).execute).serveAll? world [.setSpeed speed, .tick] =
          none := by
  refine ⟨_, rfl, by decide, rfl, .finished ?_ rfl, ?_⟩
  · exact World.staysUnsolved_of_no_light (by decide) rfl
  · intro speed
    cases speed <;> decide

end Engine

end Lamplighter
