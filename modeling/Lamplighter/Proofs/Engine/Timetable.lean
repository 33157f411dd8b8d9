import Lamplighter.Proofs.Engine.Checked
import Lamplighter.Proofs.Engine.Clock
import Lamplighter.Proofs.Engine.Schedule

/-!
# The timetable of a run

A run is left to the clock, with a speed for each tick. `Playback.Waits` is the gate: between the
tick in which an action starts and the first one before which its animation has been played out,
nothing happens, and then the run goes on at once. From this the whole timetable follows
(`Playback.Lasts`): the run is over after the animations that are waited for, one after the other,
and a constant speed divides each of their durations.
-/

namespace Lamplighter

/-! ## Lists that are empty up to some place -/

/-- Lists of which all but the first are empty up to some place are, together, the first one and
those from this place on. -/
theorem flatMap_range_of_nil {α : Type} {lists : Nat → List α} {first : Nat} (some : 0 < first)
    (empty : ∀ place, 0 < place → place < first → lists place = []) (further : Nat) :
    (List.range (first + further)).flatMap lists =
      lists 0 ++ (List.range further).flatMap fun place => lists (first + place) := by
  obtain ⟨before, rfl⟩ := Nat.exists_eq_add_of_lt some
  have noMore : (List.range before).flatMap (fun place => lists (place + 1)) = [] :=
    List.flatMap_eq_nil_iff.2 fun place within =>
      empty (place + 1) (Nat.succ_pos place) (by simpa using within)
  rw [Nat.zero_add, List.range_add, List.flatMap_append, List.range_succ_eq_map, List.flatMap_cons,
    List.flatMap_map, noMore, List.append_nil, List.flatMap_map]

/-! ## Durations -/

namespace World

/-- Every action takes time to be shown. -/
theorem lasts_perform (world : World) (action : Action) :
    0 < (world.perform action).2.duration.toNat := by
  rw [duration_of_perform]
  exact (Movement.duration_bounds _).1

/-- The durations of the animations of some actions, one after the other. -/
def durations (world : World) : List Action → List Nat
  | [] => []
  | action :: rest =>
      (world.perform action).2.duration.toNat :: (world.perform action).1.durations rest

/-- The durations that are waited for until every lamp is lit or no action is left. -/
def waits (world : World) : List Action → List Nat
  | [] => []
  | action :: rest =>
      if (world.perform action).1.isSolved then []
      else (world.perform action).2.duration.toNat :: (world.perform action).1.waits rest

/-- Actions that do not solve the level are all waited for. -/
theorem waits_of_staysUnsolved {world : World} {actions : List Action}
    (unsolved : world.StaysUnsolved actions) : world.waits actions = world.durations actions := by
  induction actions generalizing world with
  | nil => rfl
  | cons action rest inductionHypothesis =>
      obtain ⟨notFirst, notLater⟩ := unsolved.of_cons
      rw [waits, notFirst, inductionHypothesis notLater]
      rfl

/-- The action that solves the level is not waited for, and those before it are. -/
theorem waits_of_solved {world : World} {actions : List Action} {before : Nat}
    (within : before < actions.length)
    (lit : (world.performAll (actions.take (before + 1))).isSolved = true)
    (first : world.StaysUnsolved (actions.take before)) :
    world.waits actions = world.durations (actions.take before) := by
  induction actions generalizing world before with
  | nil => simp at within
  | cons action rest inductionHypothesis =>
      cases before with
      | zero =>
          have atOnce : (world.perform action).1.isSolved = true := by simpa [performAll] using lit
          simp [waits, durations, atOnce]
      | succ before =>
          rw [List.take_succ_cons] at first
          obtain ⟨notFirst, notLater⟩ := first.of_cons
          rw [waits, notFirst, List.take_succ_cons, durations,
            inductionHypothesis (Nat.lt_of_succ_lt_succ within) lit notLater]
          rfl

end World

/-- How many of the animations of some actions are waited for, by the event with which they end. -/
def EngineEvent.awaited (count : Nat) : EngineEvent → Nat
  | .solved _ => count - 1
  | _ => count

/-- These are all animations but that of an action that solves the level. -/
theorem World.EndsAfter.waits_eq {world : World} {actions : List Action} {count : Nat}
    {ending : EngineEvent} (endsAfter : world.EndsAfter actions count ending) :
    world.waits actions = world.durations (actions.take (ending.awaited count)) := by
  obtain ⟨before, executed, rfl, rfl, within, lit, first⟩ | ⟨executed, rfl, rfl, never⟩ :=
    endsAfter.solved_or_finished
  · exact waits_of_solved within lit first
  · change world.waits actions = world.durations (actions.take actions.length)
    rw [List.take_length]
    exact waits_of_staysUnsolved never

/-! ## Ticks in which the next action is due -/

namespace Engine

/-- With no action ahead, the run ends. -/
theorem Underway.tick_nil {engine : Engine} {program : Program}
    (underway : engine.Underway program []) (ready : engine.isReady = true) (world : World) :
    engine.tick world = (engine.ended, world, [.finished engine.executed]) := by
  have ticks := engine.tick_ticks world
  generalize engine.tick world = outcome at ticks
  cases ticks with
  | rests idle => simp [underway.running] at idle
  | waits _ unready => simp [ready] at unready
  | finishes _ _ _ => rfl
  | starts _ _ runs isCursor taken _ => cases (underway.taken runs isCursor taken).choose_spec.1
  | solves _ _ runs isCursor taken _ => cases (underway.taken runs isCursor taken).choose_spec.1

/-- The first of the actions ahead starts. If it does not solve the level, the others are still
ahead. -/
theorem Underway.tick_cons {engine : Engine} {program : Program} {action : Action}
    {rest : List Action} (underway : engine.Underway program (action :: rest))
    (ready : engine.isReady = true) (world : World) :
    ∃ cursor, (engine.started cursor (world.perform action).2).Underway program rest ∧
      engine.tick world =
        if (world.perform action).1.isSolved then
          ((engine.started cursor (world.perform action).2).ended.play, (world.perform action).1,
            [.started action (world.perform action).2, .solved (engine.executed + 1)])
        else
          ((engine.started cursor (world.perform action).2).play, (world.perform action).1,
            [.started action (world.perform action).2]) := by
  obtain ⟨cursor, isCursor, stands⟩ := underway.stands
  obtain ⟨next, taken, standsNext⟩ := stands.advance_cons
  refine ⟨next, ⟨underway.running, underway.runs, next, rfl, standsNext⟩, ?_⟩
  simp only [Engine.tick, underway.running, ready, Bool.and_true, if_true,
    proceed_of_action world underway.runs isCursor taken]
  split <;> rfl

end Engine

/-! ## Runs that are left to the clock -/

/-- An engine and a world, with a speed for each tick to come. -/
structure Playback where
  engine : Engine
  world : World
  speeds : Schedule

namespace Playback

/-- The engine with the speed of the next tick. -/
def current (playback : Playback) : Engine := playback.engine.setSpeed (playback.speeds 0)

/-- What the next tick tells. -/
def told (playback : Playback) : List EngineEvent :=
  (playback.current.tick playback.world).2.2

/-- What the next tick leaves. -/
def next (playback : Playback) : Playback where
  engine := (playback.current.tick playback.world).1
  world := (playback.current.tick playback.world).2.1
  speeds := playback.speeds.later 1

/-- What some ticks leave. -/
def after (playback : Playback) (ticks : Nat) : Playback := next^[ticks] playback

/-- What the next tick leaves in a game that checks its arithmetic, unless it breaks off. -/
def next? (playback : Playback) : Option Playback :=
  (playback.current.tick? playback.world).map fun (engine, world, _) =>
    ⟨engine, world, playback.speeds.later 1⟩

/-- What some ticks leave in a game that checks its arithmetic, unless one of them breaks off. -/
def after? (playback : Playback) : (ticks : Nat) → Option Playback
  | 0 => some playback
  | ticks + 1 => (playback.after? ticks).bind next?

/-- The next tick overflows. -/
def overflows (playback : Playback) : Bool := playback.current.tickOverflows playback.world

section After

variable (playback : Playback)

@[simp] theorem after_zero : playback.after 0 = playback := rfl

/-- The last tick comes after the others. -/
theorem after_succ (ticks : Nat) : playback.after (ticks + 1) = (playback.after ticks).next :=
  Function.iterate_succ_apply' next ticks playback

/-- Further ticks come after the first ones. -/
theorem after_add (ticks further : Nat) :
    playback.after (ticks + further) = (playback.after ticks).after further := by
  rw [after, Nat.add_comm, Function.iterate_add_apply]
  rfl

@[simp] theorem speeds_after (ticks : Nat) :
    (playback.after ticks).speeds = playback.speeds.later ticks := by
  induction ticks with
  | zero => simp
  | succ ticks inductionHypothesis =>
      rw [after_succ, next, inductionHypothesis, Schedule.later_later]

/-- A tick breaks off if it overflows. -/
theorem next?_eq : playback.next? = if playback.overflows then none else some playback.next := by
  rw [next?, Engine.tick?, overflows]
  split <;> rfl

/-- Where no tick overflows, the checked game is the other one; where one does, it breaks off. -/
theorem after?_eq_some_iff {ticks : Nat} {reached : Playback} :
    playback.after? ticks = some reached ↔
      playback.after ticks = reached ∧ ∀ tick < ticks, (playback.after tick).overflows = false := by
  induction ticks generalizing reached with
  | zero => simp [after?]
  | succ ticks inductionHypothesis =>
      rw [after?, Option.bind_eq_some_iff, Nat.forall_lt_succ_right, after_succ]
      constructor
      · rintro ⟨before, reachedBefore, next⟩
        obtain ⟨rfl, calm⟩ := inductionHypothesis.1 reachedBefore
        rw [next?_eq] at next
        cases does : (playback.after ticks).overflows with
        | true => simp [does] at next
        | false => exact ⟨by simpa [does] using next, calm, rfl⟩
      · rintro ⟨rfl, calm, last⟩
        refine ⟨playback.after ticks, inductionHypothesis.2 ⟨rfl, calm⟩, ?_⟩
        rw [next?_eq, last]
        rfl

/-- What a checked game comes to is what the other one comes to. -/
theorem after_of_after? {ticks : Nat} {reached : Playback}
    (isReached : playback.after? ticks = some reached) : playback.after ticks = reached :=
  (playback.after?_eq_some_iff.1 isReached).1

/-- The outcome of a tick says what it tells and leaves. -/
theorem of_tick_eq {playback : Playback} {engine : Engine} {world : World}
    {events : List EngineEvent}
    (outcome : playback.current.tick playback.world = (engine, world, events)) :
    playback.told = events ∧ playback.next = ⟨engine, world, playback.speeds.later 1⟩ := by
  simp only [told, next, outcome, and_self]

/-- An engine that does not run tells nothing, and never runs again by itself. -/
theorem after_of_idle {playback : Playback} (idle : playback.engine.isRunning = false)
    (ticks : Nat) :
    (playback.after ticks).engine.isRunning = false ∧ (playback.after ticks).told = [] := by
  have silent : ∀ playback : Playback, playback.engine.isRunning = false →
      playback.told = [] ∧ playback.next.engine.isRunning = false := by
    intro playback idle
    have still : playback.current.isRunning = false := idle
    have outcome : playback.current.tick playback.world =
        (playback.current.play, playback.world, []) := by
      simp only [Engine.tick, still, Bool.false_and, Bool.false_eq_true, if_false]
    obtain ⟨told, next⟩ := of_tick_eq outcome
    rw [told, next]
    exact ⟨rfl, by rw [Engine.play_isRunning, still]⟩
  have stays : (playback.after ticks).engine.isRunning = false := by
    induction ticks with
    | zero => exact idle
    | succ ticks inductionHypothesis =>
        rw [after_succ]
        exact (silent _ inductionHypothesis).2
  exact ⟨stays, (silent _ stays).1⟩

end After

/-! ## The gate -/

/-- The next tick begins to show an animation: the engine has just started it, and then plays it. -/
structure Begins (playback : Playback) (engine : Engine) (animation : Animation) : Prop where
  plays : playback.next.engine = engine.play
  shown : engine.animation = some animation
  fresh : engine.elapsed = 0
  paced : engine.speed = playback.speeds 0
  lasts : 0 < animation.duration.toNat

/-- An action that starts begins its animation, and the engine runs on if it does not solve the
level. -/
theorem begins_of_started {playback : Playback} {action : Action} {animation : Animation}
    (started : .started action animation ∈ playback.told) :
    ∃ engine, playback.Begins engine animation ∧
      (engine.isRunning = true ∨ ∃ executed, .solved executed ∈ playback.told) := by
  have ticks := playback.current.tick_ticks playback.world
  generalize outcome : playback.current.tick playback.world = reached at ticks
  cases ticks with
  | rests _ => simp [(of_tick_eq outcome).1] at started
  | waits _ _ => simp [(of_tick_eq outcome).1] at started
  | finishes _ _ _ => simp [(of_tick_eq outcome).1] at started
  | starts running _ _ _ _ _ =>
      obtain ⟨told, next⟩ := of_tick_eq outcome
      simp only [told, List.mem_singleton, EngineEvent.started.injEq] at started
      obtain ⟨rfl, rfl⟩ := started
      exact ⟨_, ⟨congrArg engine next, rfl, rfl, rfl, World.lasts_perform _ _⟩, .inl running⟩
  | solves _ _ _ _ _ _ =>
      obtain ⟨told, next⟩ := of_tick_eq outcome
      simp only [told, List.mem_cons, EngineEvent.started.injEq, reduceCtorEq, List.not_mem_nil,
        or_false] at started
      obtain ⟨rfl, rfl⟩ := started
      refine ⟨_, ⟨congrArg engine next, rfl, rfl, rfl, World.lasts_perform _ _⟩, .inr ?_⟩
      rw [told]
      exact ⟨_, List.mem_cons_of_mem _ (List.mem_singleton_self _)⟩

section Begins

variable {playback : Playback} {engine : Engine} {animation : Animation}
  (begins : playback.Begins engine animation)
include begins

/-- Until the animation is over, nothing but its clock moves. -/
theorem Begins.after_eq {ticks : Nat} (some : 0 < ticks)
    (within : ticks ≤ playback.speeds.ticksFor animation.duration.toNat) :
    (playback.after ticks).world = playback.next.world ∧
      ∃ speed, (playback.after ticks).engine =
        { engine with elapsed := playback.speeds.played 0 ticks, speed } := by
  induction ticks, some using Nat.le_induction with
  | base =>
      have unready : engine.isReady = false := by
        rw [Engine.isReady_eq_false_iff begins.shown, begins.fresh]
        exact begins.lasts
      refine ⟨by rw [after_succ, after_zero], engine.speed, ?_⟩
      rw [after_succ, after_zero, begins.plays, Engine.play_of_unready unready, begins.fresh,
        begins.paced, Schedule.played_succ _ (Nat.le_refl 0), Schedule.played_self]
  | succ ticks some inductionHypothesis =>
      obtain ⟨sameWorld, speed, same⟩ := inductionHypothesis (by omega)
      have shown : (playback.after ticks).current.animation = Option.some animation := by
        rw [current, same]
        exact begins.shown
      have unready : (playback.after ticks).current.isReady = false := by
        rw [Engine.isReady_eq_false_iff shown, current, same]
        exact playback.speeds.played_lt_of_lt_ticksFor within
      obtain ⟨-, outcome⟩ := of_tick_eq (Engine.tick_of_unready unready _)
      rw [after_succ, outcome, sameWorld, Schedule.played_succ _ (Nat.zero_le _)]
      refine ⟨rfl, playback.speeds ticks, ?_⟩
      simp only [current, same, speeds_after, Engine.setSpeed]
      rfl

/-- Until then, the engine runs if it ran when it had started the action. -/
theorem Begins.isRunning_eq {ticks : Nat} (some : 0 < ticks)
    (within : ticks ≤ playback.speeds.ticksFor animation.duration.toNat) :
    (playback.after ticks).engine.isRunning = engine.isRunning := by
  obtain ⟨-, speed, same⟩ := begins.after_eq some within
  rw [same]
  rfl

/-- The animation is over when it has been played for its duration. -/
theorem Begins.isReady_iff {ticks : Nat} (some : 0 < ticks)
    (within : ticks ≤ playback.speeds.ticksFor animation.duration.toNat) :
    (playback.after ticks).current.isReady = true ↔
      ticks = playback.speeds.ticksFor animation.duration.toNat := by
  obtain ⟨-, speed, same⟩ := begins.after_eq some within
  have shown : (playback.after ticks).current.animation = Option.some animation := by
    rw [current, same]
    exact begins.shown
  rw [Engine.isReady_iff shown, current, same]
  change animation.duration.toNat ≤ playback.speeds.played 0 ticks ↔ _
  constructor
  · intro enough
    refine Nat.le_antisymm within (Nat.le_of_not_lt fun early => ?_)
    exact Nat.not_lt.2 enough (playback.speeds.played_lt_of_lt_ticksFor early)
  · rintro rfl
    exact playback.speeds.le_played_ticksFor _

/-- Before, nothing is told, and no tick overflows. -/
theorem Begins.told_eq_nil {ticks : Nat} (some : 0 < ticks)
    (early : ticks < playback.speeds.ticksFor animation.duration.toNat) :
    (playback.after ticks).told = [] ∧ (playback.after ticks).overflows = false := by
  have unready : (playback.after ticks).current.isReady = false := by
    rw [← Bool.not_eq_true, begins.isReady_iff some (Nat.le_of_lt early)]
    exact Nat.ne_of_lt early
  refine ⟨(of_tick_eq (Engine.tick_of_unready unready _)).1, ?_⟩
  simp [overflows, Engine.tickOverflows, Engine.nextAction?, unready]

end Begins

/-- When an engine that runs is ready, the next action starts, or the run ends without one. -/
theorem told_of_isReady {playback : Playback} (running : playback.engine.isRunning = true)
    (ready : playback.current.isReady = true) :
    (∃ action animation, .started action animation ∈ playback.told) ∨
      ∃ executed, playback.told = [.finished executed] := by
  have runs : playback.current.isRunning = true := running
  have ticks := playback.current.tick_ticks playback.world
  generalize outcome : playback.current.tick playback.world = reached at ticks
  cases ticks with
  | rests idle => simp [runs] at idle
  | waits _ unready => simp [ready] at unready
  | finishes _ _ _ => exact .inr ⟨_, (of_tick_eq outcome).1⟩
  | starts _ _ _ _ _ _ =>
      rw [(of_tick_eq outcome).1]
      exact .inl ⟨_, _, List.mem_cons_self⟩
  | solves _ _ _ _ _ _ =>
      rw [(of_tick_eq outcome).1]
      exact .inl ⟨_, _, List.mem_cons_self⟩

/-- Behind the tick that starts an action, nothing happens before the first tick in front of which
the animation has been played for its duration, and no tick overflows. That one goes on with the
run, unless the action has solved the level, or the next one overflows. -/
structure Waits (playback : Playback) (start : Nat) (animation : Animation) (due : Nat) :
    Prop where
  later : start < due
  playedOut : animation.duration.toNat ≤ playback.speeds.played start due
  notBefore : ∀ tick, start < tick → tick < due →
    playback.speeds.played start tick < animation.duration.toNat
  silent : ∀ tick, start < tick → tick < due → (playback.after tick).told = []
  calm : ∀ tick, start < tick → tick < due → (playback.after tick).overflows = false
  goesOn : (∀ executed, .solved executed ∉ (playback.after start).told) →
    (playback.after due).overflows = false →
    (∃ action animation, .started action animation ∈ (playback.after due).told) ∨
      ∃ executed, (playback.after due).told = [.finished executed]

/-- Whatever has happened before, an action that starts is waited for. -/
theorem waits_of_started {playback : Playback} {start : Nat} {action : Action}
    {animation : Animation} (started : .started action animation ∈ (playback.after start).told) :
    ∃ due, playback.Waits start animation due := by
  obtain ⟨engine, begins, runs⟩ := begins_of_started started
  have positive := (playback.after start).speeds.ticksFor_pos begins.lasts
  have playedFrom : ∀ ticks, playback.speeds.played start (start + ticks) =
      (playback.after start).speeds.played 0 ticks := by
    intro ticks
    rw [speeds_after, Schedule.played_later, Nat.add_zero]
  have waits : ∀ tick, start < tick →
      tick < start + (playback.after start).speeds.ticksFor animation.duration.toNat →
      (playback.after tick).told = [] ∧ (playback.after tick).overflows = false := by
    intro tick behind early
    obtain ⟨ticks, rfl⟩ := Nat.exists_eq_add_of_lt behind
    rw [Nat.add_assoc, after_add]
    exact begins.told_eq_nil (Nat.succ_pos ticks) (by omega)
  refine ⟨start + (playback.after start).speeds.ticksFor animation.duration.toNat, by omega, ?_, ?_,
    fun tick behind early => (waits tick behind early).1,
    fun tick behind early => (waits tick behind early).2, ?_⟩
  · rw [playedFrom]
    exact Schedule.le_played_ticksFor _ _
  · intro tick behind early
    obtain ⟨ticks, rfl⟩ := Nat.exists_eq_add_of_lt behind
    rw [Nat.add_assoc, playedFrom]
    exact Schedule.played_lt_of_lt_ticksFor _ (by omega)
  · intro unsolved _
    have running := runs.resolve_right fun ⟨executed, told⟩ => unsolved executed told
    rw [after_add]
    refine told_of_isReady ?_ ((begins.isReady_iff positive (Nat.le_refl _)).2 rfl)
    rwa [begins.isRunning_eq positive (Nat.le_refl _)]

/-- A checked game that gets past the start of an animation gets to its end. -/
theorem Waits.after?_due {playback : Playback} {start due : Nat} {animation : Animation}
    (waits : playback.Waits start animation due)
    (passes : playback.after? (start + 1) = some (playback.after (start + 1))) :
    playback.after? due = some (playback.after due) := by
  obtain ⟨-, calm⟩ := playback.after?_eq_some_iff.1 passes
  refine playback.after?_eq_some_iff.2 ⟨rfl, fun tick early => ?_⟩
  rcases Nat.lt_or_ge start tick with behind | before
  · exact waits.calm tick behind early
  · exact calm tick (Nat.lt_succ_of_le before)

/-! ## The whole run -/

/-- The engine runs up to a last tick, and until then tells some events. The last of them is told in
the last tick. -/
structure Lasts (playback : Playback) (last : Nat) (events : List EngineEvent) : Prop where
  running_iff : ∀ tick, (playback.after tick).engine.isRunning = true ↔ tick ≤ last
  silent : ∀ tick, last < tick → (playback.after tick).told = []
  told : (List.range (last + 1)).flatMap (fun tick => (playback.after tick).told) = events
  ending : ∃ ending, events.getLast? = some ending ∧ ending ∈ (playback.after last).told

/-- A run ends in the tick that leaves the engine idle. -/
theorem Lasts.now {playback : Playback} (running : playback.engine.isRunning = true)
    (idle : playback.next.engine.isRunning = false) {ending : EngineEvent}
    (isLast : playback.told.getLast? = some ending) : playback.Lasts 0 playback.told where
  running_iff tick := by
    cases tick with
    | zero => simpa using running
    | succ tick => simpa [after] using (after_of_idle idle tick).1
  silent tick behind := by
    obtain ⟨ticks, rfl⟩ := Nat.exists_eq_add_of_lt behind
    rw [Nat.zero_add]
    exact (after_of_idle idle ticks).2
  told := by simp
  ending := ⟨ending, isLast, List.mem_of_getLast? isLast⟩

/-- A run in which an animation begins goes on, and ends, as it does when the animation is over. -/
theorem Lasts.later {playback : Playback} {engine : Engine} {animation : Animation}
    (begins : playback.Begins engine animation) (runs : playback.engine.isRunning = true)
    (runsOn : engine.isRunning = true) {last : Nat} {events : List EngineEvent}
    (rest : (playback.after
      (playback.speeds.ticksFor animation.duration.toNat)).Lasts last events) :
    playback.Lasts (playback.speeds.ticksFor animation.duration.toNat + last)
      (playback.told ++ events) := by
  have positive := playback.speeds.ticksFor_pos begins.lasts
  constructor
  · intro tick
    rcases Nat.lt_or_ge tick (playback.speeds.ticksFor animation.duration.toNat) with
      before | behind
    · refine iff_of_true ?_ (by omega)
      rcases Nat.eq_zero_or_pos tick with rfl | some
      · exact runs
      · rw [begins.isRunning_eq some (Nat.le_of_lt before), runsOn]
    · obtain ⟨further, rfl⟩ := Nat.exists_eq_add_of_le behind
      rw [after_add, rest.running_iff]
      omega
  · intro tick behind
    obtain ⟨further, rfl⟩ := Nat.exists_eq_add_of_le
      (Nat.le_trans (Nat.le_add_right _ last) (Nat.le_of_lt behind))
    rw [after_add]
    exact rest.silent further (by omega)
  · rw [Nat.add_assoc, flatMap_range_of_nil positive fun _ some early => (begins.told_eq_nil some early).1]
    simp only [after_add]
    rw [rest.told, after_zero]
  · obtain ⟨ending, isLast, inTold⟩ := rest.ending
    refine ⟨ending, ?_, by rwa [after_add]⟩
    rw [List.getLast?_append, isLast, Option.some_or]

/-- A run with some actions ahead, of which the next one can start, lasts as long as the animations
take that are waited for, and tells what the actions tell. -/
theorem lasts_of_underway {playback : Playback} {program : Program} {ahead : List Action}
    (underway : playback.engine.Underway program ahead)
    (ready : playback.engine.isReady = true) :
    playback.Lasts (playback.speeds.due (playback.world.waits ahead))
      (playback.world.playOut playback.engine.executed ahead).2 := by
  have current : playback.current.Underway program ahead :=
    ⟨underway.running, underway.runs, underway.stands⟩
  have isReady : playback.current.isReady = true := ready
  induction ahead generalizing playback with
  | nil =>
      obtain ⟨told, next⟩ := of_tick_eq (current.tick_nil isReady playback.world)
      have ends : playback.Lasts 0 playback.told :=
        .now underway.running (by rw [next, Engine.ended_isRunning]) (by rw [told]; rfl)
      rwa [told] at ends
  | cons action rest inductionHypothesis =>
      obtain ⟨cursor, started, outcome⟩ := current.tick_cons isReady playback.world
      cases solved : (playback.world.perform action).1.isSolved with
      | true =>
          rw [solved, if_pos rfl] at outcome
          obtain ⟨told, next⟩ := of_tick_eq outcome
          have ends : playback.Lasts 0 playback.told :=
            .now underway.running (by simp [next]) (by rw [told]; rfl)
          rw [told] at ends
          simp only [World.waits, World.playOut, solved, if_true]
          exact ends
      | false =>
          rw [solved, if_neg Bool.false_ne_true] at outcome
          obtain ⟨told, next⟩ := of_tick_eq outcome
          have begins : playback.Begins (playback.current.started cursor _) _ :=
            ⟨congrArg engine next, rfl, rfl, rfl, playback.world.lasts_perform action⟩
          have positive := playback.speeds.ticksFor_pos begins.lasts
          obtain ⟨sameWorld, speed, same⟩ := begins.after_eq positive (Nat.le_refl _)
          have isDue := (begins.isReady_iff positive (Nat.le_refl _)).2 rfl
          have underwayThen : (playback.after (playback.speeds.ticksFor
              (playback.world.perform action).2.duration.toNat)).engine.Underway program rest := by
            rw [same]
            exact ⟨started.running, started.runs, started.stands⟩
          have further := inductionHypothesis underwayThen isDue
            ⟨underwayThen.running, underwayThen.runs, underwayThen.stands⟩ isDue
          rw [same, sameWorld, next, speeds_after] at further
          have lasts := Lasts.later begins underway.running started.running further
          rw [told] at lasts
          simp only [World.waits, World.playOut, solved, Bool.false_eq_true, if_false, Schedule.due]
          exact lasts

/-- A run in a checked game is at one of its stages in front of every tick. -/
theorem stage_after? {playback : Playback} {program : Program} {overflows : Bool}
    (stage : Engine.Stage program overflows (some (playback.engine, playback.world, [])))
    (ticks : Nat) :
    Engine.Stage program overflows
      ((playback.after? ticks).map fun reached => (reached.engine, reached.world, [])) := by
  induction ticks with
  | zero => exact stage
  | succ ticks inductionHypothesis =>
      rw [after?]
      generalize playback.after? ticks = reached at inductionHypothesis
      cases reached with
      | none => exact inductionHypothesis
      | some reached =>
          have ticked := (inductionHypothesis.setSpeed (reached.speeds 0) []).tick?
          rw [Option.bind_some, next?, current]
          generalize (reached.engine.setSpeed (reached.speeds 0)).tick? reached.world = outcome
            at ticked
          cases outcome with
          | none => exact ticked
          | some outcome => exact ticked.told []

/-- A checked run of which no action overflows gets to every tick. -/
theorem after?_of_calm {playback : Playback} {program : Program}
    (stage : Engine.Stage program false (some (playback.engine, playback.world, [])))
    (ticks : Nat) : playback.after? ticks = some (playback.after ticks) := by
  have staged := stage_after? stage ticks
  cases reached : playback.after? ticks with
  | none =>
      rw [reached] at staged
      cases staged with
      | brokenOff overflows => exact absurd overflows Bool.false_ne_true
  | some _ => rw [playback.after_of_after? reached]

/-- A checked run of which an action overflows breaks off before it would have ended. -/
theorem after?_of_overflows {playback : Playback} {program : Program}
    (stage : Engine.Stage program true (some (playback.engine, playback.world, [])))
    {last : Nat} {events : List EngineEvent} (lasts : playback.Lasts last events) :
    playback.after? (last + 1) = none := by
  have staged := stage_after? stage (last + 1)
  cases reached : playback.after? (last + 1) with
  | none => rfl
  | some _ =>
      rw [reached] at staged
      rw [← playback.after_of_after? reached] at staged
      cases staged with
      | ended _ calm => exact absurd calm.symm Bool.false_ne_true
      | goesOn underway _ _ =>
          have running := (lasts.running_iff (last + 1)).1 underway.running
          omega

/-! ## The timetable -/

/-- The next tick counts exactly. Its clock, which counts whole ticks, agrees with one in binary
floating point: that one would be advanced exactly, and its fraction of the duration reaches one
just when the engine is ready. The count of actions does not overflow, so that the tick overflows
only where the action that it starts does. -/
structure Counts (playback : Playback) : Prop where
  isReady_eq : playback.current.isReady = Binary32.le 1 playback.current.progress
  advanced : playback.current.isReady = false →
    Binary32.ofNat (playback.current.elapsed + playback.current.speed.multiplier) =
      .ofNat playback.current.elapsed + .ofNat playback.current.speed.multiplier
  overflows_eq : playback.current.tickOverflows playback.world =
    playback.current.nextAction?.any playback.world.performOverflows

/-- A run that begins in time and can be counted counts exactly in every tick. -/
theorem counts_after {playback : Playback} (inTime : playback.engine.InTime)
    (countable : playback.engine.Countable) (ticks : Nat) : (playback.after ticks).Counts := by
  have both : (playback.after ticks).engine.InTime ∧ (playback.after ticks).engine.Countable := by
    induction ticks with
    | zero => exact ⟨inTime, countable⟩
    | succ ticks inductionHypothesis =>
        obtain ⟨inTime, countable⟩ := inductionHypothesis
        rw [after_succ]
        exact ⟨(inTime.setSpeed _).tick _, (countable.setSpeed _).tick _⟩
  exact ⟨(both.1.setSpeed _).isReady_eq, fun unready => (both.1.setSpeed _).ofNat_elapsed unready _,
    (both.2.setSpeed _).tickOverflows_eq _⟩

/-- A run is left to the clock, at any speeds. Every action that starts is waited for: nothing
happens until its animation has been played, and then the next action starts or overflows or the run
ends, unless that action has solved the level. If no action overflows that the run takes, no tick
breaks off, and the run is over after the animations that are waited for, and at constant speed
after the sum of their durations, each divided by the multiplier and rounded up. If one does, the
run breaks off before. All of this is counted exactly. The first tick is that with the number zero,
in which the first action starts. -/
theorem timetable_execute (world : World) (program : Program)
    (countable : program.actions.length < UInt32.size) :
    ∃ count ending, world.EndsAfter program.actions count ending ∧
      ∀ engine : Engine, engine.isRunning = false → ∀ speeds : Schedule,
        let playback : Playback := ⟨(engine.queue program).execute, world, speeds⟩
        let taken := program.actions.take count
        let waited := world.durations (program.actions.take (ending.awaited count))
        (∀ start action animation,
            playback.after? (start + 1) = some (playback.after (start + 1)) →
            .started action animation ∈ (playback.after start).told →
            ∃ due, playback.Waits start animation due ∧
              playback.after? due = some (playback.after due)) ∧
          (world.performAllOverflows taken = false →
            (∀ tick, playback.after? tick = some (playback.after tick)) ∧
              playback.Lasts (speeds.due waited) (world.startAll taken ++ [ending])) ∧
          (world.performAllOverflows taken = true →
            playback.after? (speeds.due waited + 1) = none) ∧
          (∀ speed factor, (speed, factor) ∈ [(Speed.normal, 1), (.double, 2), (.triple, 3)] →
            speed.multiplier = factor ∧
              ((∀ tick, speeds tick = speed) →
                speeds.due waited = (waited.map (· ⌈/⌉ factor)).sum)) ∧
          ∀ tick, (playback.after tick).Counts := by
  obtain ⟨count, ending, endsAfter, played⟩ := world.playOut_endsAfter countable
  refine ⟨count, ending, endsAfter, fun engine idle speeds => ?_⟩
  rw [Engine.execute_queue idle, ← endsAfter.waits_eq]
  have stage := Engine.stage_begun engine world countable []
  rw [endsAfter.playOutOverflows_eq] at stage
  have lasts := @lasts_of_underway ⟨engine.begun program, world, speeds⟩ program program.actions
    (Engine.underway_begun engine program) rfl
  have sameCount : (engine.begun program).executed = 0 := rfl
  rw [sameCount, played] at lasts
  refine ⟨?_, ?_, ?_, ?_, ?_⟩
  · intro start action animation passes started
    obtain ⟨due, waits⟩ := waits_of_started started
    exact ⟨due, waits, waits.after?_due passes⟩
  · intro calm
    rw [calm] at stage
    exact ⟨after?_of_calm stage, lasts⟩
  · intro overflows
    rw [overflows] at stage
    exact after?_of_overflows stage lasts
  · intro speed factor isFactor
    have multiplies : speed.multiplier = factor := by
      revert isFactor
      cases speed <;> simp [Speed.multiplier, eq_comm]
    refine ⟨multiplies, fun constant => ?_⟩
    rw [← multiplies]
    exact Schedule.due_of_constant constant _
  · intro tick
    exact counts_after (Engine.inTime_begun engine program)
      (Engine.countable_begun engine countable) tick

/-- On the first level two steps are waited for, of 15 ticks each, and then the lamp is lit. This
takes 30 ticks at normal speed, 16 at double speed and 10 at triple speed. -/
theorem timetable_execute_firstSteps :
    ∃ world, World.load LevelPack.firstSteps = .ok world ∧
      let program := Program.ofActions [.walk, .walk, .light]
      program.actions.length < UInt32.size ∧ Engine.new.isRunning = false ∧
        ∀ speed last, (speed, last) ∈ [(Speed.normal, 30), (.double, 16), (.triple, 10)] →
          let playback : Playback := ⟨(Engine.new.queue program).execute, world, fun _ => speed⟩
          playback.Lasts last (world.startAll program.actions ++ [.solved 3]) ∧
            playback.after? (last + 1) = some (playback.after (last + 1)) ∧
            .started .walk (world.perform .walk).2 ∈ (playback.after 0).told ∧
            ∃ due, playback.Waits 0 (world.perform .walk).2 due := by
  refine ⟨_, rfl, by decide, rfl, fun speed last isLast => ?_⟩
  obtain ⟨count, ending, endsAfter, runs⟩ := timetable_execute _
    (Program.ofActions [.walk, .walk, .light]) (by decide)
  obtain ⟨rfl, rfl⟩ := endsAfter.unique (Engine.endsAfter_firstSteps rfl).2
  obtain ⟨gate, whole, -, paces, -⟩ := runs Engine.new rfl fun _ => speed
  obtain ⟨passes, lasts⟩ := whole (by decide)
  have sums : ∀ pace ∈ [(Speed.normal, 30), (.double, 16), (.triple, 10)],
      ([15, 15].map (· ⌈/⌉ pace.1.multiplier)).sum = pace.2 := by decide
  have divided := (paces speed speed.multiplier (by cases speed <;> decide)).2 fun _ => rfl
  rw [divided.trans (sums (speed, last) isLast)] at lasts
  obtain ⟨due, waits, -⟩ := gate 0 _ _ (passes 1) (List.mem_singleton_self _)
  exact ⟨lasts, passes _, List.mem_singleton_self _, due, waits⟩

/-- On the brink, a run of a single step would end behind its animation. It breaks off in its first
tick, at any speeds. -/
theorem after?_execute_brink :
    ∃ world, World.load World.brink = .ok world ∧
      let program := Program.ofActions [.walk]
      program.actions.length < UInt32.size ∧ Engine.new.isRunning = false ∧
        world.EndsAfter program.actions 1 (.finished 1) ∧
        ∀ speeds, (⟨(Engine.new.queue program).execute, world, speeds⟩ : Playback).after? 1 =
          none := by
  refine ⟨_, rfl, by decide, rfl, .finished ?_ rfl, fun speeds => rfl⟩
  exact World.staysUnsolved_of_no_light (by decide) rfl

end Playback

end Lamplighter
