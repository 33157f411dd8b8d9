import Lamplighter.Proofs.Engine.Overflow
import Lamplighter.Proofs.Session.Protocol
import Lamplighter.Proofs.Session.Replay
import Lamplighter.Proofs.World.Climb

/-!
# Runs that do not solve their level

A run that does not solve its level takes all actions of its program and then tells their number. It
is counted with 32 bits, and loops multiply: a few of them take more actions than can be counted.
`Session.Finishes` says how such a run ends and which of its ticks overflow, and
`Session.Finishes.later` puts a tick in front of one. On a moderate grid the count is all that can
overflow.
-/

namespace Lamplighter

namespace Session

/-- A moment overflows when its tick does. A load counts and climbs nothing. -/
def Moment.overflows (moment : Moment) : Bool :=
  match moment.step with
  | .tick input => moment.session.tickOverflows input
  | .load _ _ => false

/-- A tick tells of an action exactly when there is one to start. -/
theorem Moves.startCount_eq {prepared : Session} {outcome : Session × List GameEvent}
    (moves : Moves prepared outcome) :
    startCount outcome.2 = prepared.engine.nextAction?.toList.length := by
  cases moves with
  | rests idle => simp [Engine.nextAction?, idle, startCount, GameEvent.isStart]
  | waits running unready => simp [Engine.nextAction?, unready, startCount, GameEvent.isStart]
  | finishes running ready nothing =>
      have noAction : prepared.engine.nextAction? = none := by
        simp only [Engine.nextAction?, running, ready]
        cases isCursor : prepared.engine.cursor with
        | none => rfl
        | some cursor =>
            cases runs : prepared.engine.program with
            | none => rfl
            | some program => simpa using nothing program cursor runs isCursor
      simp [noAction, startCount, GameEvent.isStart]
  | starts running ready runs isCursor taken unsolved =>
      have isNext := Engine.nextAction?_eq running ready runs isCursor taken
      rw [isNext, startCount_announce_append]
      rfl
  | solves running ready runs isCursor taken solved awarded =>
      have isNext := Engine.nextAction?_eq running ready runs isCursor taken
      rw [isNext, startCount_announce_append]
      rfl

/-! ## One tick of a run -/

/-- A tick goes on with a run: of the actions ahead, the last ones are left. If it starts one, that
is counted, and so is the overflow that it may come to. -/
structure GoesOn (prepared : Session) (program : Program) (ahead : List Action)
    (outcome : Session × List GameEvent) (left : List Action) : Prop where
  underway : outcome.1.engine.Underway program left
  nearer : outcome.1.engine.ticksLeft left + 1 ≤ prepared.engine.ticksLeft ahead
  unsolved : outcome.1.world.StaysUnsolved left
  noEnd : endCount outcome.2 = 0
  counted : startCount outcome.2 + left.length = ahead.length
  climbs : prepared.world.performAllOverflows ahead =
    (prepared.engine.nextAction?.any prepared.world.performOverflows ||
      outcome.1.world.performAllOverflows left)

/-- A run that does not solve its level comes to its end in a tick only if no action is ahead, and
goes on otherwise. -/
theorem Moves.ends_or_goesOn {prepared : Session} {outcome : Session × List GameEvent}
    (moves : Moves prepared outcome) {program : Program} {ahead : List Action}
    (underway : prepared.engine.Underway program ahead)
    (unsolved : prepared.world.StaysUnsolved ahead) :
    (ahead = [] ∧
        outcome = ({ prepared with engine := prepared.engine.ended },
          [.programFinished prepared.engine.executed, .tick])) ∨
      ∃ left, GoesOn prepared program ahead outcome left := by
  cases moves with
  | rests idle => simp [underway.running] at idle
  | waits running unready =>
      obtain ⟨stillUnderway, nearer⟩ := underway.play unready
      refine .inr ⟨ahead, stillUnderway, nearer, unsolved, rfl, Nat.zero_add _, ?_⟩
      simp [Engine.nextAction?, unready]
  | finishes running ready nothing => exact .inl ⟨underway.ahead_eq_nil nothing, rfl⟩
  | starts running ready runs isCursor taken notSolved =>
      obtain ⟨rest, rfl, stillUnderway, nearer⟩ :=
        underway.start runs isCursor taken prepared.world
      refine .inr ⟨rest, stillUnderway, nearer, unsolved.of_cons.2,
        endCount_announce_append _ _ _, ?_, ?_⟩
      · rw [startCount_announce_append, List.length_cons, Nat.add_comm]
        rfl
      · rw [Engine.nextAction?_eq running ready runs isCursor taken]
        rfl
  | solves running ready runs isCursor taken solved awarded =>
      obtain ⟨rest, rfl, _⟩ := underway.taken runs isCursor taken
      simp [unsolved.of_cons.1] at solved

/-- The turns of the camera and the speed button leave a run where it is. -/
theorem steer_underway {session : Session} {program : Program} {ahead : List Action}
    (underway : session.engine.Underway program ahead) (input : TickInput) :
    (session.steer input).engine.Underway program ahead ∧
      (session.steer input).engine.ticksLeft ahead = session.engine.ticksLeft ahead := by
  simp only [steer]
  split
  · exact ⟨⟨underway.running, underway.runs, underway.stands⟩, rfl⟩
  · exact ⟨underway, rfl⟩

/-! ## Whole runs -/

/-- A run that has counted up to `before` takes all the actions ahead from a world, and comes to its
end in the last of some ticks without solving the level. -/
structure Finishes (session : Session) (during : List TickInput) (last : TickInput)
    (before : UInt32) (world : World) (ahead : List Action) : Prop where
  told : ((session.after (during.map .tick)).tick last).2 =
    [.programFinished (before + .ofNat ahead.length), .tick]
  idle : ((session.after (during.map .tick)).tick last).1.engine.isRunning = false
  counted : ((session.after (during.map .tick)).tick last).1.engine.executed =
    before + .ofNat ahead.length
  noEnd : endsTold (session.moments (during.map .tick)) = 0
  started : startsTold (session.moments ((during ++ [last]).map .tick)) = ahead.length
  overflows :
    (∃ moment ∈ session.moments ((during ++ [last]).map .tick), moment.overflows = true) ↔
      world.performAllOverflows ahead = true ∨ UInt32.size ≤ before.toNat + ahead.length

/-- A run without actions ahead comes to its end at once. -/
theorem Finishes.now {session : Session} {last : TickInput}
    (ends : session.tick last =
      ({ session.prepare last with engine := (session.prepare last).engine.ended },
        [.programFinished (session.prepare last).engine.executed, .tick])) :
    session.Finishes [] last (session.prepare last).engine.executed (session.prepare last).world
      [] where
  told := by simp [ends]
  idle := by simp [ends]
  counted := by simp [ends, Engine.ended]
  noEnd := rfl
  started := by simp [moments, Moment.events, step, ends, startsTold, startCount, GameEvent.isStart]
  overflows := by
    have starts := (session.tick_moves last).startCount_eq
    rw [ends] at starts
    have noAction : (session.prepare last).engine.nextAction? = none :=
      Option.toList_eq_nil_iff.1 (List.length_eq_zero_iff.1 starts.symm)
    have overflows := (session.prepare last).engine.tickOverflows_iff (session.prepare last).world
    rw [noAction] at overflows
    simpa [moments, Moment.overflows, tickOverflows, World.performAllOverflows] using overflows

/-- A tick that goes on with a run stands in front of the rest of it, and what it starts is counted
first. -/
theorem Finishes.later {session : Session} {input last : TickInput} {during : List TickInput}
    {program : Program} {ahead left : List Action}
    (goesOn : GoesOn (session.prepare input) program ahead (session.tick input) left)
    (rest : (session.tick input).1.Finishes during last (session.tick input).1.engine.executed
      (session.tick input).1.world left) :
    session.Finishes (input :: during) last (session.prepare input).engine.executed
      (session.prepare input).world ahead := by
  have moves := session.tick_moves input
  have executed := moves.executed_eq
  have first : (⟨session, .tick input⟩ : Moment).overflows = true ↔ _ :=
    (session.prepare input).engine.tickOverflows_iff (session.prepare input).world
  rw [← moves.startCount_eq] at first
  have counted : (session.tick input).1.engine.executed + .ofNat left.length =
      (session.prepare input).engine.executed + .ofNat ahead.length := by
    rw [executed, ← goesOn.counted, UInt32.ofNat_add, UInt32.add_assoc]
  constructor
  · rw [← counted]
    exact rest.told
  · exact rest.idle
  · rw [← counted]
    exact rest.counted
  · have noEnd : endCount (⟨session, .tick input⟩ : Moment).events = 0 := goesOn.noEnd
    rw [List.map_cons, Moment.moments_cons, endsTold_cons, noEnd, Nat.zero_add]
    exact rest.noEnd
  · rw [List.cons_append, List.map_cons, Moment.moments_cons, startsTold_cons, ← goesOn.counted]
    exact congrArg (startCount (session.tick input).2 + ·) rest.started
  · have further := rest.overflows
    rw [List.cons_append, List.map_cons, Moment.moments_cons, List.exists_mem_cons_iff, first,
      goesOn.climbs, Bool.or_eq_true, ← goesOn.counted, ← Nat.add_assoc]
    by_cases small : (session.prepare input).engine.executed.toNat +
        startCount (session.tick input).2 < UInt32.size
    · -- What the tick starts is counted exactly, and the rest goes on from there.
      rw [executed, toNat_add_ofNat small] at further
      rw [or_iff_left (Nat.not_le.2 small), or_assoc]
      exact or_congr_right further
    · exact iff_of_true (.inl (.inr (Nat.not_lt.1 small))) (.inr (by omega))

/-- A tick ends a run that does not solve its level, or goes on with it. -/
theorem finishes_or_goesOn {session : Session} {input : TickInput} {program : Program}
    {ahead : List Action} (underway : (session.prepare input).engine.Underway program ahead)
    (unsolved : (session.prepare input).world.StaysUnsolved ahead) :
    session.Finishes [] input (session.prepare input).engine.executed (session.prepare input).world
        ahead ∨
      ∃ left, GoesOn (session.prepare input) program ahead (session.tick input) left := by
  rcases (session.tick_moves input).ends_or_goesOn underway unsolved with ⟨rfl, ends⟩ | goesOn
  · exact .inl (.now ends)
  · exact .inr goesOn

/-- A run that does not solve its level comes to its end if the player lets it go on for long
enough, and takes all the actions that are ahead. -/
theorem exists_finishes {session : Session} {input : TickInput} {inputs : List TickInput}
    {program : Program} {ahead : List Action}
    (underway : (session.prepare input).engine.Underway program ahead)
    (unsolved : (session.prepare input).world.StaysUnsolved ahead)
    (letRun : ∀ later ∈ inputs, LetsRun later)
    (enough : (session.prepare input).engine.ticksLeft ahead ≤ inputs.length + 1) :
    ∃ during last later, input :: inputs = during ++ last :: later ∧
      session.Finishes during last (session.prepare input).engine.executed
        (session.prepare input).world ahead := by
  induction inputs generalizing session input ahead with
  | nil =>
      rcases finishes_or_goesOn underway unsolved with finishes | ⟨left, goesOn⟩
      · exact ⟨[], input, [], rfl, finishes⟩
      · have nearer := goesOn.nearer
        simp only [Engine.ticksLeft, List.length_nil] at nearer enough
        omega
  | cons next inputs inductionHypothesis =>
      rcases finishes_or_goesOn underway unsolved with finishes | ⟨left, goesOn⟩
      · exact ⟨[], input, next :: inputs, rfl, finishes⟩
      · rw [List.forall_mem_cons] at letRun
        rw [List.length_cons] at enough
        have nearer := goesOn.nearer
        have sameRun := prepare_of_letsRun goesOn.underway.running letRun.1
        obtain ⟨underwayNext, sameLeft⟩ := steer_underway goesOn.underway next
        have rest := @inductionHypothesis (session.tick input).1 next left
        rw [sameRun, steer_world, steer_executed, sameLeft] at rest
        obtain ⟨during, last, later, split, finishes⟩ :=
          rest underwayNext goesOn.unsolved letRun.2 (by omega)
        exact ⟨input :: during, last, later, by rw [split, List.cons_append],
          finishes.later goesOn⟩

/-- A run from the spawn that does not solve its level counts from zero, and takes all the actions
of its program. -/
theorem exists_finishes_of_startsRun {fresh : World} (isFresh : fresh.Fresh) {session : Session}
    (played : fresh.PlayedFrom session.world) {input : TickInput}
    (starts : session.StartsRun input) {program : Program}
    (runs : input.program.or session.engine.program = some program)
    (unsolved : fresh.StaysUnsolved program.actions) {inputs : List TickInput}
    (letRun : ∀ later ∈ inputs, LetsRun later) (enough : program.tickBound ≤ inputs.length + 1) :
    ∃ during last later, input :: inputs = during ++ last :: later ∧
      session.Finishes during last 0 fresh program.actions := by
  obtain ⟨other, runsOther, begun⟩ := prepare_of_startsRun starts
  obtain rfl : program = other := Option.some.inj (runs.symm.trans runsOther)
  have world : (session.prepare input).world = fresh := by
    rw [begun]
    exact played.reset_eq isFresh
  have engine : (session.prepare input).engine = (session.steer input).engine.begun program := by
    rw [begun]
  have finishes := @exists_finishes session input inputs program program.actions
  rw [world, engine, Engine.ticksLeft_begun] at finishes
  exact finishes (Engine.underway_begun _ _) unsolved letRun enough

/-! ## What a run tells of its length -/

/-- A run on a loaded level is started in a session with any past, and the player then lets it go on
for as long as it can take. If it does not solve the level, it ends at one of these ticks, and not
before. With this tick the engine is idle, it tells a count and keeps it, and as many actions have
been told to start as the program has when all its loops are written out. The count is this number
if it can be counted. Some tick of the run overflows exactly when one of the actions does or when it
cannot be counted; and no action does on a moderate grid. -/
theorem finishes_of_startsRun {id : String} {level : Level} {world : World}
    (isLoaded : World.load level = .ok world) {session : Session}
    (plays : session.Plays id level) {input : TickInput} (starts : session.StartsRun input)
    {program : Program} (runs : input.program.or session.engine.program = some program)
    (unsolved : world.StaysUnsolved program.actions) {inputs : List TickInput}
    (letRun : ∀ later ∈ inputs, LetsRun later) (enough : program.tickBound ≤ inputs.length + 1) :
    (world.grid.Moderate → world.performAllOverflows program.actions = false) ∧
      ∃ during last later executed, input :: inputs = during ++ last :: later ∧
        let before := session.after (during.map .tick)
        let moments := session.moments ((during ++ [last]).map .tick)
        ((before.tick last).2 = [.programFinished executed, .tick] ∧
            (before.tick last).1.engine.isRunning = false ∧
            (before.tick last).1.engine.executed = executed) ∧
          endsTold (session.moments (during.map .tick)) = 0 ∧
          startsTold moments = program.length ∧
          executed.toNat = program.length % UInt32.size ∧
          ((∃ moment ∈ moments, moment.overflows = true) ↔
            world.performAllOverflows program.actions = true ∨ UInt32.size ≤ program.length) := by
  have isFresh := World.fresh_of_load isLoaded
  obtain ⟨during, last, later, split, finishes⟩ := exists_finishes_of_startsRun isFresh
    (plays.playedFrom isLoaded) starts runs unsolved letRun enough
  have overflows := finishes.overflows
  rw [UInt32.toNat_zero, Nat.zero_add, Program.length_actions] at overflows
  refine ⟨fun moderate => isFresh.playedFrom.performAllOverflows_eq_false isFresh moderate _,
    during, last, later, _, split, ⟨finishes.told, finishes.idle, finishes.counted⟩,
    finishes.noEnd, ?_, ?_, overflows⟩
  · rw [finishes.started, Program.length_actions]
  · rw [UInt32.zero_add, UInt32.toNat_ofNat', Program.length_actions]

/-- When nothing is pressed, a run goes on. -/
theorem letsRun_replicate (count : Nat) :
    ∀ later ∈ List.replicate count TickInput.nothing, LetsRun later := by
  intro later member
  rw [List.eq_of_mem_replicate member]
  exact ⟨rfl, rfl⟩

/-- A new session on a level on which nothing overflows. -/
theorem begun_firstSteps :
    ∃ world session, World.load LevelPack.firstSteps = .ok world ∧ world.grid.Moderate ∧
      Session.new "first-steps" LevelPack.firstSteps = .ok session ∧
      session.engine.isRunning = false :=
  ⟨_, _, rfl, ⟨by decide, by decide, by decide⟩, rfl, rfl⟩

/-- A run that never lights a lamp ends in the tick that tells of its three actions, and nothing
overflows on the way. -/
theorem finishes_of_startsRun_firstSteps :
    ∃ world session, World.load LevelPack.firstSteps = .ok world ∧ world.grid.Moderate ∧
      Session.new "first-steps" LevelPack.firstSteps = .ok session ∧
      let program := Program.ofActions [.walk, .turnLeft, .walk]
      let input : TickInput := { TickInput.nothing with program := some program, run := true }
      session.StartsRun input ∧ world.StaysUnsolved program.actions ∧
        ∃ during last later executed,
          input :: List.replicate 60 .nothing = during ++ last :: later ∧
          ((session.after (during.map .tick)).tick last).2 = [.programFinished executed, .tick] ∧
          executed.toNat = 3 ∧
          ¬ ∃ moment ∈ session.moments ((during ++ [last]).map .tick), moment.overflows = true := by
  obtain ⟨world, session, isLoaded, moderate, isNew, idle⟩ := begun_firstSteps
  have noLight : .light ∉ (Program.ofActions [.walk, .turnLeft, .walk]).actions := by decide
  have unsolved := World.staysUnsolved_of_no_light noLight (World.fresh_of_load isLoaded).unsolved
  have starts : session.StartsRun { TickInput.nothing with
      program := some (.ofActions [.walk, .turnLeft, .walk]), run := true } :=
    ⟨rfl, .inl idle, rfl⟩
  obtain ⟨calm, during, last, later, executed, split, told, _, _, exact, overflows⟩ :=
    @finishes_of_startsRun _ _ _ isLoaded _ (.begun isNew) _ starts _ rfl unsolved
      (List.replicate 60 .nothing) (letsRun_replicate 60) (by decide)
  refine ⟨world, session, isLoaded, moderate, isNew, starts, unsolved, during, last, later,
    executed, split, told.1, exact, ?_⟩
  rw [overflows, calm moderate]
  decide

/-- Two loops that take `2 ^ 32` steps. -/
def wander : Program :=
  ⟨[.loop ⟨65536, by decide⟩ [.loop ⟨65536, by decide⟩ [.act .walk]]]⟩

/-- A run that does not solve its level breaks off in its first tick where a climb overflows. Where
none does, two loops bring it to a tick that overflows, and to an end at which it tells that nothing
has been done. -/
theorem overflows_of_startsRun_wander :
    (∃ world session, World.load World.brink = .ok world ∧
        Session.new "brink" World.brink = .ok session ∧
        world.StaysUnsolved [.walk] ∧
        session.tickOverflows
          { TickInput.nothing with program := some (.ofActions [.walk]), run := true } = true) ∧
      ∃ world session, World.load LevelPack.firstSteps = .ok world ∧ world.grid.Moderate ∧
        Session.new "first-steps" LevelPack.firstSteps = .ok session ∧
        world.StaysUnsolved wander.actions ∧ wander.length = 4294967296 ∧
        ∃ during last later,
          { TickInput.nothing with program := some wander, run := true } ::
            List.replicate wander.tickBound .nothing = during ++ last :: later ∧
          ((session.after (during.map .tick)).tick last).2 = [.programFinished 0, .tick] ∧
          ∃ moment ∈ session.moments ((during ++ [last]).map .tick), moment.overflows = true := by
  constructor
  · have isLoaded : World.load World.brink = .ok _ := rfl
    refine ⟨_, _, isLoaded, rfl, ?_, by decide⟩
    exact World.staysUnsolved_of_no_light (by decide) (World.fresh_of_load isLoaded).unsolved
  · obtain ⟨world, session, isLoaded, moderate, isNew, idle⟩ := begun_firstSteps
    have isFresh := World.fresh_of_load isLoaded
    have noLight : .light ∉ wander.actions := by
      simp only [Program.actions, wander, Instruction.actionsOf, List.append_nil,
        Instruction.mem_actions_loop]
      decide
    have unsolved := World.staysUnsolved_of_no_light noLight isFresh.unsolved
    have starts : session.StartsRun
        { TickInput.nothing with program := some wander, run := true } := ⟨rfl, .inl idle, rfl⟩
    have long : wander.length = 4294967296 := by decide
    obtain ⟨during, last, later, split, finishes⟩ := exists_finishes_of_startsRun isFresh
      ((Plays.begun isNew).playedFrom isLoaded) starts rfl unsolved
      (letsRun_replicate wander.tickBound) (by simp)
    have told := finishes.told
    have overflows := finishes.overflows
    rw [Program.length_actions, long] at told overflows
    exact ⟨world, session, isLoaded, moderate, isNew, unsolved, long, during, last, later, split,
      told, overflows.2 (.inr (by decide))⟩

end Session

end Lamplighter
