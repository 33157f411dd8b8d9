import Lamplighter.Proofs.Headless.Playing
import Mathlib.Order.Bounds.Basic

/-!
# What a headless run reports

On each built-in level, a text that is no program is refused, and a program is played to its end and
reported in one line. `Headless.Reports` says which line: whether the leading actions of the program
light every lamp, how few of them do, and else how far the whole program comes.
-/

namespace Lamplighter

/-! ## The lamps of a world -/

namespace World

/-- Actions add and remove no lamps. -/
theorem lampCount_performAll (world : World) (actions : List Action) :
    (world.performAll actions).lampCount = world.lampCount := by
  induction actions generalizing world with
  | nil => rfl
  | cons action rest inductionHypothesis =>
      rw [performAll, inductionHypothesis]
      exact (world.litFurther_perform action).lampCount

/-- A level that is never solved after some actions is not solved after any number of leading ones,
since it is not solved from the start. -/
theorem StaysUnsolved.isSolved_take {fresh : World} (isFresh : fresh.Fresh) {actions : List Action}
    (unsolved : fresh.StaysUnsolved actions) (count : Nat) :
    (fresh.performAll (actions.take count)).isSolved = false := by
  rw [List.take_eq_take_min]
  rcases Nat.eq_zero_or_pos (min count actions.length) with none | some
  · rw [none]
    exact isFresh.unsolved
  · exact unsolved _ some (Nat.min_le_right _ _)

end World

namespace Headless

/-! ## Lines -/

/-- The line of a level that has been solved. -/
def solvedLine (id : String) (count : Nat) (medal : Medal) : String :=
  s!"Level {id} solved in {count} instructions: {medal.name}"

/-- The line of a level that has not been solved. -/
def unsolvedLine (id : String) (count lit lamps : Nat) : String :=
  s!"Level {id} not solved: {count} instructions, {lit}/{lamps} lamps lit"

theorem eventLines_mapSolved (world : World) (id : String) (executed : UInt32) (medal : Medal) :
    eventLines world id (.mapSolved executed medal) = [solvedLine id executed.toNat medal] := rfl

theorem eventLines_programFinished (world : World) (id : String) (executed : UInt32) :
    eventLines world id (.programFinished executed) =
      [unsolvedLine id executed.toNat world.litCount world.lampCount] := by
  -- Not by the equation of the line: to derive it, its texts would be evaluated.
  delta unsolvedLine
  simp only [eventLines, String.append_assoc]
  rfl

/-- A line tells in how many instructions a level has been solved. -/
theorem solvedLine_injective {id : String} {count other : Nat} {medal worse : Medal}
    (same : solvedLine id count medal = solvedLine id other worse) : count = other := by
  have digits : ∀ (count : Nat) (rest : List Char),
      ((toString count).toList ++ ' ' :: rest).takeWhile Char.isDigit = Nat.toDigits 10 count := by
    intro count rest
    have spelling : (toString count).toList = Nat.toDigits 10 count := Nat.toList_repr
    rw [spelling, List.takeWhile_append_of_pos, List.takeWhile_cons_of_neg (by decide),
      List.append_nil]
    exact fun char member => Nat.isDigit_of_mem_toDigits (by decide) (by decide) member
  simp only [solvedLine, String.append_assoc, String.append_right_inj] at same
  have spelled := congrArg (fun line => line.toList.takeWhile Char.isDigit) same
  simp only [String.toList_append] at spelled
  have sameDigits : Nat.toDigits 10 count = Nat.toDigits 10 other :=
    (digits count _).symm.trans (spelled.trans (digits other _))
  rw [← @Nat.ofDigitChars_ten_toDigits count, sameDigits, Nat.ofDigitChars_ten_toDigits]

/-- A line tells whether a level has been solved. -/
theorem unsolvedLine_ne_solvedLine (id : String) (count lit lamps other : Nat) (medal : Medal) :
    unsolvedLine id count lit lamps ≠ solvedLine id other medal := by
  intro same
  delta unsolvedLine solvedLine at same
  simp only [String.append_assoc, String.append_right_inj] at same
  have second := congrArg (fun line => line.toList[1]?) same
  simp only [String.toList_append] at second
  cases second

/-- What is told of actions that start is not reported. -/
theorem lines_startAll (world final : World) (id : String) (level : LevelInfo)
    (actions : List Action) :
    ((world.startAll actions).flatMap (Session.tellings level)).flatMap (eventLines final id) =
      [] := by
  induction actions generalizing world with
  | nil => rfl
  | cons action rest inductionHypothesis =>
      rw [World.startAll, List.flatMap_cons, List.flatMap_append, inductionHypothesis]
      simp only [Session.tellings, Session.announce]
      split <;> rfl

/-! ## Reports -/

/-- A line reports on a program on a level. If the level is solved after some of the leading actions
of the unrolled program, it tells how few these are, and the medal for as many; otherwise it tells
how long the unrolled program is, and how many of the lamps are lit behind its last action. -/
structure Reports (id : String) (level : Level) (world : World) (program : Program)
    (line : String) : Prop where
  solved_iff : ∀ count, line = solvedLine id count (level.medals.award (.ofNat count)) ↔
    IsLeast {count | (world.performAll (program.actions.take count)).isSolved = true} count
  unsolved : (∀ count, (world.performAll (program.actions.take count)).isSolved = false) →
    line = unsolvedLine id program.actions.length
      (world.performAll program.actions).litCount world.lampCount

/-- The event with which a run on a fresh world ends is reported in one line, which reports on the
program. -/
theorem exists_reports {fresh : World} (isFresh : fresh.Fresh) {id : String} {level : Level}
    {program : Program} {count : Nat} {ending : EngineEvent}
    (endsAfter : fresh.EndsAfter program.actions count ending) :
    ∃ line, (Session.tellings ⟨id, level.medals⟩ ending).flatMap
        (eventLines (fresh.performAll (program.actions.take count)) id) = [line] ∧
      Reports id level fresh program line := by
  cases endsAfter with
  | @solved count executed some within lit first told =>
      have least : IsLeast
          {count | (fresh.performAll (program.actions.take count)).isSolved = true} count := by
        refine ⟨lit, fun other solved => Nat.le_of_not_lt fun fewer => ?_⟩
        rcases Nat.eq_zero_or_pos other with rfl | one
        · simp [World.performAll, isFresh.unsolved] at solved
        · simp [first other one fewer] at solved
      have sameCount : executed = .ofNat count := by rw [← told, UInt32.ofNat_toNat]
      refine ⟨solvedLine id count (level.medals.award (.ofNat count)), ?_, ?_, ?_⟩
      · rw [← sameCount, ← told, Session.tellings, List.flatMap_singleton, eventLines_mapSolved]
      · intro other
        constructor
        · intro same
          exact solvedLine_injective same ▸ least
        · intro leastOther
          rw [least.unique leastOther]
      · intro never
        simp [never count] at lit
  | @finished executed never told =>
      have unsolved := World.StaysUnsolved.isSolved_take isFresh never
      refine ⟨unsolvedLine id program.actions.length
        (fresh.performAll program.actions).litCount fresh.lampCount, ?_, ?_, fun _ => rfl⟩
      · rw [List.take_length, ← told, ← fresh.lampCount_performAll program.actions,
          Session.tellings, List.flatMap_singleton, eventLines_programFinished]
      · intro other
        refine iff_of_false (unsolvedLine_ne_solvedLine _ _ _ _ _ _) fun least => ?_
        have solved := least.1
        simp [unsolved other] at solved

/-- A program that can be counted is played to its end on a fresh world, and one line reports on
it. -/
theorem exists_lines_play {fresh : World} (isFresh : fresh.Fresh) {id : String} {level : Level}
    {session : Session} (isNew : Session.new id level = .ok session)
    (isLoaded : World.load level = .ok fresh) {program : Program}
    (countable : program.actions.length < UInt32.size) :
    (play session program).session.engine.isRunning = false ∧
      ∃ line, (play session program).newestEvents.reverse.flatMap
          (eventLines (play session program).session.world id) = [line] ∧
        Reports id level fresh program line := by
  obtain ⟨world, isWorld, rfl⟩ := Session.of_new_eq_ok isNew
  obtain rfl : fresh = world := Except.ok.inj (isLoaded.symm.trans isWorld)
  have reached := @reached_playedFor ⟨fresh, .new, .straight, ⟨id, level.medals⟩, .empty, none⟩ rfl
    program program.tickBound
  rw [← play_eq, isFresh.playedFrom.reset_eq isFresh] at reached
  obtain ⟨-, stops, tells⟩ :=
    Engine.serveAll_begun .new fresh program (List.replicate (program.tickBound + 1) .tick)
  have idle := stops (by simp)
  have playedOut := tells idle
  obtain ⟨count, ending, endsAfter, told⟩ := fresh.playOut_endsAfter countable
  obtain ⟨line, isLine, reports⟩ := exists_reports isFresh endsAfter
  rw [← reached.engine] at idle
  refine ⟨idle, line, ?_, reports⟩
  rw [reached.told, reached.world, ← playedOut, told, List.flatMap_append, List.flatMap_append,
    lines_startAll, List.flatMap_singleton]
  exact isLine

/-- On a level that can be loaded, a program is played and reported. -/
theorem exists_playLevel {id : String} {level : Level} {session : Session}
    (isNew : Session.new id level = .ok session) (program : Program) :
    ∃ met, playLevel id level program = .ok met ∧
      met.lines = (play session program).newestEvents.reverse.flatMap
        (eventLines (play session program).session.world id) ∧
      met.failure = none := by
  simp only [playLevel, isNew, Except.ok.injEq, exists_eq_left', and_self]

/-! ## Built-in levels -/

/-- Every built-in level has a name and can be loaded, and nothing overflows on its map. -/
theorem exists_builtIn {index : Nat} (builtIn : index < LevelPack.count) :
    ∃ id level world, LevelPack.id? index = some id ∧ LevelPack.level? index = some level ∧
      World.load level = .ok world ∧ world.grid.Moderate := by
  have loads : ∀ entry ∈ LevelPack.entries, ∃ world, World.load entry.2 = .ok world ∧
      world.grid.Moderate := by
    simp only [LevelPack.entries, List.forall_mem_cons]
    refine ⟨?_, ?_, ?_, ?_, nofun⟩ <;> exact ⟨_, rfl, by decide, by decide, by decide⟩
  have isEntry : LevelPack.entries[index]? = some LevelPack.entries[index] :=
    List.getElem?_eq_getElem builtIn
  obtain ⟨world, isLoaded, moderate⟩ := loads _ (List.getElem_mem builtIn)
  exact ⟨_, _, world, by rw [LevelPack.id?, isEntry]; rfl, by rw [LevelPack.level?, isEntry]; rfl,
    isLoaded, moderate⟩

/-- A request for a built-in level is met by playing the program of its source. -/
theorem meet_eq {request : Request} {id : String} {level : Level}
    (isId : LevelPack.id? request.level = some id)
    (isLevel : LevelPack.level? request.level = some level) (source : Source) :
    meet request source = source.program.bind (playLevel id level) := by
  simp only [meet, isId, isLevel]
  rfl

/-- A request for a built-in level is met with a text. If the text is no program, this is the
failure, and nothing is printed. If it is a program that can be counted, it is played to its end
without an overflow, and one line is printed, which reports on it. -/
theorem report_builtIn (request : Request) (builtIn : request.level < LevelPack.count)
    (text : String) :
    ∃ id level world session, LevelPack.id? request.level = some id ∧
      LevelPack.level? request.level = some level ∧ World.load level = .ok world ∧
      Session.new id level = .ok session ∧
      ((Json.read? text : Option Program) = none →
        meet request (.text text) = .error (.malformedProgram (Program.fault? text)) ∧
          (report request (.text text)).lines = [] ∧
          (report request (.text text)).failure =
            some (.malformedProgram (Program.fault? text))) ∧
      ∀ program : Program, Json.read? text = some program → program.length < UInt32.size →
        Calm session program ∧ (play session program).session.engine.isRunning = false ∧
          ∃ met line, meet request (.text text) = .ok met ∧ met.lines = [line] ∧
            (report request (.text text)).lines = [line] ∧
            (report request (.text text)).failure = none ∧
            Reports id level world program line := by
  obtain ⟨id, level, world, isId, isLevel, isLoaded, moderate⟩ := exists_builtIn builtIn
  have isFresh := World.fresh_of_load isLoaded
  obtain ⟨session, isNew⟩ : ∃ session, Session.new id level = .ok session := by
    simp [Session.new, isLoaded, bind, Except.bind, pure, Except.pure]
  refine ⟨id, level, world, session, isId, isLevel, isLoaded, isNew, ?_, ?_⟩
  · intro refused
    have failed : meet request (.text text) =
        .error (.malformedProgram (Program.fault? text)) := by
      rw [meet_eq isId isLevel, Source.program, refused]
      rfl
    rw [report, failed]
    exact ⟨rfl, rfl, rfl⟩
  · intro program isProgram countable
    rw [← Program.length_actions] at countable
    have calm : Calm session program := by
      obtain ⟨fresh, isWorld, rfl⟩ := Session.of_new_eq_ok isNew
      obtain rfl : world = fresh := Except.ok.inj (isLoaded.symm.trans isWorld)
      exact calm_of_moderate isFresh moderate rfl (isFresh.playedFrom.reset_eq isFresh) countable
    obtain ⟨idle, line, isLine, reports⟩ := exists_lines_play isFresh isNew isLoaded countable
    obtain ⟨met, played, lines, failure⟩ : ∃ met, meet request (.text text) = .ok met ∧
        met.lines = [line] ∧ met.failure = none := by
      obtain ⟨met, played, lines, failure⟩ := exists_playLevel isNew program
      refine ⟨met, ?_, lines.trans isLine, failure⟩
      rw [meet_eq isId isLevel, Source.program, isProgram]
      exact played
    refine ⟨calm, idle, met, line, played, lines, ?_, ?_, reports⟩
    · rw [report, played]
      exact lines
    · rw [report, played]
      exact failure

/-- A text that breaks off is refused. The same three actions light the lamp of one level, and only
one of the two lamps of another. -/
theorem report_builtIn_firstSteps :
    let request : Request := ⟨0, some "program.json"⟩
    let corner : Request := ⟨3, some "program.json"⟩
    let text := "[\x7b\"op\":\"walk\"\x7d,\x7b\"op\":\"walk\"\x7d,\x7b\"op\":\"light\"\x7d]"
    request.level < LevelPack.count ∧ (Json.read? "[" : Option Program) = none ∧
      (report request (.text "[")).lines = [] ∧
      Json.read? text = some standardProgram ∧ standardProgram.length < UInt32.size ∧
      (report request (.text text)).lines =
        ["Level first-steps solved in 3 instructions: gold"] ∧
      corner.level < LevelPack.count ∧
      (report corner (.text text)).lines =
        ["Level corner not solved: 3 instructions, 1/2 lamps lit"] := by
  intro request corner text
  have builtIn : request.level < LevelPack.count := by decide
  have cornerBuiltIn : corner.level < LevelPack.count := by decide
  have isNone : (Json.read? "[" : Option Program) = none := by decide +kernel
  have isProgram : Json.read? text = some standardProgram := by decide +kernel
  have countable : standardProgram.length < UInt32.size := by decide
  obtain ⟨_, _, _, _, _, _, _, _, refused, -⟩ := report_builtIn request builtIn "["
  refine ⟨builtIn, isNone, (refused isNone).2.1, isProgram, countable, ?solved, cornerBuiltIn,
    ?unsolved⟩
  case solved =>
    obtain ⟨id, level, world, session, isId, isLevel, isLoaded, -, -, reads⟩ :=
      report_builtIn request builtIn text
    obtain ⟨-, -, met, line, -, -, isLine, -, reports⟩ := reads standardProgram isProgram countable
    obtain rfl : "first-steps" = id := Option.some.inj isId
    obtain rfl : LevelPack.firstSteps = level := Option.some.inj isLevel
    have least : IsLeast {count | (world.performAll
        (standardProgram.actions.take count)).isSolved = true} 3 := by
      have loads : World.load LevelPack.firstSteps = .ok _ := rfl
      obtain rfl := Except.ok.inj (loads.symm.trans isLoaded)
      refine ⟨by decide, fun count solved => Nat.le_of_not_lt fun fewer => ?_⟩
      obtain rfl | rfl | rfl : count = 0 ∨ count = 1 ∨ count = 2 := by omega
      all_goals exact absurd solved (by decide)
    rw [isLine, (reports.solved_iff 3).2 least]
    decide
  case unsolved =>
    obtain ⟨id, level, world, session, isId, isLevel, isLoaded, -, -, reads⟩ :=
      report_builtIn corner cornerBuiltIn text
    obtain ⟨-, -, met, line, -, -, isLine, -, reports⟩ := reads standardProgram isProgram countable
    obtain rfl : "corner" = id := Option.some.inj isId
    obtain rfl : LevelPack.corner = level := Option.some.inj isLevel
    have loads : World.load LevelPack.corner = .ok _ := rfl
    obtain rfl := Except.ok.inj (loads.symm.trans isLoaded)
    have isLit := reports.unsolved fun count => by
      rw [List.take_eq_take_min]
      obtain few | few | few | few : min count standardProgram.actions.length = 0 ∨
          min count standardProgram.actions.length = 1 ∨
          min count standardProgram.actions.length = 2 ∨
          min count standardProgram.actions.length = 3 := by
        have : standardProgram.actions.length = 3 := rfl
        omega
      all_goals
        rw [few]
        decide
    rw [isLine, isLit]
    decide

end Headless

end Lamplighter
