import Lamplighter.Proofs.Medal.Keeping

/-!
# A book sums up what has been recorded

Whatever is recorded, and in whatever order, a book holds the best result of each level: nothing
else of the history is left in it. `MedalBook.SumsUp` says so of a book and a history; recording a
further result keeps it up, and only one book sums up a given set of results. Where all results of a
level have been given their medals by the same limits, a run with fewer actions has no lower medal,
so that the best result is that of the shortest run: `MedalBook.recordAll_sumsUp`.
-/

namespace Lamplighter

/-! ## Limits -/

/-- A run that takes no more actions has no lower medal, in whatever order the limits are. -/
theorem MedalLimits.rank_award_le (limits : MedalLimits) {fewer more : UInt32}
    (noMore : fewer ≤ more) : (limits.award more).rank ≤ (limits.award fewer).rank := by
  have keeps {limit : UInt32} (kept : more ≤ limit) : fewer ≤ limit :=
    UInt32.le_trans noMore kept
  unfold award
  split
  next gold => simp only [keeps gold, if_true, Nat.le_refl]
  next =>
    split
    next silver =>
      rw [if_pos (keeps silver)]
      split <;> decide
    next =>
      split
      next bronze =>
        rw [if_pos (keeps bronze)]
        repeat' split
        all_goals decide
      next => exact Nat.zero_le _

/-! ## Results -/

namespace MedalEntry

/-- No result is better than one that is as good. -/
theorem AsGood.not_better {entry held : MedalEntry} (asGood : entry.AsGood held) :
    ¬ held.Better entry := by
  rintro (higher | ⟨same, fewer⟩)
  · exact Nat.not_lt.2 asGood.rank_le higher
  · rcases asGood with rfl | higher | ⟨_, fewerStill⟩
    · exact UInt32.lt_irrefl _ fewer
    · rw [same] at higher
      exact Nat.lt_irrefl _ higher
    · exact UInt32.lt_asymm fewer fewerStill

/-- Results that are as good as each other are the same. -/
theorem AsGood.antisymm {entry held : MedalEntry} (asGood : entry.AsGood held)
    (conversely : held.AsGood entry) : entry = held :=
  asGood.resolve_right conversely.not_better

end MedalEntry

namespace MedalBook

/-! ## Books are told apart by what is found in them -/

/-- The entries of a book are what is found in it. -/
theorem mem_entries_iff {book : MedalBook} {level : String} {entry : MedalEntry} :
    (level, entry) ∈ book.entries ↔ book.find? level = some entry := by
  rw [find?, List.lookup_eq_some_iff]
  constructor
  · intro member
    obtain ⟨before, after, divided⟩ := List.append_of_mem member
    refine ⟨before, after, divided, fun item earlier => ?_⟩
    have sorted := book.sorted
    rw [divided] at sorted
    have below := (List.pairwise_append.1 sorted).2.2 item earlier _ List.mem_cons_self
    exact bne_iff_ne.2 (String.ne_of_lt below).symm
  · rintro ⟨before, after, divided, _⟩
    rw [divided]
    exact List.mem_append_right _ List.mem_cons_self

/-- A book holds no entry twice. -/
theorem nodup_entries (book : MedalBook) : book.entries.Nodup :=
  book.sorted.imp fun below same => String.ne_of_lt below (congrArg Prod.fst same)

/-- Books in which the same results are found are the same. -/
theorem ext_find? {left right : MedalBook} (same : ∀ level, left.find? level = right.find? level) :
    left = right := by
  have entries : left.entries.Perm right.entries := by
    rw [List.perm_ext_iff_of_nodup left.nodup_entries right.nodup_entries]
    rintro ⟨level, entry⟩
    rw [mem_entries_iff, mem_entries_iff, same]
  have equal : left.entries = right.entries :=
    entries.eq_of_pairwise (fun _ _ _ _ below above => absurd above (String.lt_asymm below))
      left.sorted right.sorted
  obtain ⟨entries, sorted⟩ := left
  subst equal
  rfl

/-! ## Histories -/

/-- The book after some results have been recorded, one after the other. -/
def recordAll (book : MedalBook) (results : List (String × MedalEntry)) : MedalBook :=
  results.foldl (fun current (level, entry) => current.record level entry) book

/-- A book sums up some results: it holds the best of each level. -/
structure SumsUp (book : MedalBook) (results : List (String × MedalEntry)) : Prop where
  recorded : ∀ level held, book.find? level = some held → (level, held) ∈ results
  best : ∀ level entry, (level, entry) ∈ results →
    ∃ held, book.find? level = some held ∧ held.AsGood entry

/-- The empty book sums up nothing. -/
theorem sumsUp_empty : empty.SumsUp [] where
  recorded _ _ found := absurd found.symm (Option.some_ne_none _)
  best _ _ member := absurd member List.not_mem_nil

/-- What is found after a result has been recorded is this result, or was found before. -/
theorem of_find?_record {book : MedalBook} {level other : String} {entry held : MedalEntry}
    (found : (book.record level entry).find? other = some held) :
    (other, held) = (level, entry) ∨ book.find? other = some held := by
  unfold record at found
  split at found
  next =>
    rw [find?_insert] at found
    split at found
    next same => exact .inl (by rw [same, Option.some.inj found])
    next => exact .inr found
  next => exact .inr found

section SumsUp

variable {book : MedalBook} {results : List (String × MedalEntry)} (sumsUp : book.SumsUp results)
include sumsUp

/-- A book into which one more result is recorded sums up this one too. -/
theorem SumsUp.record (level : String) (entry : MedalEntry) :
    (book.record level entry).SumsUp (results ++ [(level, entry)]) where
  recorded other held found := by
    rcases of_find?_record found with same | before
    · exact List.mem_append_right _ (List.mem_singleton.2 same)
    · exact List.mem_append_left _ (sumsUp.recorded other held before)
  best other candidate member := by
    rcases List.mem_append.1 member with before | last
    · obtain ⟨held, found, asGood⟩ := sumsUp.best other candidate before
      obtain ⟨still, foundStill, asGoodStill⟩ := keepsUp_record book level entry other held found
      exact ⟨still, foundStill, asGoodStill.trans asGood⟩
    · obtain ⟨rfl, rfl⟩ := Prod.mk.inj (List.mem_singleton.1 last)
      exact book.find?_record other candidate

/-- So does a book into which any number of results are recorded. -/
theorem SumsUp.recordAll (further : List (String × MedalEntry)) :
    (book.recordAll further).SumsUp (results ++ further) := by
  induction further generalizing book results with
  | nil =>
      rw [List.append_nil]
      exact sumsUp
  | cons first rest inductionHypothesis =>
      rw [← List.singleton_append, ← List.append_assoc]
      exact inductionHypothesis (sumsUp.record first.1 first.2)

/-- The order of the results does not matter, nor how often each of them was recorded. -/
theorem SumsUp.of_mem_iff {other : List (String × MedalEntry)}
    (same : ∀ item, item ∈ results ↔ item ∈ other) : book.SumsUp other where
  recorded level held found := (same _).1 (sumsUp.recorded level held found)
  best level entry member := sumsUp.best level entry ((same _).2 member)

/-- What is found for a level is the best of its results. -/
theorem SumsUp.find?_eq_some_iff {level : String} {held : MedalEntry} :
    book.find? level = some held ↔
      (level, held) ∈ results ∧ ∀ entry, (level, entry) ∈ results → held.AsGood entry := by
  constructor
  · intro found
    refine ⟨sumsUp.recorded level held found, fun entry member => ?_⟩
    obtain ⟨same, foundToo, asGood⟩ := sumsUp.best level entry member
    obtain rfl := Option.some.inj (found.symm.trans foundToo)
    exact asGood
  · rintro ⟨member, best⟩
    obtain ⟨other, found, asGood⟩ := sumsUp.best level held member
    rw [found, asGood.antisymm (best other (sumsUp.recorded level other found))]

/-- Nothing is found for a level that has no result. -/
theorem SumsUp.find?_eq_none_iff {level : String} :
    book.find? level = none ↔ ∀ entry, (level, entry) ∉ results := by
  constructor
  · intro nothing entry member
    obtain ⟨held, found, _⟩ := sumsUp.best level entry member
    exact absurd (nothing.symm.trans found) (Option.some_ne_none held).symm
  · intro nowhere
    rw [Option.eq_none_iff_forall_ne_some]
    exact fun held found => nowhere held (sumsUp.recorded level held found)

/-- One book only sums up the results. -/
theorem SumsUp.eq {other : MedalBook} (sumsUpToo : other.SumsUp results) : other = book := by
  refine ext_find? fun level => Option.ext fun held => ?_
  rw [sumsUp.find?_eq_some_iff, sumsUpToo.find?_eq_some_iff]

/-- A result that has been recorded is not written again. -/
theorem SumsUp.improves_eq_false {level : String} {entry : MedalEntry}
    (member : (level, entry) ∈ results) : book.improves level entry = false := by
  obtain ⟨held, found, asGood⟩ := sumsUp.best level entry member
  simp [improves, found, asGood.not_better]

end SumsUp

/-! ## Results that limits have given their medals -/

/-- How many actions the recorded runs of a level took. -/
def executedCounts (results : List (String × MedalEntry)) (level : String) : List UInt32 :=
  (results.filter fun item => item.1 = level).map fun item => item.2.executed

theorem mem_executedCounts_iff {results : List (String × MedalEntry)} {level : String}
    {count : UInt32} :
    count ∈ executedCounts results level ↔
      ∃ entry, (level, entry) ∈ results ∧ entry.executed = count := by
  rw [executedCounts, List.mem_map]
  constructor
  · rintro ⟨⟨other, entry⟩, member, rfl⟩
    obtain ⟨isResult, same⟩ := List.mem_filter.1 member
    obtain rfl : other = level := of_decide_eq_true same
    exact ⟨entry, isResult, rfl⟩
  · rintro ⟨entry, member, rfl⟩
    exact ⟨(level, entry), List.mem_filter.2 ⟨member, decide_eq_true rfl⟩, rfl⟩

/-- With medals from the same limits, a result of fewer actions is as good as any. -/
theorem asGood_of_awarded {limits : MedalLimits} {fewer more : UInt32} (noMore : fewer ≤ more) :
    MedalEntry.AsGood ⟨limits.award fewer, fewer⟩ ⟨limits.award more, more⟩ := by
  rcases Nat.lt_or_eq_of_le (limits.rank_award_le noMore) with lower | same
  · exact .inr (.inl lower)
  · have medals := Medal.eq_of_rank_eq same
    rcases UInt32.lt_or_eq_of_le noMore with less | equal
    · exact .inr (.inr ⟨medals.symm, less⟩)
    · exact .inl (by rw [equal])

/-- Where all results of a level have their medals from the same limits, the shortest run counts. -/
theorem SumsUp.find?_of_awarded {book : MedalBook} {results : List (String × MedalEntry)}
    (sumsUp : book.SumsUp results) {level : String} {limits : MedalLimits}
    (awarded : ∀ entry, (level, entry) ∈ results → entry.medal = limits.award entry.executed) :
    book.find? level =
      (executedCounts results level).min?.map fun least => ⟨limits.award least, least⟩ := by
  cases shortest : (executedCounts results level).min? with
  | none =>
      rw [Option.map_none, sumsUp.find?_eq_none_iff]
      intro entry member
      have counted := mem_executedCounts_iff.2 ⟨entry, member, rfl⟩
      rw [List.min?_eq_none_iff.1 shortest] at counted
      exact absurd counted List.not_mem_nil
  | some least =>
      obtain ⟨counted, noMore⟩ := List.min?_eq_some_iff.1 shortest
      obtain ⟨entry, member, rfl⟩ := mem_executedCounts_iff.1 counted
      have result {entry : MedalEntry} (member : (level, entry) ∈ results) :
          ⟨limits.award entry.executed, entry.executed⟩ = entry := by
        rw [← awarded entry member]
      rw [Option.map_some, result member, sumsUp.find?_eq_some_iff]
      refine ⟨member, fun other memberToo => ?_⟩
      rw [← result member, ← result memberToo]
      exact asGood_of_awarded (noMore _ (mem_executedCounts_iff.2 ⟨other, memberToo, rfl⟩))

/-- Whatever is recorded into an empty book, for whatever levels: what is found for a level is the
best of its results, and nothing where it has none. The order of the calls does not matter, and a
result that was recorded before is refused and changes nothing. If all results of a level have their
medals from the same limits, in whatever order these are, its entry is that of the shortest run. -/
theorem recordAll_sumsUp (results : List (String × MedalEntry)) :
    let book := empty.recordAll results
    (∀ level held, book.find? level = some held ↔
        (level, held) ∈ results ∧ ∀ entry, (level, entry) ∈ results → held.AsGood entry) ∧
      (∀ level, book.find? level = none ↔ ∀ entry, (level, entry) ∉ results) ∧
      (∀ other, results.Perm other → empty.recordAll other = book) ∧
      (∀ level entry, (level, entry) ∈ results →
        book.newBest? level entry = none ∧ book.record level entry = book) ∧
      ∀ level (limits : MedalLimits),
        (∀ entry, (level, entry) ∈ results → entry.medal = limits.award entry.executed) →
          book.find? level =
            (executedCounts results level).min?.map fun least => ⟨limits.award least, least⟩ := by
  have all (calls : List (String × MedalEntry)) : (empty.recordAll calls).SumsUp calls :=
    sumsUp_empty.recordAll calls
  intro book
  have sumsUp : book.SumsUp results := all results
  refine ⟨fun level held => sumsUp.find?_eq_some_iff, fun level => sumsUp.find?_eq_none_iff,
    fun other reordered => ?_, fun level entry member => ?_,
    fun level limits awarded => sumsUp.find?_of_awarded awarded⟩
  · exact sumsUp.eq ((all other).of_mem_iff fun item => reordered.mem_iff.symm)
  · have kept := sumsUp.improves_eq_false member
    constructor
    · simp [newBest?, kept]
    · simp [MedalBook.record, kept]

/-- Attempts at two levels, in turn. -/
def attempts : List (String × MedalEntry) :=
  [("corner", ⟨.none, 11⟩), ("steps-up", ⟨.bronze, 4⟩), ("corner", ⟨.gold, 9⟩),
    ("steps-up", ⟨.silver, 30⟩), ("corner", ⟨.none, 10⟩)]

/-- The limits of one level are the wrong way round, and the shorter run of the other one has the
lower medal. -/
theorem recordAll_sumsUp_attempts :
    let book := empty.recordAll attempts
    let limits : MedalLimits := ⟨9, 7, 5⟩
    (∀ entry, ("corner", entry) ∈ attempts → entry.medal = limits.award entry.executed) ∧
      book.find? "corner" = some ⟨.gold, 9⟩ ∧ book.find? "steps-up" = some ⟨.silver, 30⟩ ∧
      book.find? "long-road" = none ∧ empty.recordAll attempts.reverse = book ∧
      book.newBest? "steps-up" ⟨.bronze, 4⟩ = none ∧
      book.record "steps-up" ⟨.bronze, 4⟩ = book := by
  intro book limits
  obtain ⟨best, nothing, anyOrder, again, shortest⟩ := recordAll_sumsUp attempts
  have corner : ∀ entry, ("corner", entry) ∈ attempts →
      entry.medal = limits.award entry.executed := by
    intro entry member
    have isAttempt : entry = ⟨.none, 11⟩ ∨ entry = ⟨.gold, 9⟩ ∨ entry = ⟨.none, 10⟩ := by
      simpa [attempts] using member
    rcases isAttempt with rfl | rfl | rfl <;> decide
  have counts : (executedCounts attempts "corner").min? = some 9 := by decide
  refine ⟨corner, ?_, ?_, ?_, anyOrder _ (List.reverse_perm attempts).symm,
    again "steps-up" ⟨.bronze, 4⟩ (by decide)⟩
  · have found := shortest "corner" limits corner
    rw [counts] at found
    exact found
  · refine (best "steps-up" _).2 ⟨by decide, fun entry member => ?_⟩
    have isAttempt : entry = ⟨.bronze, 4⟩ ∨ entry = ⟨.silver, 30⟩ := by
      simpa [attempts] using member
    rcases isAttempt with rfl | rfl
    · exact .inr (.inl (by decide))
    · exact .refl _
  · exact (nothing "long-road").2 fun entry member => by simp [attempts] at member

end MedalBook

end Lamplighter
