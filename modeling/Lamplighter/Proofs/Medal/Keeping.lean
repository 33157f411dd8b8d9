import Lamplighter.Medal

/-!
# What a book of medals keeps

Results of one level can always be compared, and a book keeps the better of two. So a book in which
a result has been recorded holds one that is as good, and nothing that a book holds gets lost
unless for something better.
-/

namespace Lamplighter

/-- Medals of the same rank are the same. -/
theorem Medal.eq_of_rank_eq {left right : Medal} (same : left.rank = right.rank) :
    left = right := by
  cases left <;> cases right <;> first | rfl | cases same

namespace MedalEntry

/-- A result is as good as another if it is the same or a better one. -/
def AsGood (entry held : MedalEntry) : Prop := entry = held ∨ entry.Better held

theorem AsGood.refl (entry : MedalEntry) : entry.AsGood entry := .inl rfl

/-- One result is better than a second one, or the second one is as good. -/
theorem asGood_of_not_better {entry held : MedalEntry} (notBetter : ¬ entry.Better held) :
    held.AsGood entry := by
  obtain ⟨medal, executed⟩ := entry
  obtain ⟨heldMedal, heldExecuted⟩ := held
  simp only [Better, not_or, Nat.not_lt, not_and, UInt32.not_lt] at notBetter
  obtain ⟨rank, fewer⟩ := notBetter
  rcases Nat.lt_or_eq_of_le rank with lower | same
  · exact .inr (.inl lower)
  · obtain rfl := Medal.eq_of_rank_eq same
    rcases UInt32.lt_or_eq_of_le (fewer rfl) with less | equal
    · exact .inr (.inr ⟨rfl, less⟩)
    · exact .inl (by rw [equal])

/-- A better result has no lower medal. -/
theorem AsGood.rank_le {entry held : MedalEntry} (asGood : entry.AsGood held) :
    held.medal.rank ≤ entry.medal.rank := by
  rcases asGood with rfl | higher | ⟨same, _⟩
  · exact Nat.le_refl _
  · exact Nat.le_of_lt higher
  · exact Nat.le_of_eq (congrArg Medal.rank same.symm)

theorem AsGood.trans {first second third : MedalEntry} (asGood : first.AsGood second)
    (better : second.AsGood third) : first.AsGood third := by
  rcases asGood with rfl | higher | ⟨same, fewer⟩
  · exact better
  · exact .inr (.inl (Nat.lt_of_le_of_lt better.rank_le higher))
  · rcases better with rfl | higher | ⟨sameStill, fewerStill⟩
    · exact .inr (.inr ⟨same, fewer⟩)
    · exact .inr (.inl (same ▸ higher))
    · exact .inr (.inr ⟨same.trans sameStill, UInt32.lt_trans fewer fewerStill⟩)

end MedalEntry

namespace MedalBook

/-! ## Entries -/

/-- The first entry is the one of its level, and the others are found behind it. -/
theorem lookup_cons (key other : String) (held : MedalEntry) (rest : List (String × MedalEntry)) :
    ((key, held) :: rest).lookup other =
      if other = key then some held else rest.lookup other := by
  by_cases same : other = key
  · simp [same]
  · rw [List.lookup_cons, beq_false_of_ne same, if_neg same]

/-- An insertion changes what is held for its level, and nothing else. -/
theorem lookup_insertEntry (level other : String) (entry : MedalEntry)
    (entries : List (String × MedalEntry)) :
    (insertEntry level entry entries).lookup other =
      if other = level then some entry else entries.lookup other := by
  induction entries with
  | nil => exact lookup_cons level other entry []
  | cons first rest inductionHypothesis =>
      obtain ⟨key, held⟩ := first
      simp only [insertEntry]
      split
      next => rw [lookup_cons]
      next =>
        split
        next isKey =>
          subst isKey
          by_cases same : other = level <;> simp [lookup_cons, same]
        next different =>
          rw [lookup_cons, lookup_cons, inductionHypothesis]
          by_cases isKey : other = key
          · simp [isKey, Ne.symm different]
          · simp [isKey]

/-- An insertion changes the result of its level, and no other. -/
theorem find?_insert (book : MedalBook) (level other : String) (entry : MedalEntry) :
    (book.insert level entry).find? other =
      if other = level then some entry else book.find? other :=
  lookup_insertEntry level other entry book.entries

/-! ## Books -/

/-- One book holds a result that is as good for every result that the other one holds. -/
def KeepsUp (book earlier : MedalBook) : Prop :=
  ∀ level held, earlier.find? level = some held →
    ∃ entry, book.find? level = some entry ∧ entry.AsGood held

theorem KeepsUp.refl (book : MedalBook) : book.KeepsUp book :=
  fun _ held found => ⟨held, found, .refl held⟩

theorem KeepsUp.trans {first second third : MedalBook} (keepsUp : first.KeepsUp second)
    (further : second.KeepsUp third) : first.KeepsUp third := by
  intro level held found
  obtain ⟨entry, foundEntry, asGood⟩ := further level held found
  obtain ⟨last, foundLast, asGoodStill⟩ := keepsUp level entry foundEntry
  exact ⟨last, foundLast, asGoodStill.trans asGood⟩

/-- Recording a result makes nothing in a book worse. -/
theorem keepsUp_record (book : MedalBook) (level : String) (entry : MedalEntry) :
    (book.record level entry).KeepsUp book := by
  intro other held found
  unfold record
  split
  next improves =>
    rw [find?_insert]
    by_cases same : other = level
    · subst same
      simp only [MedalBook.improves, found, decide_eq_true_eq] at improves
      exact ⟨entry, by simp, .inr improves⟩
    · exact ⟨held, by simp [same, found], .refl held⟩
  next => exact ⟨held, found, .refl held⟩

/-- A recorded result is held, unless one that is as good was held before. -/
theorem find?_record (book : MedalBook) (level : String) (entry : MedalEntry) :
    ∃ held, (book.record level entry).find? level = some held ∧ held.AsGood entry := by
  unfold record
  split
  next => exact ⟨entry, by simp [find?_insert], .refl entry⟩
  next kept =>
    unfold improves at kept
    split at kept
    next => exact absurd rfl kept
    next holder found =>
      exact ⟨holder, found, MedalEntry.asGood_of_not_better (by simpa using kept)⟩

/-- After a result has been recorded, its level has no lower medal. -/
theorem rank_le_best_record (book : MedalBook) (level : String) (entry : MedalEntry) :
    entry.medal.rank ≤ ((book.record level entry).best level).rank := by
  obtain ⟨held, found, asGood⟩ := book.find?_record level entry
  simpa [best, found] using asGood.rank_le

end MedalBook

end Lamplighter
