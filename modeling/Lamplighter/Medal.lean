/-!
# Medals

A solved level earns a medal by the number of actions that its run took. The book keeps the best
result of each level. Its entries are sorted by level name and no name occurs twice, so that a book
is determined by what it says about each level.
-/

namespace Lamplighter

/-- The medals, from none to the best. -/
inductive Medal where
  | none
  | bronze
  | silver
  | gold
deriving DecidableEq, Repr

namespace Medal

/-- Every medal, from none to the best. -/
def all : List Medal := [none, bronze, silver, gold]

/-- The name of a medal. -/
def name : Medal → String
  | none => "none"
  | bronze => "bronze"
  | silver => "silver"
  | gold => "gold"

/-- The place of a medal; a better medal has a higher one. -/
def rank : Medal → Nat
  | none => 0
  | bronze => 1
  | silver => 2
  | gold => 3

end Medal

/-- The most actions that earn each medal. Nothing makes the limits of better medals lower. -/
structure MedalLimits where
  gold : UInt32
  silver : UInt32
  bronze : UInt32
deriving DecidableEq, Repr

namespace MedalLimits

/-- The limits of a level whose author has not set any. -/
def unset : MedalLimits := ⟨0, 0, 0⟩

/-- The medal of a run that solved a level: the best one whose limit it keeps. -/
def award (limits : MedalLimits) (executed : UInt32) : Medal :=
  if executed ≤ limits.gold then .gold
  else if executed ≤ limits.silver then .silver
  else if executed ≤ limits.bronze then .bronze
  else .none

end MedalLimits

/-- The result of a run: its medal and the number of actions it took. -/
structure MedalEntry where
  medal : Medal
  executed : UInt32
deriving DecidableEq, Repr

/-- A result is better than another if its medal is, or if the medal is the same and the run took
fewer actions. -/
def MedalEntry.Better (challenger holder : MedalEntry) : Prop :=
  holder.medal.rank < challenger.medal.rank ∨
    (challenger.medal = holder.medal ∧ challenger.executed < holder.executed)

instance (challenger holder : MedalEntry) : Decidable (challenger.Better holder) :=
  inferInstanceAs (Decidable (_ ∨ _))

/-- The best result of each level that has one. -/
structure MedalBook where
  entries : List (String × MedalEntry)
  sorted : entries.Pairwise (·.1 < ·.1)

instance : DecidableEq MedalBook := fun left right =>
  decidable_of_iff (left.entries = right.entries)
    ⟨fun same => by cases left; cases right; cases same; rfl, fun same => same ▸ rfl⟩

namespace MedalBook

/-- The book without any result. -/
def empty : MedalBook := ⟨[], .nil⟩

/-- The result of a level. -/
def find? (book : MedalBook) (level : String) : Option MedalEntry := book.entries.lookup level

/-- Put a result into sorted entries, in place of the result that the level had. -/
def insertEntry (level : String) (entry : MedalEntry) :
    List (String × MedalEntry) → List (String × MedalEntry)
  | [] => [(level, entry)]
  | (key, held) :: rest =>
      if level < key then (level, entry) :: (key, held) :: rest
      else if level = key then (level, entry) :: rest
      else (key, held) :: insertEntry level entry rest

/-- The names after an insertion are the old names and the inserted one. -/
theorem mem_insertEntry {level : String} {entry : MedalEntry} {entries : List (String × MedalEntry)}
    {item : String × MedalEntry} (member : item ∈ insertEntry level entry entries) :
    item = (level, entry) ∨ item ∈ entries := by
  induction entries with
  | nil => simpa [insertEntry] using member
  | cons first rest inductionHypothesis =>
      obtain ⟨key, held⟩ := first
      simp only [insertEntry] at member
      split at member
      · simpa using member
      · split at member
        · rcases List.mem_cons.1 member with here | there
          · exact .inl here
          · exact .inr (List.mem_cons_of_mem _ there)
        · rcases List.mem_cons.1 member with here | there
          · exact .inr (here ▸ List.mem_cons_self)
          · rcases inductionHypothesis there with new | old
            · exact .inl new
            · exact .inr (List.mem_cons_of_mem _ old)

/-- An insertion keeps the entries sorted. -/
theorem insertEntry_sorted {level : String} {entry : MedalEntry}
    {entries : List (String × MedalEntry)} (sorted : entries.Pairwise (·.1 < ·.1)) :
    (insertEntry level entry entries).Pairwise (·.1 < ·.1) := by
  induction entries with
  | nil => simp [insertEntry]
  | cons first rest inductionHypothesis =>
      obtain ⟨key, held⟩ := first
      obtain ⟨above, sortedRest⟩ := List.pairwise_cons.1 sorted
      simp only [insertEntry]
      split
      next before =>
        refine List.pairwise_cons.2 ⟨?_, sorted⟩
        intro item member
        rcases List.mem_cons.1 member with rfl | later
        · exact before
        · exact String.lt_trans before (above item later)
      next notBefore =>
        split
        next same => exact List.pairwise_cons.2 ⟨same ▸ above, sortedRest⟩
        next different =>
          refine List.pairwise_cons.2 ⟨?_, inductionHypothesis sortedRest⟩
          intro item member
          rcases mem_insertEntry member with rfl | later
          · refine String.not_le.1 fun notAfter => different ?_
            exact String.le_antisymm notAfter (String.not_lt.1 notBefore)
          · exact above item later

/-- The book in which a level has the given result. -/
def insert (book : MedalBook) (level : String) (entry : MedalEntry) : MedalBook :=
  ⟨insertEntry level entry book.entries, insertEntry_sorted book.sorted⟩

/-- Whether a result would be written into the book. -/
def improves (book : MedalBook) (level : String) (entry : MedalEntry) : Bool :=
  match book.find? level with
  | none => true
  | some holder => decide (entry.Better holder)

/-- What is told of a result that is recorded: the result itself, if it is written into the book. -/
def newBest? (book : MedalBook) (level : String) (entry : MedalEntry) : Option MedalEntry :=
  if book.improves level entry then some entry else none

/-- Write a result into the book if it improves on the result of its level. -/
def record (book : MedalBook) (level : String) (entry : MedalEntry) : MedalBook :=
  if book.improves level entry then book.insert level entry else book

/-- The best medal of a level. -/
def best (book : MedalBook) (level : String) : Medal :=
  match book.find? level with
  | none => .none
  | some entry => entry.medal

/-- The number of levels with a gold medal. -/
def goldCount (book : MedalBook) : Nat :=
  book.entries.countP fun item => item.2.medal = .gold

/-- Whether the book has no result. -/
def isEmpty (book : MedalBook) : Bool := book.entries.isEmpty

end MedalBook

end Lamplighter
