import Lamplighter.Json.Quotation

/-!
# Quoted texts can be seen

A table of characters is looked up by walking, which is only right because the table is in order:
`CharRange.cover_eq_true_iff`. So a character is shown as it is if no range of any of the tables has
it, and whatever a quoted text is made of is shown: `Json.isShown_of_mem_quoted`.
-/

namespace Lamplighter

namespace Unicode.CharRange

/-- The first range of a table in order does not end before it starts. -/
theorem first_le_last_of_ascend {range : CharRange} {rest : List CharRange}
    (inOrder : ascend (range :: rest) = true) : range.first ≤ range.last := by
  cases rest with
  | nil => exact of_decide_eq_true inOrder
  | cons next rest =>
      simp only [ascend, Bool.and_eq_true, decide_eq_true_eq] at inOrder
      exact inOrder.1.1

/-- What comes behind the first range of a table in order is in order too, and starts behind it. -/
theorem lt_first_of_ascend {range : CharRange} {rest : List CharRange}
    (inOrder : ascend (range :: rest) = true) :
    ascend rest = true ∧ ∀ later ∈ rest, range.last < later.first := by
  induction rest generalizing range with
  | nil => exact ⟨rfl, nofun⟩
  | cons next rest inductionHypothesis =>
      simp only [ascend, Bool.and_eq_true, decide_eq_true_eq] at inOrder
      obtain ⟨⟨_, apart⟩, restInOrder⟩ := inOrder
      refine ⟨restInOrder, ?_⟩
      have proper := first_le_last_of_ascend restInOrder
      intro later member
      cases member with
      | head => omega
      | tail _ member =>
          have behind := (inductionHypothesis restInOrder).2 later member
          omega

/-- A table in order has the characters of its ranges. -/
theorem cover_eq_true_iff {table : List CharRange} (inOrder : ascend table = true) (char : Char) :
    cover table char = true ↔
      ∃ range ∈ table, range.first ≤ char.toNat ∧ char.toNat ≤ range.last := by
  induction table with
  | nil => simp [cover]
  | cons range rest inductionHypothesis =>
      obtain ⟨restInOrder, behind⟩ := lt_first_of_ascend inOrder
      simp only [cover, List.mem_cons, exists_eq_or_imp]
      split
      next passed =>
        have isNot : ¬ (range.first ≤ char.toNat ∧ char.toNat ≤ range.last) := by omega
        rw [inductionHypothesis restInOrder, or_iff_right isNot]
      next reached =>
        -- The walk stops here: every later range starts behind the character.
        rw [decide_eq_true_iff]
        constructor
        · intro starts
          exact .inl ⟨starts, Nat.le_of_not_lt reached⟩
        · rintro (⟨starts, -⟩ | ⟨later, member, starts, -⟩)
          · exact starts
          · have := behind later member
            omega

end Unicode.CharRange

namespace Json

open Unicode

/-- A character stands for itself if it has a shape of its own and a meaning: if no range of any of
the tables has it. -/
theorem isShown_iff (char : Char) :
    isShown char = true ↔ ∀ range ∈ invisible ++ combining ++ unassigned,
      ¬ (range.first ≤ char.toNat ∧ char.toNat ≤ range.last) := by
  rw [isShown, Bool.not_eq_true', ← Bool.not_eq_true, Bool.or_eq_true, Bool.or_eq_true,
    CharRange.cover_eq_true_iff invisible_ascend, CharRange.cover_eq_true_iff combining_ascend,
    CharRange.cover_eq_true_iff unassigned_ascend]
  simp only [List.mem_append, not_or, not_exists, or_imp, forall_and, not_and]

/-- Numbers are written with characters that are shown. -/
theorem isShown_of_mem_toDigits {value : Nat} {char : Char} (member : char ∈ Nat.toDigits 16 value) :
    isShown char = true := by
  have digits : ∀ digit < 16, isShown (Nat.digitChar digit) = true := by decide +kernel
  induction value using Nat.strongRecOn with
  | ind value inductionHypothesis =>
      rw [Nat.toDigits_eq_if (by decide)] at member
      split at member
      next single =>
        rw [List.mem_singleton.1 member]
        exact digits value single
      next more =>
        obtain front | last := List.mem_append.1 member
        · exact inductionHypothesis (value / 16) (by omega) front
        · rw [List.mem_singleton.1 last]
          exact digits (value % 16) (Nat.mod_lt value (by decide))

/-- Whatever a character is, all that is written for it is shown. -/
theorem isShown_of_mem_quotedChar {char part : Char} (member : part ∈ quotedChar char) :
    isShown part = true := by
  by_cases short : char ∈ ['\x00', '\t', '\n', '\r', '"', '\\']
  · have shown : ['\x00', '\t', '\n', '\r', '"', '\\'].all
        (fun char => (quotedChar char).all isShown) = true := by decide +kernel
    exact List.all_eq_true.1 (List.all_eq_true.1 shown char short) part member
  · simp only [List.mem_cons, List.not_mem_nil, or_false, not_or] at short
    simp only [quotedChar, short, if_false] at member
    split at member
    next shown => rwa [List.mem_singleton.1 member]
    next =>
      have marks : ['\\', 'u', '\x7b', '\x7d'].all isShown = true := by decide +kernel
      rw [List.all_eq_true] at marks
      obtain inFront | last := List.mem_append.1 member
      · obtain escape | digit := List.mem_append.1 inFront
        · exact marks part (List.mem_append_left ['\x7d'] escape)
        · exact isShown_of_mem_toDigits digit
      · exact marks part (List.mem_append_right ['\\', 'u', '\x7b'] last)

/-- Every character of a quoted text can be seen, whatever the text is. -/
theorem isShown_of_mem_quoted {text : String} {part : Char}
    (member : part ∈ (quoted text).toList) : isShown part = true := by
  have quote : isShown '"' = true := by decide +kernel
  rw [quoted, String.toList_ofList, List.cons_append, List.mem_cons, List.mem_append,
    List.mem_singleton, List.mem_flatMap] at member
  rcases member with rfl | ⟨char, -, isPart⟩ | rfl
  · exact quote
  · exact isShown_of_mem_quotedChar isPart
  · exact quote

end Json

end Lamplighter
