import Mathlib.Algebra.Group.Nat.Defs
import Mathlib.Data.List.Basic
import Mathlib.Order.Basic

/-!
# Texts in the order of their bytes

Texts are compared character by character. `Utf8.bytes_lt_iff`: comparing their bytes in UTF-8 comes
to the same. The first byte of a character tells how many follow, and it grows with that number and
with the leading digits of the character; the bytes that follow hold the other digits, in base 64.
So two characters differ within both of their encodings, and the lower one is below there.
-/

namespace Lamplighter.Utf8

/-- The bytes of a text in UTF-8. -/
def bytes (text : String) : List UInt8 := text.toUTF8.data.toList

/-! ## The bytes of a character -/

/-- How many bytes follow the first one of a character. -/
def followerCount (code : Nat) : Nat :=
  if code ≤ 0x7f then 0 else if code ≤ 0x7ff then 1 else if code ≤ 0xffff then 2 else 3

/-- The first byte of a character. -/
def leader (code : Nat) : Nat :=
  if code ≤ 0x7f then code
  else if code ≤ 0x7ff then code / 64 + 0xc0
  else if code ≤ 0xffff then code / 4096 + 0xe0
  else code / 262144 + 0xf0

/-- The bytes that follow the first one: the last digits of a character in base 64. -/
def followers (code : Nat) : (count : Nat) → List UInt8
  | 0 => []
  | count + 1 => UInt8.ofNat (code / 64 ^ count % 64 + 0x80) :: followers code count

/-- There are no characters above the last plane. -/
theorem toNat_lt (char : Char) : char.toNat < 0x110000 := by
  have valid : char.toNat.isValidChar := char.valid
  rcases valid with low | high <;> omega

/-- A character is encoded by its first byte and those that follow. -/
theorem utf8EncodeChar_eq (char : Char) :
    String.utf8EncodeChar char =
      UInt8.ofNat (leader char.toNat) :: followers char.toNat (followerCount char.toNat) := by
  have bound := toNat_lt char
  unfold String.utf8EncodeChar leader followerCount
  by_cases one : char.toNat ≤ 0x7f
  · simp [one, followers]
  by_cases two : char.toNat ≤ 0x7ff
  · have front : char.toNat / 64 % 32 = char.toNat / 64 := Nat.mod_eq_of_lt (by omega)
    simp [one, two, followers, front]
  by_cases three : char.toNat ≤ 0xffff
  · have front : char.toNat / 4096 % 16 = char.toNat / 4096 := Nat.mod_eq_of_lt (by omega)
    simp [one, two, three, followers, front]
  · have front : char.toNat / 262144 % 8 = char.toNat / 262144 := Nat.mod_eq_of_lt (by omega)
    simp [one, two, three, followers, front]

/-- The first byte of a character is a byte. -/
theorem leader_lt {code : Nat} (bound : code < 0x110000) : leader code < UInt8.size := by
  unfold leader UInt8.size
  split_ifs <;> omega

/-- Of two characters the lower one has a lower first byte, or as many bytes follow it and the
leading digits are the same. -/
theorem leader_lt_or {low high : Nat} (lower : low < high) :
    leader low < leader high ∨
      (leader low = leader high ∧ followerCount low = followerCount high ∧
        low / 64 ^ followerCount low = high / 64 ^ followerCount low) := by
  unfold leader followerCount
  split_ifs <;> simp <;> omega

/-! ## Differences -/

/-- One list is below another at the first place where they differ, and neither ends before. -/
inductive Below : List UInt8 → List UInt8 → Prop where
  | here {low high : UInt8} (lower : low < high) (left right : List UInt8) :
      Below (low :: left) (high :: right)
  | later {left right : List UInt8} (byte : UInt8) (rest : Below left right) :
      Below (byte :: left) (byte :: right)

/-- Whatever stands behind them, one list stays below the other. -/
theorem Below.append_lt {left right : List UInt8} (below : Below left right)
    (behindLeft behindRight : List UInt8) : left ++ behindLeft < right ++ behindRight := by
  induction below with
  | here lower left right => exact List.cons_lt_cons_iff.2 (.inl lower)
  | later byte rest inductionHypothesis =>
      exact List.cons_lt_cons_iff.2 (.inr ⟨rfl, inductionHypothesis⟩)

/-- Bytes are ordered as the numbers that they hold. -/
theorem ofNat_lt_ofNat {low high : Nat} (lower : low < high) (fits : high < UInt8.size) :
    UInt8.ofNat low < UInt8.ofNat high := by
  rw [UInt8.lt_iff_toNat_lt, UInt8.toNat_ofNat_of_lt' (Nat.lt_trans lower fits),
    UInt8.toNat_ofNat_of_lt' fits]
  exact lower

/-- Where the leading digits of two numbers are the same, the other digits tell the lower one. -/
theorem below_followers {low high count : Nat} (lower : low < high)
    (same : low / 64 ^ count = high / 64 ^ count) :
    Below (followers low count) (followers high count) := by
  induction count with
  | zero =>
      rw [Nat.pow_zero, Nat.div_one, Nat.div_one] at same
      omega
  | succ count inductionHypothesis =>
      rw [followers, followers]
      by_cases further : low / 64 ^ count = high / 64 ^ count
      · rw [further]
        exact .later _ (inductionHypothesis further)
      · have grows : low / 64 ^ count ≤ high / 64 ^ count :=
          Nat.div_le_div_right (Nat.le_of_lt lower)
        rw [Nat.pow_succ, ← Nat.div_div_eq_div_mul, ← Nat.div_div_eq_div_mul] at same
        refine .here (ofNat_lt_ofNat (by omega) ?_) _ _
        unfold UInt8.size
        omega

/-- The encoding of the lower one of two characters is below the other's. -/
theorem below_utf8EncodeChar {low high : Char} (lower : low < high) :
    Below (String.utf8EncodeChar low) (String.utf8EncodeChar high) := by
  have codes : low.toNat < high.toNat := lower
  rw [utf8EncodeChar_eq, utf8EncodeChar_eq]
  rcases leader_lt_or codes with lowerLeader | ⟨sameLeader, sameCount, sameFront⟩
  · exact .here (ofNat_lt_ofNat lowerLeader (leader_lt (toNat_lt high))) _ _
  · rw [sameLeader, ← sameCount]
    exact .later _ (below_followers codes sameFront)

/-! ## Texts -/

/-- A text is encoded character by character. -/
theorem bytes_eq (text : String) : bytes text = text.toList.flatMap String.utf8EncodeChar := by
  rw [bytes, String.toUTF8_eq_toByteArray, ← String.utf8Encode_toList, List.utf8Encode,
    List.data_toByteArray]

/-- The encoding of the lower one of two texts is the lower one. -/
theorem flatMap_utf8EncodeChar_lt {low high : List Char} (lower : low < high) :
    low.flatMap String.utf8EncodeChar < high.flatMap String.utf8EncodeChar := by
  induction lower with
  | nil =>
      rw [List.flatMap_nil, List.flatMap_cons, utf8EncodeChar_eq, List.cons_append]
      exact List.nil_lt_cons _ _
  | cons rest inductionHypothesis => exact List.append_left_lt inductionHypothesis
  | rel lower => exact (below_utf8EncodeChar lower).append_lt _ _

/-- Texts are ordered as their bytes. -/
theorem bytes_lt_iff {left right : String} : bytes left < bytes right ↔ left < right := by
  have mono : ∀ {low high : String}, low < high → bytes low < bytes high := by
    intro low high lower
    rw [bytes_eq, bytes_eq]
    exact flatMap_utf8EncodeChar_lt lower
  constructor
  · intro lower
    by_contra notLower
    by_cases above : right < left
    · exact List.lt_asymm lower (mono above)
    · obtain rfl : left = right :=
        String.le_antisymm (String.not_lt.1 above) (String.not_lt.1 notLower)
      exact List.lt_irrefl _ lower
  · exact mono

end Lamplighter.Utf8
