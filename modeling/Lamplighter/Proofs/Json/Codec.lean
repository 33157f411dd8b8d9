import Lamplighter.Json.Codec
import Mathlib.Data.List.Nodup

/-!
# Codecs that read back what they write

A codec is lawful if it gives every value back from the JSON value of it. Integers within their
bounds, names and lists have lawful codecs. Those of records follow from `Value.fields?_record`:
a record whose names differ is taken apart into the values that it was made of.
-/

namespace Lamplighter.Json

/-- A codec that reads back what it writes. -/
class LawfulCodec (α : Type) [Codec α] : Prop where
  decode?_encode (value : α) : Codec.decode? (Codec.encode value) = some value

/-! ## Numbers -/

/-- An integer is read back from its numeral. -/
theorem Numeral.toInt?_ofInt (value : Int) : (Numeral.ofInt value).toInt? = some value := by
  by_cases negative : value < 0
  · have nonzero : value.natAbs ≠ 0 := by omega
    have size : -(value.natAbs : Int) = value := by omega
    simp only [ofInt, toInt?, negative, nonzero, size, decide_true, and_self, if_true, if_false]
  · have size : (value.natAbs : Int) = value := by omega
    simp only [ofInt, toInt?, negative, size, decide_false, and_self, if_true, Bool.false_eq_true,
      if_false]

/-- A natural number below a bound is read back. -/
theorem Value.natBelow?_nat {bound value : Nat} (small : value < bound) :
    (Value.nat value).natBelow? bound = some value := by
  have spelt : (Value.nat value).int? = some (.ofNat value) := by
    simp [Value.nat, Value.int?, Numeral.toInt?, Numeral.ofNat]
  simp only [natBelow?, spelt, small, if_true]

instance : LawfulCodec UInt8 where
  decode?_encode value := by
    simp [Codec.decode?, Codec.encode, Value.natBelow?_nat value.toNat_lt]

instance : LawfulCodec UInt32 where
  decode?_encode value := by
    simp [Codec.decode?, Codec.encode, Value.natBelow?_nat value.toNat_lt]

instance : LawfulCodec Int32 where
  decode?_encode value := by
    have bounds : Int32.minValue.toInt ≤ value.toInt ∧ value.toInt ≤ Int32.maxValue.toInt :=
      ⟨value.minValue_le_toInt, value.toInt_le⟩
    simp only [Codec.decode?, Codec.encode, Value.int, Value.int?, Numeral.toInt?_ofInt, bounds,
      and_self, if_true, Int32.ofInt_toInt]

/-! ## Lists and names -/

/-- Lists are read back if their items are. -/
instance {α : Type} [Codec α] [LawfulCodec α] : LawfulCodec (List α) where
  decode?_encode items := by
    have each : (items.map Codec.encode).mapM Codec.decode? = some items := by
      induction items with
      | nil => rfl
      | cons first rest inductionHypothesis =>
          rw [List.map_cons, List.mapM_cons, LawfulCodec.decode?_encode, inductionHypothesis]
          rfl
    exact each

/-- A value that is known by its name is read back, if all values are listed with names that
differ. -/
theorem decode?_name {α : Type} [DecidableEq α] {all : List α} {name : α → String}
    (complete : ∀ value, value ∈ all) (distinct : (all.map name).Nodup) (value : α) :
    (namesCodec all name).decode? ((namesCodec all name).encode value) = some value := by
  change all.find? (fun candidate => decide (name candidate = name value)) = some value
  cases found : all.find? (fun candidate => decide (name candidate = name value)) with
  | none =>
      have unnamed := List.find?_eq_none.1 found value (complete value)
      exact absurd (decide_eq_true rfl) unnamed
  | some candidate =>
      have same := List.find?_some found
      rw [List.inj_on_of_nodup_map distinct (complete candidate) (complete value)
        (of_decide_eq_true same)]

/-! ## Records -/

namespace Value

/-- The value of a field is found by its name. -/
theorem lookup_field {fields : List (String × Value)} (distinct : (fields.map (·.1)).Nodup)
    {field : String × Value} (member : field ∈ fields) :
    (fields.map fun field => (some field.1, field.2)).lookup (some field.1) = some field.2 := by
  induction fields with
  | nil => exact absurd member List.not_mem_nil
  | cons first rest inductionHypothesis =>
      obtain ⟨elsewhere, distinctRest⟩ := List.nodup_cons.1 distinct
      rw [List.map_cons, List.lookup_cons]
      rcases List.mem_cons.1 member with rfl | later
      · rw [beq_self_eq_true]
      · have different : field.1 ≠ first.1 := by
          intro same
          exact elsewhere (List.mem_map.2 ⟨field, later, same⟩)
        rw [beq_false_of_ne fun same => different (Option.some.inj same)]
        exact inductionHypothesis distinctRest later

/-- A record whose names differ is taken apart into its values. -/
theorem fields?_record {fields : List (String × Value)} {names : List String}
    (named : fields.map (·.1) = names) (distinct : names.Nodup) :
    (record fields).fields? names = some (fields.map fun field => some field.2) := by
  subst named
  have strings : ((fields.map fun field => (some field.1, field.2)).all
      fun field => Option.isSome field.1) = true := by simp
  have once : ((fields.map (·.1)).all fun name =>
      (fields.map fun field => (some field.1, field.2)).countP
        (fun field => field.1 == some name) ≤ 1) = true := by
    simp only [List.all_eq_true, decide_eq_true_eq]
    intro name _
    have count := List.nodup_iff_count_le_one.1 distinct name
    rw [List.count, List.countP_map] at count
    rw [List.countP_map]
    simpa [Function.comp_def] using count
  simp only [fields?, record, strings, once, and_self, if_true, List.map_map]
  exact congrArg some (List.map_congr_left fun field member => lookup_field distinct member)

end Value

end Lamplighter.Json
