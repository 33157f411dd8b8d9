import Lamplighter.Medal.Codec
import Lamplighter.Proofs.Json.Codec
import Lamplighter.Proofs.Json.Layout
import Lamplighter.Proofs.Unicode.ByteOrder

/-!
# Medal books are read back from their text

`MedalBook.text_faithful`: a book is written with the names of its levels in the order of their
bytes, whatever the names are, and is read back from its text. Reading puts the entries into an
empty book one after the other. They come in ascending order, so each is put behind those before it,
and none takes the place of another.
-/

namespace Lamplighter

open Json

/-! ## Results -/

instance : LawfulCodec Medal where
  decode?_encode := decode?_name (fun medal => by cases medal <;> decide) (by decide)

instance : LawfulCodec MedalLimits where
  decode?_encode limits := by
    have fields := @Value.fields?_record
      [("gold", Codec.encode limits.gold), ("silver", Codec.encode limits.silver),
        ("bronze", Codec.encode limits.bronze)]
      ["gold", "silver", "bronze"] rfl (by decide)
    unfold Codec.decode? instCodecMedalLimits
    simp [fields, required?, LawfulCodec.decode?_encode]

instance : LawfulCodec MedalEntry where
  decode?_encode entry := by
    have fields := @Value.fields?_record
      [("medal", Codec.encode entry.medal), ("executed", Codec.encode entry.executed)]
      ["medal", "executed"] rfl (by decide)
    unfold Codec.decode? instCodecMedalEntry
    simp [fields, required?, LawfulCodec.decode?_encode]

namespace MedalBook

/-! ## Reading a book -/

/-- An entry whose name comes last is put behind the others. -/
theorem insertEntry_of_last {entries : List (String × MedalEntry)} {level : String}
    (last : ∀ item ∈ entries, item.1 < level) (entry : MedalEntry) :
    insertEntry level entry entries = entries ++ [(level, entry)] := by
  induction entries with
  | nil => rfl
  | cons first rest inductionHypothesis =>
      obtain ⟨key, held⟩ := first
      obtain ⟨before, restBefore⟩ := List.forall_mem_cons.1 last
      have notBelow : ¬ level < key := String.lt_asymm before
      have notSame : level ≠ key := (String.ne_of_lt before).symm
      rw [insertEntry, if_neg notBelow, if_neg notSame, inductionHypothesis restBefore,
        List.cons_append]

/-- Entries that come in ascending order are put behind those of a book. -/
theorem insertFields?_of_sorted (entries : List (String × MedalEntry)) (book : MedalBook)
    (sorted : (book.entries ++ entries).Pairwise (·.1 < ·.1)) :
    book.insertFields? (entries.map fun item => (some item.1, Codec.encode item.2)) =
      some ⟨book.entries ++ entries, sorted⟩ := by
  induction entries generalizing book with
  | nil =>
      obtain ⟨held, heldSorted⟩ := book
      simp [insertFields?]
  | cons first rest inductionHypothesis =>
      obtain ⟨level, entry⟩ := first
      have last : ∀ item ∈ book.entries, item.1 < level := fun item member =>
        (List.pairwise_append.1 sorted).2.2 item member _ List.mem_cons_self
      have put : (book.insert level entry).entries = book.entries ++ [(level, entry)] :=
        insertEntry_of_last last entry
      have whole : (book.insert level entry).entries ++ rest =
          book.entries ++ (level, entry) :: rest := by
        rw [put, List.append_assoc, List.singleton_append]
      have sortedStill : ((book.insert level entry).entries ++ rest).Pairwise (·.1 < ·.1) := by
        rw [whole]
        exact sorted
      simp only [List.map_cons, insertFields?, LawfulCodec.decode?_encode]
      rw [inductionHypothesis _ sortedStill]
      simp only [whole]

instance : LawfulCodec MedalBook where
  decode?_encode book := by
    have fields := @Value.fields?_record
      [("entries", .record (book.entries.map fun item => (item.1, Codec.encode item.2)))]
      ["entries"] rfl (by decide)
    have read : ofEntries? (.record (book.entries.map fun item =>
        (item.1, Codec.encode item.2))) = some book := by
      rw [Value.record, ofEntries?, List.map_map]
      exact insertFields?_of_sorted book.entries empty book.sorted
    unfold Codec.decode? instCodec
    simp [fields, read]

/-! ## The text of a book -/

/-- The text of an entry: the name of its level, and its result. -/
def entrySpelling (item : String × MedalEntry) : List Char :=
  Text.spelling (some item.1) ++ ":\x7b\"medal\":\"".toList ++ item.2.medal.name.toList ++
    "\",\"executed\":".toList ++ Numeral.digits item.2.executed.toNat ++ ['\x7d']

/-- An entry is written on one line as the field of an object. -/
theorem fieldChars_entry (item : String × MedalEntry) :
    Value.fieldChars (some item.1, Codec.encode item.2) = entrySpelling item := by
  obtain ⟨level, medal, executed⟩ := item
  have number : (Codec.encode executed : Value).compactChars = Numeral.digits executed.toNat := by
    simp [Codec.encode, Value.nat, Value.compactChars, Scalar.spelling, Numeral.ofNat,
      Numeral.spelling, Numeral.pointSpelling, Numeral.powerSpelling]
  have name : (Codec.encode medal : Value).compactChars =
      '"' :: medal.name.toList ++ ['"'] := by
    cases medal <;> rfl
  have record : (Codec.encode (⟨medal, executed⟩ : MedalEntry) : Value) =
      .object [(some "medal", Codec.encode medal), (some "executed", Codec.encode executed)] := rfl
  have keys : Text.spelling (some "medal") = "\"medal\"".toList ∧
      Text.spelling (some "executed") = "\"executed\"".toList := ⟨rfl, rfl⟩
  simp [Value.fieldChars, entrySpelling, record, Value.compactChars, Value.compactFields, name,
    number, keys]

/-- The text of a book: its entries between braces, with commas between them. -/
theorem toList_write (book : MedalBook) :
    (write book).toList = "\x7b\"entries\":\x7b".toList ++
      [','].intercalate (book.entries.map entrySpelling) ++ "\x7d\x7d".toList := by
  have entries : (book.entries.map fun item => (some item.1, Codec.encode item.2)).map
      Value.fieldChars = book.entries.map entrySpelling := by
    rw [List.map_map]
    exact List.map_congr_left fun item _ => fieldChars_entry item
  have record : (Codec.encode book : Value) = .object [(some "entries",
      .object (book.entries.map fun item => (some item.1, Codec.encode item.2)))] := by
    simp [Codec.encode, Value.record, Function.comp_def]
  have key : Text.spelling (some "entries") = "\"entries\"".toList := rfl
  rw [write, Value.compact, String.toList_ofList, record, Value.compactChars_object,
    List.map_singleton, List.intercalate_singleton, Value.fieldChars, Value.compactChars_object,
    entries, key]
  simp

/-- A book is read back from its text, which has the names of its levels in the order of their
bytes. So books with one text are one book. -/
theorem text_faithful (book : MedalBook) :
    read? (write book) = some book ∧
      ((write book).toList = "\x7b\"entries\":\x7b".toList ++
          [','].intercalate (book.entries.map entrySpelling) ++ "\x7d\x7d".toList ∧
        (book.entries.map (·.1)).Pairwise fun earlier later =>
          Utf8.bytes earlier < Utf8.bytes later) ∧
      ∀ other : MedalBook, write book = write other ↔ book = other := by
  have faithful (book : MedalBook) : read? (write book) = some book := by
    rw [read?, write, Value.read?_compact, Option.bind_some, LawfulCodec.decode?_encode]
  refine ⟨faithful book, ⟨toList_write book, ?_⟩, fun other => ⟨fun same => ?_, congrArg write⟩⟩
  · simp only [List.pairwise_map, Utf8.bytes_lt_iff]
    exact book.sorted
  · have read := faithful book
    rw [same, faithful other] at read
    exact (Option.some.inj read).symm

-- The name that is recorded first comes last, and its quotation mark and line end are escaped.
example :
    write ((empty.insert "b\"\n" ⟨.gold, 3⟩).insert "a" ⟨.bronze, 12⟩) =
      "\x7b\"entries\":\x7b\"a\":\x7b\"medal\":\"bronze\",\"executed\":12\x7d," ++
        "\"b\\\"\\n\":\x7b\"medal\":\"gold\",\"executed\":3\x7d\x7d\x7d" := by
  decide +kernel

end MedalBook

end Lamplighter
