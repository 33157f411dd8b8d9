import Lamplighter.Json.Codec
import Lamplighter.Medal

/-!
# Medals as JSON

The entries of a medal book are an object from level names to results, written in the order of the
names. When a name is given twice, its last result counts.
-/

namespace Lamplighter

open Json

instance : Codec Medal := namesCodec Medal.all Medal.name

instance : Codec MedalLimits where
  encode limits := .record [
    ("gold", Codec.encode limits.gold),
    ("silver", Codec.encode limits.silver),
    ("bronze", Codec.encode limits.bronze)]
  decode? value :=
    match value.fields? ["gold", "silver", "bronze"] with
    | some [gold, silver, bronze] => do
        return ⟨← required? gold, ← required? silver, ← required? bronze⟩
    | _ => none

instance : Codec MedalEntry where
  encode entry := .record [
    ("medal", Codec.encode entry.medal), ("executed", Codec.encode entry.executed)]
  decode? value :=
    match value.fields? ["medal", "executed"] with
    | some [medal, executed] => do return ⟨← required? medal, ← required? executed⟩
    | _ => none

namespace MedalBook

/-- Write the fields of an object into a book, one after the other. -/
def insertFields? (book : MedalBook) : List (Text × Value) → Option MedalBook
  | [] => some book
  | (key, value) :: rest =>
      match key, Codec.decode? value with
      | some level, some entry => (book.insert level entry).insertFields? rest
      | _, _ => none

/-- The book whose entries an object spells. -/
def ofEntries? : Value → Option MedalBook
  | .object fields => empty.insertFields? fields
  | _ => none

instance : Codec MedalBook where
  encode book := .record [
    ("entries", .record (book.entries.map fun item => (item.1, Codec.encode item.2)))]
  decode? value :=
    match value.fields? ["entries"] with
    | some [entries] => entries.bind ofEntries?
    | _ => none

end MedalBook

end Lamplighter
