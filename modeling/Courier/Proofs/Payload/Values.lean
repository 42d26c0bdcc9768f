import Courier.Http.RequestPayload
import Courier.Http.ResponseMessage
import Courier.Proofs.Payload.Reader
import Courier.Proofs.Text.Canonical

/-!
# Values of each type

Which JSON values a reader accepts. Most readers invert a way of writing: what they read is written
in just one way, and they accept nothing else. A map is also read if its names are in no order, and
an integer only if it is in range.
-/

namespace Courier

namespace Reader

variable {α β : Type}

/-- A reader accepts what is written for its type, and nothing else. -/
def Inverts (reader : Reader α) (write : α → Json) : Prop :=
  ∀ json value, reader json = .ok value ↔ json = write value

theorem inverts_text : Inverts text .text := by
  intro json value
  cases json <;> simp [text]

theorem inverts_bool : Inverts bool .bool := by
  intro json value
  cases json <;> simp [bool]

theorem below_eq_ok_iff {bound : Nat} {name : String} {json : Json} {value : Nat} :
    below bound name json = .ok value ↔ json = .natural value ∧ value < bound := by
  cases json with
  | integer number =>
      rw [below, Json.natural, Json.integer.injEq]
      split
      · rw [Except.ok.injEq]
        omega
      · refine iff_of_false (by simp) ?_
        omega
  | null | bool | float | text | array | object => simp [below, Json.natural]

/-- Base64 text in its canonical form. -/
theorem inverts_bytes : Inverts bytes fun data => .text (Base64.encode data) := by
  intro json data
  cases json with
  | text value =>
      rw [Json.text.injEq, ← Base64.utf8_eq_iff, ← Base64.decodeBytes_eq_ok_iff, bytes, text]
      cases decoded : Base64.decodeBytes (Utf8.encode value) <;> simp [decoded]
  | null | bool | integer | float | array | object => simp [bytes, text]

/-- Null, or a value of a type to which null does not belong. -/
theorem inverts_nullable {reader : Reader α} {write : α → Json} (inverts : Inverts reader write)
    (noNull : ∀ value, write value ≠ .null) :
    Inverts (nullable reader) fun value => value.elim .null write := by
  intro json value
  have read : json ≠ .null → nullable reader json = (reader json).map some := by
    intro notNull
    cases json with
    | null => exact absurd rfl notNull
    | bool | integer | float | text | array | object => rfl
  by_cases isNull : json = .null
  · subst isNull
    cases value with
    | none => simp [nullable]
    | some value => simpa [nullable] using (noNull value).symm
  · rw [read isNull]
    cases value with
    | none => cases reader json <;> simp [Except.map, isNull]
    | some value =>
        change _ ↔ json = write value
        rw [← inverts json value]
        cases reader json <;> simp [Except.map]

theorem all_eq_ok_iff {reader : Reader α} {write : α → Json} (inverts : Inverts reader write)
    {items : List Json} {values : List α} :
    all reader items = .ok values ↔ items = values.map write := by
  induction items generalizing values with
  | nil => cases values <;> simp [all]
  | cons item rest ih =>
      cases values with
      | nil =>
          simp only [all, List.map_nil]
          cases reader item with
          | error error => simp
          | ok _ => cases all reader rest <;> simp
      | cons value others =>
          rw [List.map_cons, List.cons.injEq, ← inverts item value, ← ih, all]
          cases reader item with
          | error error => simp
          | ok _ => cases all reader rest <;> simp

theorem inverts_list {reader : Reader α} {write : α → Json} (inverts : Inverts reader write) :
    Inverts (list reader) fun values => .array (values.map write) := by
  intro json values
  cases json with
  | array items => rw [list, all_eq_ok_iff inverts, Json.array.injEq]
  | null | bool | integer | float | text | object => simp [list]

theorem allNamed_eq_ok_iff {reader : Reader α} {write : α → Json} (inverts : Inverts reader write)
    {fields : List (String × Json)} {entries : List (String × α)} :
    allNamed reader fields = .ok entries ↔
      fields = entries.map fun entry => (entry.1, write entry.2) := by
  induction fields generalizing entries with
  | nil => cases entries <;> simp [allNamed]
  | cons field rest ih =>
      rcases field with ⟨name, json⟩
      cases entries with
      | nil =>
          simp only [allNamed, List.map_nil]
          cases reader json with
          | error error => simp
          | ok _ => cases allNamed reader rest <;> simp
      | cons entry others =>
          rcases entry with ⟨key, value⟩
          rw [List.map_cons, List.cons.injEq, Prod.mk.injEq, ← inverts json value, ← ih, allNamed]
          cases reader json with
          | error error => simp
          | ok _ => cases allNamed reader rest <;> simp [and_assoc]

theorem inverts_named {reader : Reader α} {write : α → Json} (inverts : Inverts reader write) :
    Inverts (named reader) fun entries =>
      .object (entries.map fun entry => (entry.1, write entry.2)) := by
  intro json entries
  cases json with
  | object fields => rw [named, allNamed_eq_ok_iff inverts, Json.object.injEq]
  | null | bool | integer | float | text | array => simp [named]

theorem inverts_pair {first : Reader α} {second : Reader β} {writeFirst : α → Json}
    {writeSecond : β → Json} (invertsFirst : Inverts first writeFirst)
    (invertsSecond : Inverts second writeSecond) (excess : String) :
    Inverts (pair first second excess) fun value =>
      .array [writeFirst value.1, writeSecond value.2] := by
  rintro json ⟨left, right⟩
  cases json with
  | array items =>
      rw [Json.array.injEq]
      match items with
      | [] => simp [pair]
      | [only] =>
          simp only [pair]
          cases first only <;> simp
      | one :: other :: rest =>
          rw [List.cons.injEq, List.cons.injEq, ← invertsFirst one left,
            ← invertsSecond other right]
          simp only [pair]
          cases first one with
          | error error => simp
          | ok _ =>
              cases second other with
              | error error => simp
              | ok _ => cases rest <;> simp
  | null | bool | integer | float | text | object => simp [pair]

end Reader

end Courier
