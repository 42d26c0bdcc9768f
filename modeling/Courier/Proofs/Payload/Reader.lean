import Courier.Payload.Reader
import Courier.Proofs.Results
import Courier.Proofs.Text.Base64

/-!
# Readers and what they read

Each reader reads back what is written for its type. A field is accepted where its reader reads it,
and fields that are all accepted pass the check as a whole, in whatever order they are held.
-/

namespace Courier

namespace Reader

variable {α β : Type}

@[simp]
theorem text_text (value : String) : text (.text value) = .ok value := rfl

@[simp]
theorem bool_bool (value : Bool) : bool (.bool value) = .ok value := rfl

theorem below_natural {bound value : Nat} (name : String) (small : value < bound) :
    below bound name (.natural value) = .ok value := by
  have inRange : (0 : Int) ≤ value ∧ (value : Int) < bound := by omega
  simp only [Json.natural, below, inRange, and_self, if_true, Int.toNat_natCast]

@[simp]
theorem bytes_encode (content : List UInt8) :
    bytes (.text (Base64.encode content)) = .ok content := by
  simp only [bytes, text_text, Base64.utf8_encode, Base64.decodeBytes_encodeBytes]

theorem all_map {reader : Reader α} {write : α → Json}
    (back : ∀ value, reader (write value) = .ok value) (values : List α) :
    all reader (values.map write) = .ok values := by
  induction values with
  | nil => rfl
  | cons value rest ih => simp only [List.map_cons, all, back, ih]

theorem list_map {reader : Reader α} {write : α → Json}
    (back : ∀ value, reader (write value) = .ok value) (values : List α) :
    list reader (.array (values.map write)) = .ok values :=
  all_map back values

theorem named_map {reader : Reader α} {write : α → Json}
    (back : ∀ value, reader (write value) = .ok value) (entries : List (String × α)) :
    named reader (.object (entries.map fun entry => (entry.1, write entry.2))) = .ok entries := by
  simp only [named]
  induction entries with
  | nil => rfl
  | cons entry rest ih => simp only [List.map_cons, allNamed, back, ih]

theorem pair_text (excess : String) (entry : String × String) :
    pair text text excess (.array [.text entry.1, .text entry.2]) = .ok entry := rfl

theorem accepts_of_read {reader : Reader α} {json : Json} {value : α}
    (read : reader json = .ok value) : reader.accepts json = .ok () := by
  rw [accepts, read]
  rfl

end Reader

namespace Payload

variable {α : Type}

theorem check_eq_ok {declared : List Declared} {fields : List (String × Json)}
    (fit : ∀ field ∈ fields, fits declared field.1 field.2 = .ok ()) :
    check declared fields = .ok () := by
  induction fields with
  | nil => rfl
  | cons field rest ih =>
      rw [check, fit field List.mem_cons_self]
      exact ih fun other mem => fit other (List.mem_cons_of_mem field mem)

/-- A field fits the first declaration of its name. -/
theorem fits_declare {declared : List Declared} {name : String} {reader : Reader α} {json : Json}
    {value : α} (found : declared.find? (fun field => field.name == name) =
      some (declare name reader)) (read : reader json = .ok value) :
    fits declared name json = .ok () := by
  rw [fits, found]
  exact Reader.accepts_of_read read

theorem required_of_find? {fields : List (String × Json)} {name : String} {json : Json}
    (held : Assoc.find? fields name = some json) (reader : Reader α) :
    required fields name reader = reader json := by
  rw [required, held]

theorem defaulted_of_find? {fields : List (String × Json)} {name : String} {json : Json}
    (held : Assoc.find? fields name = some json) (reader : Reader α) (absent : α) :
    defaulted fields name reader absent = reader json := by
  rw [defaulted, held]

end Payload

end Courier
