import Courier.Proofs.Data.Dict
import Courier.Proofs.Payload.Values

/-!
# Declared fields

A schema declares fields by name. What a message gives for such a field is the value under its name,
if it has the form that is declared, or the default where there is no value and one is not needed.
Nothing else about the message counts: neither the order of its fields nor what else there is.

The fields that are there are checked before any is read, in the order in which the message holds
them. As no name stands twice, a field that is checked is the one that is read later, so the check
refuses nothing that would have been read.
-/

namespace Courier

namespace Assoc

variable {α : Type} {left right entries : Assoc α} {name : String} {value : α}

theorem find?_eq_some_iff (distinct : entries.Distinct) :
    entries.find? name = some value ↔ (name, value) ∈ entries :=
  ⟨mem_of_find?, find?_of_mem distinct⟩

theorem distinct_erase (distinct : entries.Distinct) (name : String) :
    Distinct (entries.erase name) :=
  List.Nodup.sublist (List.filter_sublist.map Prod.fst) distinct

/-- The same entries under some names, in whatever order, among any entries under other names. -/
def SameUnder (names : List String) (left right : Assoc α) : Prop :=
  (left.filter fun entry => entry.1 ∈ names).Perm (right.filter fun entry => entry.1 ∈ names)

theorem SameUnder.of_perm (names : List String) (perm : left.Perm right) :
    SameUnder names left right :=
  perm.filter _

/-- An entry under another name makes no difference. -/
theorem sameUnder_cons {names : List String} (other : name ∉ names) (value : α)
    (entries : Assoc α) : SameUnder names ((name, value) :: entries) entries := by
  rw [SameUnder, List.filter_cons_of_neg (by simpa using other)]

theorem SameUnder.find?_eq {names : List String} (same : SameUnder names left right)
    (leftDistinct : left.Distinct) (rightDistinct : right.Distinct) (mem : name ∈ names) :
    left.find? name = right.find? name := by
  have entry : ∀ value, (name, value) ∈ left ↔ (name, value) ∈ right := by
    intro value
    simpa [mem] using same.mem_iff (a := (name, value))
  apply Option.ext
  intro value
  rw [find?_eq_some_iff leftDistinct, find?_eq_some_iff rightDistinct]
  exact entry value

end Assoc

namespace Payload

variable {α : Type}

/-! ## Kinds of values -/

/-- A kind of values: a reader, and which JSON values it reads as what. -/
structure Kind (α : Type) where
  reader : Reader α
  form : Json → α → Prop
  reads : ∀ json value, reader json = .ok value ↔ form json value

namespace Kind

-- These are reducible, so that what is known about kinds rewrites what is said of their readers.

abbrev text : Kind String where
  reader := .text
  form json value := json = .text value
  reads := Reader.inverts_text

abbrev flag : Kind Bool where
  reader := .bool
  form json value := json = .bool value
  reads := Reader.inverts_bool

/-- Integers of sixteen bits. -/
abbrev status : Kind Nat where
  reader := Http.statusReader
  form json value := json = .natural value ∧ value ≤ 65535
  reads json value := by rw [Http.statusReader, Reader.below_eq_ok_iff, Nat.lt_succ_iff]

/-- Base64 text with its padding, in the one form that there is for some bytes. -/
abbrev bytes : Kind (List UInt8) where
  reader := .bytes
  form json data := json = .text (Base64.encode data)
  reads := Reader.inverts_bytes

abbrev textOrNull : Kind (Option String) where
  reader := .nullable .text
  form json value := json = value.elim .null .text
  reads := Reader.inverts_nullable Reader.inverts_text fun _ => Json.noConfusion

/-- Arrays of arrays of two texts. -/
abbrev pairs : Kind (List (String × String)) where
  reader := Http.ResponseStart.headersReader Http.ResponseStart.taggedExcess
  form json pairs := json = .array (pairs.map fun pair => .array [.text pair.1, .text pair.2])
  reads := Reader.inverts_list (Reader.inverts_pair Reader.inverts_text Reader.inverts_text _)

theorem dictReader_eq_ok_iff {reader : Reader α} {write : α → Json}
    (inverts : Reader.Inverts reader write) (json : Json) (dict : Dict α) :
    Http.RequestPayload.dictReader reader json = .ok dict ↔
      ∃ entries : List (String × α),
        json = .object (entries.map fun entry => (entry.1, write entry.2)) ∧
          dict = .ofPairs entries := by
  simp only [Http.RequestPayload.dictReader, map_eq_ok_iff, Reader.inverts_named inverts json]
  simp only [eq_comm]

/-- Objects of texts. -/
abbrev texts : Kind (Dict String) where
  reader := Http.RequestPayload.dictReader .text
  form json dict := ∃ entries : List (String × String),
    json = .object (entries.map fun entry => (entry.1, .text entry.2)) ∧ dict = .ofPairs entries
  reads := dictReader_eq_ok_iff Reader.inverts_text

/-- Objects of arrays of texts. -/
abbrev textLists : Kind (Dict (List String)) where
  reader := Http.RequestPayload.paramsReader
  form json dict := ∃ entries : List (String × List String),
    json = .object (entries.map fun entry => (entry.1, .array (entry.2.map .text))) ∧
      dict = .ofPairs entries
  reads := dictReader_eq_ok_iff (Reader.inverts_list Reader.inverts_text)

end Kind

/-! ## What a message gives for a field -/

/-- What a message gives for a field: what is meant by the value under its name, or else the
default, if the field has one. -/
def Gives (message : Message) (name : String) (kind : Kind α) (default : Option α) (value : α) :
    Prop :=
  match message.get? name with
  | none => default = some value
  | some json => kind.form json value

section Gives

variable {message : Message} {name : String}

theorem required_eq_ok_iff (kind : Kind α) {value : α} :
    required message.fields name kind.reader = .ok value ↔ Gives message name kind none value := by
  rw [required, Gives, Message.get?]
  cases Assoc.find? message.fields name with
  | none => simp
  | some json => exact kind.reads json value

theorem defaulted_eq_ok_iff (kind : Kind α) {absent value : α} :
    defaulted message.fields name kind.reader absent = .ok value ↔
      Gives message name kind (some absent) value := by
  rw [defaulted, Gives, Message.get?]
  cases Assoc.find? message.fields name with
  | none => simp
  | some json => exact kind.reads json value

end Gives

/-! ## Schemas -/

/-- A part of a payload: the name of its field, the kind of its values, and what it is without a
field, unless the field is needed. -/
structure Part (π : Type) where
  {α : Type}
  name : String
  kind : Kind α
  default : Option α
  of : π → α

namespace Part

variable {π : Type} {part : Part π} {message : Message}

def required (name : String) (kind : Kind α) (of : π → α) : Part π := ⟨name, kind, none, of⟩

def defaulted (name : String) (kind : Kind α) (absent : α) (of : π → α) : Part π :=
  ⟨name, kind, some absent, of⟩

/-- The declaration by which the field is checked. -/
def declared (part : Part π) : Declared := declare part.name part.kind.reader

/-- The field has a value of its kind, or is absent and not needed. -/
def Met (part : Part π) (message : Message) : Prop :=
  match message.get? part.name with
  | none => part.default.isSome
  | some json => ∃ value, part.kind.form json value

def HeldBy (part : Part π) (message : Message) (payload : π) : Prop :=
  Gives message part.name part.kind part.default (part.of payload)

theorem met_iff :
    part.Met message ↔ ∃ value, Gives message part.name part.kind part.default value := by
  rw [Met]
  simp only [Gives]
  cases message.get? part.name with
  | none => exact Option.isSome_iff_exists
  | some json => rfl

theorem accepts_of_heldBy {payload : π} {json : Json} (held : part.HeldBy message payload)
    (present : message.get? part.name = some json) : part.declared.accepts json = .ok () := by
  rw [HeldBy, Gives, present] at held
  exact Reader.accepts_of_read ((part.kind.reads json _).mpr held)

theorem heldBy_congr {left right : Message}
    (same : left.get? part.name = right.get? part.name) (payload : π) :
    part.HeldBy left payload ↔ part.HeldBy right payload := by
  rw [HeldBy, HeldBy, Gives, Gives, same]

end Part

/-- The parts of a payload. -/
abbrev Schema (π : Type) := List (Part π)

namespace Schema

variable {π : Type} {schema : Schema π} {left right message : Message} {payload : π}

def names (schema : Schema π) : List String := schema.map Part.name

/-- Every field that is needed is there, and every field that is there has a value of its kind. -/
def Met (schema : Schema π) (message : Message) : Prop := ∀ part ∈ schema, part.Met message

/-- A message holds a payload if it gives each of its parts. -/
def HeldBy (schema : Schema π) (message : Message) (payload : π) : Prop :=
  ∀ part ∈ schema, part.HeldBy message payload

theorem met_of_heldBy (held : schema.HeldBy message payload) : schema.Met message :=
  fun part mem => Part.met_iff.mpr ⟨part.of payload, held part mem⟩

/-- What a payload is read from passes the check. -/
theorem check_of_heldBy (distinct : Assoc.Distinct message.fields)
    (held : schema.HeldBy message payload) :
    check (schema.map Part.declared) message.fields = .ok () := by
  apply check_eq_ok
  rintro ⟨key, json⟩ mem
  rw [fits]
  cases found : (schema.map Part.declared).find? fun field => field.name == key with
  | none => rfl
  | some field =>
      have isKey : field.name = key := by simpa using List.find?_some found
      rcases List.mem_map.mp (List.mem_of_find?_eq_some found) with ⟨part, partMem, rfl⟩
      subst isKey
      exact Part.accepts_of_heldBy (held part partMem) (Assoc.find?_of_mem distinct mem)

theorem heldBy_congr (same : ∀ name ∈ schema.names, left.get? name = right.get? name)
    (payload : π) : schema.HeldBy left payload ↔ schema.HeldBy right payload :=
  forall₂_congr fun _ mem => Part.heldBy_congr (same _ (List.mem_map_of_mem mem)) payload

end Schema

end Payload

end Courier
