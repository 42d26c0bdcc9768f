import Courier.Message
import Courier.Text.Base64
import Courier.Text.Quoted
import Courier.Text.Utf8

/-!
# Reading payloads

A payload is read from the fields of a message by a reader for each declared field. The fields that
are present are checked first, in the order in which the message holds them; only then do missing
ones count, in the order in which they are declared. Fields that are not declared are ignored.
-/

namespace Courier

/-- Why a value does not fit a payload. -/
inductive DecodeError where
  | missingField (name : String)
  | invalidType (found : Json) (wanted : String)
  | invalidValue (found : Json) (wanted : String)
  | unknownVariant (found : String) (known : List String)
  | unknownField (found : String) (known : List String)
  | invalidLength (length : Nat) (wanted : String)
  | invalidContent (reason : String)

namespace DecodeError

/-- What was found, in words. -/
def describe : Json → String
  | .null => "null"
  | .bool value => "boolean `" ++ (Json.bool value).render ++ "`"
  | .integer value => "integer `" ++ (Json.integer value).render ++ "`"
  | .float value => "floating point `" ++ (Json.float value).render ++ "`"
  | .text value => "string " ++ Text.quote value
  | .array _ => "sequence"
  | .object _ => "map"

/-- Known names between backquotes: two are joined by a word, more form a list. -/
def oneOf (names : List String) : String :=
  match names.map fun name => "`" ++ name ++ "`" with
  | [] => "there are none"
  | [only] => "expected " ++ only
  | [first, second] => "expected " ++ first ++ " or " ++ second
  | several => "expected one of " ++ ", ".intercalate several

def message : DecodeError → String
  | missingField name => "missing field `" ++ name ++ "`"
  | invalidType found wanted => "invalid type: " ++ describe found ++ ", expected " ++ wanted
  | invalidValue found wanted => "invalid value: " ++ describe found ++ ", expected " ++ wanted
  | unknownVariant found known => "unknown variant `" ++ found ++ "`, " ++ oneOf known
  | unknownField found known => "unknown field `" ++ found ++ "`, " ++ oneOf known
  | invalidLength length wanted =>
      "invalid length " ++ toString length ++ ", expected " ++ wanted
  | invalidContent reason => reason

end DecodeError

/-- Reads a value of some type. -/
abbrev Reader (α : Type) := Json → Except DecodeError α

namespace Reader

variable {α β : Type}

/-- Whether a reader accepts a value, and if not why. -/
def accepts (reader : Reader α) : Reader Unit := fun value => (reader value).map fun _ => ()

def text : Reader String
  | .text value => .ok value
  | value => .error (.invalidType value "a string")

def bool : Reader Bool
  | .bool value => .ok value
  | value => .error (.invalidType value "a boolean")

/-- A natural number below a bound, called by a name. -/
def below (bound : Nat) (name : String) : Reader Nat
  | .integer value =>
      if 0 ≤ value ∧ value < bound then .ok value.toNat
      else .error (.invalidValue (.integer value) name)
  | value => .error (.invalidType value name)

def nullable (reader : Reader α) : Reader (Option α)
  | .null => .ok none
  | value => (reader value).map some

def bytes : Reader (List UInt8) := fun value =>
  match text value with
  | .error error => .error error
  | .ok value =>
      match Base64.decodeBytes (Utf8.encode value) with
      | .ok bytes => .ok bytes
      | .error error => .error (.invalidContent error.message)

/-- Reads one value after another, up to the first that does not fit. -/
def all (reader : Reader α) : List Json → Except DecodeError (List α)
  | [] => .ok []
  | value :: rest =>
      match reader value with
      | .error error => .error error
      | .ok value =>
          match all reader rest with
          | .error error => .error error
          | .ok values => .ok (value :: values)

def list (reader : Reader α) : Reader (List α)
  | .array items => all reader items
  | value => .error (.invalidType value "a sequence")

/-- Reads one named value after another, up to the first that does not fit. -/
def allNamed (reader : Reader α) : List (String × Json) → Except DecodeError (List (String × α))
  | [] => .ok []
  | (name, value) :: rest =>
      match reader value with
      | .error error => .error error
      | .ok value =>
          match allNamed reader rest with
          | .error error => .error error
          | .ok values => .ok ((name, value) :: values)

def named (reader : Reader α) : Reader (List (String × α))
  | .object fields => allNamed reader fields
  | value => .error (.invalidType value "a map")

/-- A list of exactly two values; `excess` names what was expected of a longer one. -/
def pair (first : Reader α) (second : Reader β) (excess : String) : Reader (α × β)
  | .array items =>
      match items with
      | [] => .error (.invalidLength 0 "a tuple of size 2")
      | [left] =>
          match first left with
          | .error error => .error error
          | .ok _ => .error (.invalidLength 1 "a tuple of size 2")
      | left :: right :: rest =>
          match first left with
          | .error error => .error error
          | .ok left =>
              match second right with
              | .error error => .error error
              | .ok right =>
                  if rest.isEmpty then .ok (left, right)
                  else .error (.invalidLength (rest.length + 2) excess)
  | value => .error (.invalidType value "a tuple of size 2")

end Reader

namespace Payload

variable {α : Type}

/-- A declared field: its name, and whether a value fits it. -/
structure Declared where
  name : String
  accepts : Reader Unit

def declare (name : String) (reader : Reader α) : Declared := ⟨name, reader.accepts⟩

/-- Whether a value fits the declaration of its name, if there is one. -/
def fits (declared : List Declared) (name : String) (value : Json) : Except DecodeError Unit :=
  match declared.find? fun field => field.name == name with
  | none => .ok ()
  | some field => field.accepts value

/-- Checks fields in the order in which they are held. -/
def check (declared : List Declared) : List (String × Json) → Except DecodeError Unit
  | [] => .ok ()
  | (name, value) :: rest =>
      match fits declared name value with
      | .error error => .error error
      | .ok () => check declared rest

def required (fields : List (String × Json)) (name : String) (reader : Reader α) :
    Except DecodeError α :=
  match Assoc.find? fields name with
  | none => .error (.missingField name)
  | some value => reader value

def defaulted (fields : List (String × Json)) (name : String) (reader : Reader α) (absent : α) :
    Except DecodeError α :=
  match Assoc.find? fields name with
  | none => .ok absent
  | some value => reader value

/-- The values of an array under the declared names, each checked in turn. -/
def ofItems (title : String) (declared : List Declared) (read : Nat) :
    List Json → Except DecodeError (List (String × Json))
  | items =>
      match declared, items with
      | [], [] => .ok []
      | [], _ :: _ => .error (.invalidLength (read + items.length) "fewer elements in array")
      | _ :: _, [] => .error (.invalidLength read title)
      | field :: fields, value :: rest =>
          match field.accepts value with
          | .error error => .error error
          | .ok () => (ofItems title fields (read + 1) rest).map fun values =>
              (field.name, value) :: values

/-- The checked fields of a record, which may also be given as an array of its values in order. The
record has a name, and `title` names it in an array of the wrong length. -/
def fieldsOf (name title : String) (declared : List Declared) :
    Reader (List (String × Json))
  | .object fields => (check declared fields).map fun () => fields
  | .array items => ofItems title declared 0 items
  | value => .error (.invalidType value name)

def malformed (error : DecodeError) : ChannelError := .malformedMessage error.message

end Payload

end Courier
