import Courier.Message
import Courier.Socket.Frame
import Courier.Text.Base64
import Courier.Text.Utf8
import Courier.Time

/-!
# Reading scenarios

A scenario says in JSON what is to be tried out. It is read leniently: what is absent has a default,
and what does not fit counts as absent.
-/

namespace Courier.Scenario

/-- The field of a name, or null. -/
def field (input : Json) (name : String) : Json :=
  match input with
  | .object fields => (Assoc.find? fields name).getD .null
  | _ => .null

/-- The items of an array; anything else has none. -/
def items : Json → List Json
  | .array values => values
  | _ => []

/-- The fields of an object; anything else has none. -/
def fieldsOf : Json → List (String × Json)
  | .object fields => fields
  | _ => []

/-- The item at a place of an array, or null. -/
def nth (input : Json) (index : Nat) : Json := (items input)[index]?.getD .null

/-- A text; anything else stands for the empty one. -/
def text (input : Json) : String := input.text?.getD ""

def nat? : Json → Option Nat
  | .integer value => some value.toNat
  | _ => none

/-- A natural number; anything else stands for zero. -/
def nat (input : Json) : Nat := (nat? input).getD 0

/-- A natural number, or what stands for an absent one. -/
def natOr (input : Json) (absent : Nat) : Nat := (nat? input).getD absent

def bool? : Json → Option Bool
  | .bool value => some value
  | _ => none

/-- A truth value, or what stands for an absent one. -/
def boolOr (input : Json) (absent : Bool) : Bool := (bool? input).getD absent

/-- A value that is not null. -/
def present : Json → Option Json
  | .null => none
  | value => some value

def texts (input : Json) : List String := (items input).map text

/-- The message with the fields of an object. -/
def message (input : Json) : Message := ⟨fieldsOf input⟩

def pairs (input : Json) : List (String × String) :=
  (items input).map fun pair => (text (nth pair 0), text (nth pair 1))

/-- Bytes: the ones of a text, the ones that base64 stands for, or the ones of a text repeated. -/
def bytes (input : Json) : List UInt8 :=
  match input with
  | .text value => Utf8.encode value
  | .object fields =>
      match Assoc.find? fields "b64", Assoc.find? fields "repeat" with
      | some encoded, _ => ((Base64.decodeBytes (Utf8.encode (text encoded))).toOption).getD []
      | none, some unit =>
          let part := Utf8.encode (text unit)
          (List.replicate (nat ((Assoc.find? fields "n").getD .null)) part).flatten
      | none, none => []
  | _ => []

/-- Milliseconds, or what stands for absent ones. -/
def millisOr (input : Json) (absent : Duration) : Duration :=
  (nat? input).elim absent Duration.ofMillis

def frame (input : Json) : Socket.Frame :=
  match input with
  | .object [("text", content)] => .text (text content)
  | .object [("binary", data)] => .binary (bytes data)
  | .object [("ping", data)] => .ping (bytes data)
  | .object [("pong", data)] => .pong (bytes data)
  | .object [("close", .array [code, reason])] => .close (some ⟨nat code, text reason⟩)
  | _ => .close none

end Courier.Scenario
