import Courier.Data.Assoc
import Courier.Decimal.Binary64

/-!
# JSON values

Values with objects that keep the order of their fields. Integers from `-2 ^ 63` to `2 ^ 64 - 1`
are exact; every other number is a finite double.
-/

namespace Courier

/-- A JSON value. -/
inductive Json where
  | null
  | bool (value : Bool)
  | integer (value : Int)
  | float (value : Binary64)
  | text (value : String)
  | array (items : List Json)
  | object (fields : List (String × Json))
  deriving Inhabited, Repr

namespace Json

/-- The range of integers that are kept exact. -/
def integral (value : Int) : Bool := -(Nat.pow 2 63 : Int) ≤ value && value < (Nat.pow 2 64 : Int)

mutual

def depth : Json → Nat
  | .array items => depthItems items + 1
  | .object fields => depthFields fields + 1
  | _ => 0

def depthItems : List Json → Nat
  | [] => 0
  | item :: rest => max item.depth (depthItems rest)

def depthFields : List (String × Json) → Nat
  | [] => 0
  | (_, value) :: rest => max value.depth (depthFields rest)

end

mutual

/-- No object at any depth has two fields of one name, and every integer is in range. -/
def wellFormed : Json → Bool
  | .integer value => integral value
  | .array items => wellFormedItems items
  | .object fields => decide (Assoc.Distinct fields) && wellFormedFields fields
  | _ => true

def wellFormedItems : List Json → Bool
  | [] => true
  | item :: rest => item.wellFormed && wellFormedItems rest

def wellFormedFields : List (String × Json) → Bool
  | [] => true
  | (_, value) :: rest => value.wellFormed && wellFormedFields rest

end

mutual

/-- Keeps one field of each name in every object: the last value in the first place. -/
def collapse : Json → Json
  | .array items => .array (collapseItems items)
  | .object fields => .object (Assoc.ofPairs (collapseFields fields))
  | value => value

def collapseItems : List Json → List Json
  | [] => []
  | item :: rest => item.collapse :: collapseItems rest

/-- Collapses the values of fields, keeping all of the fields. -/
def collapseFields : List (String × Json) → List (String × Json)
  | [] => []
  | (name, value) :: rest => (name, value.collapse) :: collapseFields rest

end

mutual

def same : Json → Json → Bool
  | .null, .null => true
  | .bool left, .bool right => left == right
  | .integer left, .integer right => left == right
  | .float left, .float right => left.sameValue right
  | .text left, .text right => left == right
  | .array left, .array right => sameItems left right
  | .object left, .object right =>
      left.length == right.length && sameFields left right
  | _, _ => false

def sameItems : List Json → List Json → Bool
  | [], [] => true
  | left :: lefts, right :: rights => left.same right && sameItems lefts rights
  | _, _ => false

/-- Every field on the left has an equal one of its name on the right. -/
def sameFields : List (String × Json) → List (String × Json) → Bool
  | [], _ => true
  | (name, left) :: rest, fields =>
      match Assoc.find? fields name with
      | none => false
      | some right => left.same right && sameFields rest fields

end

/-- The text, if the value is one. -/
def text? : Json → Option String
  | .text value => some value
  | _ => none

/-- What kind of value this is, in words. -/
def kind : Json → String
  | .null => "null"
  | .bool _ => "a boolean"
  | .integer _ => "a number"
  | .float _ => "a number"
  | .text _ => "a string"
  | .array _ => "an array"
  | .object _ => "an object"

def natural (value : Nat) : Json := .integer value

mutual

/-- Changes every text in a value by a function; the names of fields stay. -/
def mapTexts (change : String → String) : Json → Json
  | .text value => .text (change value)
  | .array items => .array (mapTextsItems change items)
  | .object fields => .object (mapTextsFields change fields)
  | value => value

def mapTextsItems (change : String → String) : List Json → List Json
  | [] => []
  | item :: rest => item.mapTexts change :: mapTextsItems change rest

def mapTextsFields (change : String → String) : List (String × Json) → List (String × Json)
  | [] => []
  | (name, value) :: rest => (name, value.mapTexts change) :: mapTextsFields change rest

end

end Json

end Courier
