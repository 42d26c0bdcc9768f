import Courier.Json.Basic

/-!
# Documents

What a configuration file holds, whatever it is written in: scalars, sequences and mappings. A
scalar may have a text and has a sense, which counts where no text is asked for. Mappings keep all
of their entries, repeated names included.
-/

namespace Courier

/-- What a scalar stands for where no text is asked for. -/
inductive Sense where
  | nothing
  | truth
  | number (value : Int)
  | fraction
  | words
  deriving DecidableEq, Repr

/-- What a configuration file holds. -/
inductive Document where
  | scalar (text? : Option String) (sense : Sense)
  | sequence (items : List Document)
  | mapping (entries : List (String × Document))
  deriving Inhabited, Repr

namespace Document

/-- What stands where nothing is written. -/
def blank : Document := .scalar (some "") .nothing

mutual

def ofJson : Json → Document
  | .null => .scalar none .nothing
  | .bool _ => .scalar none .truth
  | .integer value => .scalar none (.number value)
  | .float _ => .scalar none .fraction
  | .text value => .scalar (some value) .words
  | .array items => .sequence (ofJsonItems items)
  | .object fields => .mapping (ofJsonFields fields)

def ofJsonItems : List Json → List Document
  | [] => []
  | item :: rest => ofJson item :: ofJsonItems rest

def ofJsonFields : List (String × Json) → List (String × Document)
  | [] => []
  | (name, value) :: rest => (name, ofJson value) :: ofJsonFields rest

end

end Document

end Courier
