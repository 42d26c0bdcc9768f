import Courier.Document.Block
import Courier.Json.Parser
import Courier.Layers.Plan
import Courier.Text.Quoted

/-!
# Reading plans

A plan is read from a document in JSON or in block style. What is read by name may stand only once;
among aliases and channels the last of several entries counts. Names that mean nothing are left
out of account.
-/

namespace Courier.Plan

def readText : Document → Option String
  | .scalar text? _ => text?
  | _ => none

/-- The entries of a mapping; where nothing is written there are none. -/
def readEntries : Document → Option (List (String × Document))
  | .mapping entries => some entries
  | .scalar (some "") .nothing => some []
  | _ => none

def named (entries : List (String × Document)) (name : String) : List Document :=
  (entries.filter fun entry => entry.1 = name).map Prod.snd

/-- Reads what stands under a name, if anything does; it may stand there only once. -/
def readField {α : Type} (read : Document → Option α) (absent : Option α)
    (entries : List (String × Document)) (name : String) : Option α :=
  match named entries name with
  | [] => absent
  | [document] => read document
  | _ => none

/-- Reads a dictionary, of which the last entry of each name counts. -/
def readDict {α : Type} (read : Document → Option α) (document : Document) : Option (Dict α) := do
  let entries ← readEntries document
  let values ← entries.mapM fun entry => (read entry.2).map fun value => (entry.1, value)
  return .ofPairs values

def readNumber : Document → Option (Option Nat)
  | .scalar _ .nothing => some none
  | .scalar _ (.number value) =>
      if 0 ≤ value ∧ value < Nat.pow 2 64 then some (some value.toNat) else none
  | _ => none

def readWords : Document → Option (Option String)
  | .scalar _ .nothing => some none
  | .scalar text? .words => some text?
  | _ => none

/-- Reads a kind of store, which stands alone or over nothing. -/
def readKind : Document → Option StoreKind
  | .scalar (some name) _ => StoreKind.ofName? name
  | .mapping [(name, .scalar none .nothing)] => StoreKind.ofName? name
  | _ => none

def readOptions (entries : List (String × Document)) : Option StoreOptions := do
  let capacity ← readField readNumber (some none) entries "capacity"
  let messageExpiry ← readField readNumber (some none) entries "message_expiry"
  let groupExpiry ← readField readNumber (some none) entries "group_expiry"
  let receiveTimeoutMs ← readField readNumber (some none) entries "receive_timeout_ms"
  let url ← readField readWords (some none) entries "url"
  let keyBase ← readField readWords (some none) entries "key_prefix"
  return { capacity, messageExpiry, groupExpiry, receiveTimeoutMs, url, keyBase }

def readBackend (document : Document) : Option BackendPlan := do
  let entries ← readEntries document
  let kind ← readField readKind none entries "backend"
  let routing ← readField (readDict readText) (some .empty) entries "routing"
  let options ← readOptions entries
  return { kind, routing, options }

/-- Reads a plan; it may also be given as a sequence of its two parts. -/
def ofDocument? : Document → Option Plan
  | .sequence [label, backends] => do
      return { default := ← readText label, backends := ← readDict readBackend backends }
  | document => do
      let entries ← readEntries document
      let label ← readField readText (some Backend.defaultLabel) entries "default"
      let backends ← readField (readDict readBackend) none entries "backends"
      return { default := label, backends }

/-- A plan that was read, if it is one and its default is among its backends. -/
def accept (failure : String) : Option Plan → Except ChannelError Plan
  | none => .error (.configuration failure)
  | some plan => plan.validate.map fun () => plan

def ofJsonText (text : String) : Except ChannelError Plan :=
  accept "Invalid JSON:"
    (match Json.parseAll text with
    | .ok value => ofDocument? (.ofJson value)
    | .error _ => none)

def ofBlockText (text : String) : Except ChannelError Plan :=
  accept "Invalid YAML:" ((Document.parse? text).bind ofDocument?)

/-- The last part of a path, unless it leads upwards. -/
def fileName (path : List Char) : List Char :=
  let name := (path.reverse.dropWhile (· = '/')).takeWhile (· ≠ '/')
  if name = ['.', '.'] then [] else name.reverse

/-- What follows the last dot of a file's name; a dot at its beginning does not count. -/
def extension? (path : String) : Option String :=
  let backwards := (fileName path.toList).reverse
  let ending := backwards.takeWhile (· ≠ '.')
  if (backwards.drop (ending.length + 1)).isEmpty then none
  else some (String.ofList ending.reverse)

/-- The wording for a format that is not known. -/
def unknownFormat (ending : Option String) : ChannelError :=
  let shown :=
    match ending with
    | none => "None"
    | some ending => "Some(" ++ Text.quote ending ++ ")"
  .configuration ("Unsupported config format: " ++ shown)

/-- Reads the plan in a file with a given content, if there is one. -/
def ofFile (path : String) (content : Option String) : Except ChannelError Plan :=
  match content with
  | none =>
      .error (.configuration
        ("Cannot read " ++ path ++ ": No such file or directory (os error 2)"))
  | some content =>
      match extension? path with
      | some "json" => ofJsonText content
      | some "yaml" => ofBlockText content
      | some "yml" => ofBlockText content
      | ending => .error (unknownFormat ending)

end Courier.Plan
