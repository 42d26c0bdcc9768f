import Courier.Data.Assoc
import Courier.Text.Utf8

/-!
# Headers

Header names are tokens without regard to case, kept in lower case; values are bytes without
control characters. A header map keeps its names in the order of their first appearance and all
values of a name together.
-/

namespace Courier.Http

def isTokenChar (c : Char) : Bool :=
  ('a' ≤ c && c ≤ 'z') || ('A' ≤ c && c ≤ 'Z') || ('0' ≤ c && c ≤ '9') ||
    ['!', '#', '$', '%', '&', '\x27', '*', '+', '-', '.', '^', '_', '`', '|', '~'].contains c

def isToken (chars : List Char) : Bool := !chars.isEmpty && chars.all isTokenChar

def lowerChar (c : Char) : Char :=
  if 'A' ≤ c ∧ c ≤ 'Z' then Char.ofNat (c.toNat + 32) else c

def upperChar (c : Char) : Char :=
  if 'a' ≤ c ∧ c ≤ 'z' then Char.ofNat (c.toNat - 32) else c

/-- A text with its ASCII letters in lower case. -/
def lower (text : String) : String := String.ofList (text.toList.map lowerChar)

/-- A text with its ASCII letters in upper case. -/
def upper (text : String) : String := String.ofList (text.toList.map upperChar)

/-- Equality of names without regard to the case of ASCII letters. -/
def sameName (left right : String) : Bool := lower left == lower right

def headerNameLimit : Nat := 65535

def headerName? (text : String) : Option String :=
  if isToken text.toList && text.toList.length ≤ headerNameLimit then some (lower text) else none

def isValueByte (byte : UInt8) : Bool := (32 ≤ byte && byte != 127) || byte == 9

def isReadableByte (byte : UInt8) : Bool := (32 ≤ byte && byte < 127) || byte == 9

def headerValue? (bytes : List UInt8) : Option (List UInt8) :=
  if bytes.all isValueByte then some bytes else none

/-- A header value as text, if it can be read. -/
def readable? (value : List UInt8) : Option String :=
  if value.all isReadableByte then
    some (String.ofList (value.map fun byte => Char.ofNat byte.toNat))
  else none

/-- The wording for a text that is no header name. -/
def invalidHeaderName : String := "invalid HTTP header name"

/-- The wording for bytes that are no header value. -/
def invalidHeaderValue : String := "failed to parse header value"

/-- Headers: names in the order of their first appearance, each with its values in order. -/
structure HeaderMap where
  entries : Assoc (List (List UInt8))
  deriving DecidableEq, Repr, Inhabited

namespace HeaderMap

def empty : HeaderMap := ⟨[]⟩

/-- Adds a value behind the other values of its name. -/
def append (headers : HeaderMap) (name : String) (value : List UInt8) : HeaderMap :=
  ⟨Assoc.insert headers.entries name ((Assoc.find? headers.entries name).getD [] ++ [value])⟩

/-- The values of a name, in order. -/
def values (headers : HeaderMap) (name : String) : List (List UInt8) :=
  (Assoc.find? headers.entries name).getD []

def first? (headers : HeaderMap) (name : String) : Option (List UInt8) :=
  (headers.values name).head?

/-- Every name with each of its values. -/
def pairs (headers : HeaderMap) : List (String × List UInt8) :=
  headers.entries.flatMap fun entry => entry.2.map fun value => (entry.1, value)

def ofPairs (pairs : List (String × List UInt8)) : HeaderMap :=
  pairs.foldl (fun headers pair => headers.append pair.1 pair.2) empty

end HeaderMap

end Courier.Http
