import Courier.Json.Basic

/-!
# Network addresses

Addresses of hosts, in four numbers or eight groups, and of ports on them. An address has one
written form: eight groups leave out the longest run of zero groups, and four numbers inside eight
groups keep their own form. Reading accepts every form.
-/

namespace Courier.Net

/-- The address of a host. -/
inductive Host where
  | four (octets : List Nat)
  | eight (groups : List Nat)
  deriving DecidableEq, Repr

/-- A port on a host. -/
structure Address where
  host : Host
  port : Nat
  deriving DecidableEq, Repr

def hexadecimal (value : Nat) : String := String.ofList (Nat.toDigits 16 value)

def leadingZeros : List Nat → Nat
  | 0 :: rest => leadingZeros rest + 1
  | _ => 0

/-- The first of the longest runs of zero groups: where it begins and how long it is. -/
def longestZeros (groups : List Nat) : Nat × Nat :=
  (List.range groups.length).foldl
    (fun best start =>
      let length := leadingZeros (groups.drop start)
      if best.2 < length then (start, length) else best)
    (0, 0)

/-- Groups with colons between them. -/
def writeGroups (groups : List Nat) : String := ":".intercalate (groups.map hexadecimal)

/-- Four numbers with points between them. -/
def writeOctets (octets : List Nat) : String := ".".intercalate (octets.map toString)

namespace Host

def text : Host → String
  | .four octets => writeOctets octets
  | .eight [0, 0, 0, 0, 0, 0xffff, high, low] =>
      "::ffff:" ++ writeOctets [high / 256, high % 256, low / 256, low % 256]
  | .eight groups =>
      let (start, length) := longestZeros groups
      if 1 < length then
        writeGroups (groups.take start) ++ "::" ++ writeGroups (groups.drop (start + length))
      else writeGroups groups

end Host

def Address.text (address : Address) : String :=
  match address.host with
  | .four _ => address.host.text ++ ":" ++ toString address.port
  | .eight _ => "[" ++ address.host.text ++ "]:" ++ toString address.port

/-- The value of a digit in a base up to sixteen. -/
def digit? (base : Nat) (c : Char) : Option Nat :=
  let value :=
    if '0' ≤ c ∧ c ≤ '9' then c.toNat - 48
    else if 'a' ≤ c ∧ c ≤ 'f' then c.toNat - 87
    else if 'A' ≤ c ∧ c ≤ 'F' then c.toNat - 55
    else base
  if value < base then some value else none

def digits (base : Nat) : List Char → List Nat × List Char
  | [] => ([], [])
  | c :: rest =>
      match digit? base c with
      | none => ([], c :: rest)
      | some digit =>
          let (more, left) := digits base rest
          (digit :: more, left)

/-- The number with given digits. -/
def valueOf (base : Nat) (digits : List Nat) : Nat :=
  digits.foldl (fun value digit => value * base + digit) 0

/-- A number of at most `width` digits, below a bound; `zeros` allows superfluous zeros. -/
def number (base width bound : Nat) (zeros : Bool) (input : List Char) : Option (Nat × List Char) :=
  let (found, rest) := digits base input
  if found.isEmpty || width < found.length then none
  else if !zeros && found.head? = some 0 && 1 < found.length then none
  else if valueOf base found < bound then some (valueOf base found, rest)
  else none

def char (wanted : Char) : List Char → Option (Unit × List Char)
  | [] => none
  | c :: rest => if c = wanted then some ((), rest) else none

def octet (input : List Char) : Option (Nat × List Char) := number 10 3 256 false input

/-- Four numbers with points between them. -/
def octets (input : List Char) : Option (List Nat × List Char) := do
  let (first, input) ← octet input
  let ((), input) ← char '.' input
  let (second, input) ← octet input
  let ((), input) ← char '.' input
  let (third, input) ← octet input
  let ((), input) ← char '.' input
  let (fourth, input) ← octet input
  return ([first, second, third, fourth], input)

/-- The colon in front of every group but the first. -/
def groupSeparator (first : Bool) (input : List Char) : Option (Unit × List Char) :=
  if first then some ((), input) else char ':' input

/-- At most `limit` groups; four numbers may stand for the last two. Also tells whether they do. -/
def groups (first : Bool) (input : List Char) : Nat → List Nat × Bool × List Char
  | 0 => ([], false, input)
  | limit + 1 =>
      let embedded :=
        if limit = 0 then none
        else (groupSeparator first input).bind fun ((), input) => octets input
      match embedded with
      | some ([a, b, c, d], rest) => ([a * 256 + b, c * 256 + d], true, rest)
      | _ =>
          let group? := (groupSeparator first input).bind fun ((), input) =>
            number 16 4 65536 true input
          match group? with
          | none => ([], false, input)
          | some (group, rest) =>
              let (more, four, rest) := groups false rest limit
              (group :: more, four, rest)

/-- Eight groups, of which a run of zeros may be left out. -/
def eight (input : List Char) : Option (List Nat × List Char) := do
  let (front, four, input) := groups true input 8
  if front.length = 8 then return (front, input)
  if four then none
  let ((), input) ← char ':' input
  let ((), input) ← char ':' input
  let (back, _, input) := groups true input (7 - front.length)
  return (front ++ List.replicate (8 - front.length - back.length) 0 ++ back, input)

/-- A port behind its colon. -/
def portNumber (input : List Char) : Option (Nat × List Char) := do
  let ((), input) ← char ':' input
  number 10 input.length 65536 true input

/-- A zone behind a percent sign, which is dropped. -/
def zone (input : List Char) : List Char :=
  match (char '%' input).bind fun ((), input) =>
      number 10 input.length (Nat.pow 2 32) true input with
  | none => input
  | some (_, rest) => rest

def Address.ofText? (text : String) : Option Address :=
  let input := text.toList
  let four : Option Address := do
    let (host, input) ← octets input
    let (port, input) ← portNumber input
    if input.isEmpty then some (Address.mk (.four host) port) else none
  four.or do
    let ((), input) ← char '[' input
    let (host, input) ← eight input
    let ((), input) ← char ']' (zone input)
    let (port, input) ← portNumber input
    if input.isEmpty then some (Address.mk (.eight host) port) else none

end Courier.Net
