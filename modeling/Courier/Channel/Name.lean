import Courier.Text.Utf8

/-!
# Channel names

A reply channel is named by a shared first part, a separator and a suffix of its own. The first
part is found again by cutting at the last separator, provided that a suffix of the right length
follows.
-/

namespace Courier.Channel

/-- The character between the shared part of a name and its suffix. -/
def separator : Char := '!'

def suffixLength : Nat := 24

/-- The name with a given first part and suffix. -/
def join (base suffix : String) : String :=
  String.ofList (base.toList ++ separator :: suffix.toList)

/-- A text cut at its last separator. -/
def cutLast : List Char → Option (List Char × List Char)
  | [] => none
  | c :: rest =>
      match cutLast rest with
      | some (before, after) => some (c :: before, after)
      | none => if c = separator then some ([], rest) else none

/-- The first part of a name that ends in a suffix of the right length. -/
def base? (name : String) : Option String :=
  match cutLast name.toList with
  | some (before, after) =>
      if (Utf8.encodeChars after).length = suffixLength then some (String.ofList before) else none
  | none => none

end Courier.Channel

namespace Courier

/-- A supply of names that have not been used before. -/
structure Supply where
  used : Nat := 0
  deriving DecidableEq, Repr, Inhabited

namespace Supply

/-- A number in decimal digits, filled up with zeros from the left. -/
def padded (width value : Nat) : String :=
  let digits := Nat.toDigits 10 value
  String.ofList (List.replicate (width - digits.length) '0' ++ digits)

def keyLength : Nat := 32

/-- A name with a given first part that has not been used before. -/
def freshName (supply : Supply) (base : String) : String × Supply :=
  (Channel.join base (padded Channel.suffixLength supply.used), ⟨supply.used + 1⟩)

/-- A key that has not been used before. -/
def freshKey (supply : Supply) : String × Supply :=
  (padded keyLength supply.used, ⟨supply.used + 1⟩)

end Supply

end Courier
