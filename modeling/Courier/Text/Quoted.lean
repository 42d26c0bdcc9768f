import Courier.Text.Combining
import Courier.Text.Invisible

/-!
# Quoted text

Text between quotation marks in which every character can be told apart: the quotation mark, the
backslash and the common controls are escaped by letter, and characters that cannot be seen on
their own by number. Lists and records of quoted text are written in one line.
-/

namespace Courier.Text

/-- The hexadecimal digits of a number, in lower case. -/
def hexChars (value : Nat) : List Char := Nat.toDigits 16 value

def quoteChar (c : Char) : List Char :=
  if c = '"' then ['\\', '"']
  else if c = '\\' then ['\\', '\\']
  else if c = '\n' then ['\\', 'n']
  else if c = '\r' then ['\\', 'r']
  else if c = '\t' then ['\\', 't']
  else if c = '\x00' then ['\\', '0']
  else if isCombining c || isInvisible c then
    '\\' :: 'u' :: '\x7b' :: (hexChars c.toNat ++ ['\x7d'])
  else [c]

def quote (text : String) : String :=
  String.ofList ('"' :: (text.toList.flatMap quoteChar ++ ['"']))

/-- Quoted texts in brackets, with a comma and a space between two. -/
def quoteList (texts : List String) : String :=
  "[" ++ ", ".intercalate (texts.map quote) ++ "]"

/-- A record in one line: its name, and its fields with their values already written. -/
def record (name : String) (fields : List (String × String)) : String :=
  name ++ " \x7b " ++ ", ".intercalate (fields.map fun field => field.1 ++ ": " ++ field.2) ++
    " \x7d"

end Courier.Text
