import Courier.Document.Scalar

/-!
# Flow style

Documents that are written with brackets, braces and quotes, and scalars without quotes between
them. Blanks, line breaks and comments may stand between the parts.
-/

namespace Courier.Document

def isBlank (c : Char) : Bool := c = ' ' || c = '\t'

def isSpace (c : Char) : Bool := isBlank c || c = '\n' || c = '\r'

/-- The characters that give flow style its structure. -/
def isFlowMark (c : Char) : Bool :=
  c = ',' || c = '[' || c = ']' || c = '\x7b' || c = '\x7d'

/-- The characters with which no plain scalar begins. -/
def isIndicator (c : Char) : Bool :=
  isFlowMark c || ['#', '&', '*', '!', '|', '>', '\x27', '"', '%', '@', '\x60'].contains c

/-- Whether what follows a mark sets it off: a space, the end, or in flow style another mark. -/
def setsOff (flow : Bool) : List Char → Bool
  | [] => true
  | c :: _ => isSpace c || (flow && isFlowMark c)

/-- Whether a plain scalar may begin here. -/
def startsPlain (flow : Bool) : List Char → Bool
  | [] => false
  | c :: rest =>
      if c = '-' || c = '?' || c = ':' then !setsOff flow rest
      else !isIndicator c && !isSpace c

/-- The characters of a plain scalar up to its end, and the rest. `spaced` tells whether a space has
just been seen, after which a comment may begin. -/
def plainChars (flow spaced : Bool) : List Char → List Char × List Char
  | [] => ([], [])
  | c :: rest =>
      if c = '\n' || c = '\r' || (c = '#' && spaced) || (flow && isFlowMark c) ||
          (c = ':' && setsOff flow rest) then ([], c :: rest)
      else
        let (taken, left) := plainChars flow (isBlank c) rest
        (c :: taken, left)

/-- Text without the blanks at its end. -/
def trimEnd (chars : List Char) : List Char := (chars.reverse.dropWhile isSpace).reverse

def plainText (flow : Bool) (chars : List Char) : Option (String × List Char) :=
  if startsPlain flow chars then
    let (taken, left) := plainChars flow false chars
    some (String.ofList (trimEnd taken), left)
  else none

/-- Leaves out a comment up to the end of its line. -/
def dropComment (chars : List Char) : List Char := chars.dropWhile fun c => c != '\n'

/-- Leaves out spaces and comments; a comment begins where a space stands before it. -/
def skipSpace : (fuel : Nat) → (spaced : Bool) → List Char → List Char
  | 0, _, chars => chars
  | _, _, [] => []
  | fuel + 1, spaced, c :: rest =>
      if isSpace c then skipSpace fuel true rest
      else if c = '#' && spaced then skipSpace fuel true (dropComment rest)
      else c :: rest

/-- The rest of a text in single quotes; a quote in it is written twice. -/
def singleQuoted : List Char → Option (List Char × List Char)
  | [] => none
  | '\x27' :: '\x27' :: rest => (singleQuoted rest).map fun (taken, left) => ('\x27' :: taken, left)
  | '\x27' :: rest => some ([], rest)
  | '\n' :: _ => none
  | c :: rest => (singleQuoted rest).map fun (taken, left) => (c :: taken, left)

def simpleEscape? (c : Char) : Option Char :=
  match c with
  | '0' => some '\x00'
  | 'a' => some '\x07'
  | 'b' => some '\x08'
  | 't' => some '\t'
  | 'n' => some '\n'
  | 'v' => some '\x0b'
  | 'f' => some '\x0c'
  | 'r' => some '\r'
  | 'e' => some '\x1b'
  | ' ' => some ' '
  | '"' => some '"'
  | '/' => some '/'
  | '\\' => some '\\'
  | 'N' => some '\u0085'
  | '_' => some '\u00a0'
  | 'L' => some '\u2028'
  | 'P' => some '\u2029'
  | _ => none

/-- How many digits follow the letter of an escape that gives a number. -/
def escapeWidth? (c : Char) : Option Nat :=
  match c with
  | 'x' => some 2
  | 'u' => some 4
  | 'U' => some 8
  | _ => none

def numberedChar? (width : Nat) (chars : List Char) : Option Char :=
  if (chars.take width).length = width then
    match Sense.digits? 16 (chars.take width) with
    | some value => if Nat.isValidChar value then some (Char.ofNat value) else none
    | none => none
  else none

def doubleQuoted : (fuel : Nat) → List Char → Option (List Char × List Char)
  | 0, _ => none
  | _, [] => none
  | _, '"' :: rest => some ([], rest)
  | _, '\n' :: _ => none
  | _, ['\\'] => none
  | fuel + 1, '\\' :: c :: rest =>
      match simpleEscape? c, escapeWidth? c with
      | some value, _ => (doubleQuoted fuel rest).map fun (taken, left) => (value :: taken, left)
      | none, some width =>
          match numberedChar? width rest with
          | none => none
          | some value =>
              (doubleQuoted fuel (rest.drop width)).map fun (taken, left) => (value :: taken, left)
      | none, none => none
  | fuel + 1, c :: rest => (doubleQuoted fuel rest).map fun (taken, left) => (c :: taken, left)

/-- A text in quotes, if one begins here. -/
def quotedText? : List Char → Option (Option (String × List Char))
  | '\x27' :: rest =>
      some ((singleQuoted rest).map fun (taken, left) => (String.ofList taken, left))
  | '"' :: rest =>
      some ((doubleQuoted (rest.length + 1) rest).map fun (taken, left) =>
        (String.ofList taken, left))
  | _ => none

def scalarText (flow : Bool) (chars : List Char) : Option (Document × List Char) :=
  match quotedText? chars with
  | some result => result.map fun (text, left) => (quoted text, left)
  | none => (plainText flow chars).map fun (text, left) => (plain text, left)

/-- The name of an entry, and whether it is in quotes. -/
def nameText (chars : List Char) : Option (String × List Char) :=
  match quotedText? chars with
  | some result => result
  | none => plainText true chars

mutual

def flowNode : (fuel : Nat) → List Char → Option (Document × List Char)
  | 0, _ => none
  | fuel + 1, chars =>
      match chars with
      | '[' :: rest =>
          (flowItems fuel (skipSpace rest.length true rest)).map fun (items, left) =>
            (.sequence items, left)
      | '\x7b' :: rest =>
          (flowEntries fuel (skipSpace rest.length true rest)).map fun (entries, left) =>
            (.mapping entries, left)
      | chars => scalarText true chars

/-- The items of a sequence up to its end. -/
def flowItems : (fuel : Nat) → List Char → Option (List Document × List Char)
  | 0, _ => none
  | _, ']' :: rest => some ([], rest)
  | fuel + 1, chars =>
      match flowNode fuel chars with
      | none => none
      | some (item, rest) =>
          match skipSpace rest.length false rest with
          | ']' :: rest => some ([item], rest)
          | ',' :: rest =>
              (flowItems fuel (skipSpace rest.length true rest)).map fun (items, left) =>
                (item :: items, left)
          | _ => none

/-- The entries of a mapping up to its end. -/
def flowEntries : (fuel : Nat) → List Char → Option (List (String × Document) × List Char)
  | 0, _ => none
  | _, '\x7d' :: rest => some ([], rest)
  | fuel + 1, chars =>
      match nameText chars with
      | none => none
      | some (name, rest) =>
          match flowValue fuel (skipSpace rest.length false rest) with
          | none => none
          | some (value, rest) =>
              match skipSpace rest.length false rest with
              | '\x7d' :: rest => some ([(name, value)], rest)
              | ',' :: rest =>
                  (flowEntries fuel (skipSpace rest.length true rest)).map fun (entries, left) =>
                    ((name, value) :: entries, left)
              | _ => none

/-- The value of an entry, from the colon on; without one there is nothing. -/
def flowValue : (fuel : Nat) → List Char → Option (Document × List Char)
  | 0, _ => none
  | fuel + 1, ':' :: rest =>
      match skipSpace rest.length false rest with
      | ',' :: left => some (blank, ',' :: left)
      | '\x7d' :: left => some (blank, '\x7d' :: left)
      | chars => flowNode fuel chars
  | _, chars => some (blank, chars)

end

end Courier.Document
