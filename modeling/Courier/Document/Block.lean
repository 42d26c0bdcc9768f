import Courier.Document.Flow

/-!
# Block style

Documents whose structure is given by indentation. A document may begin with a line of three dashes
and end with one of three dots; nothing may follow it. A scalar ends with its line.
-/

namespace Courier.Document

/-- A line: how many spaces stand in front of its text. -/
structure Line where
  indent : Nat
  text : List Char
  deriving Inhabited, Repr

namespace Line

def ofChars (chars : List Char) : Line :=
  let text := chars.dropWhile (· = ' ')
  ⟨chars.length - text.length, text⟩

/-- Whether nothing but blanks and a comment stands on a line. -/
def isEmpty (line : Line) : Bool :=
  match line.text.dropWhile isSpace with
  | [] => true
  | c :: _ => c = '#'

def chars (line : Line) : List Char := List.replicate line.indent ' ' ++ line.text

/-- Whether a mark of three characters stands at the beginning of a line. -/
def hasMark (line : Line) (mark : List Char) : Bool :=
  line.indent = 0 && line.text.take 3 = mark && setsOff false (line.text.drop 3)

/-- Whether a document begins with this line. -/
def begins (line : Line) : Bool := line.hasMark ['-', '-', '-']

/-- Whether a document ends with this line. -/
def ends (line : Line) : Bool := line.hasMark ['.', '.', '.']

end Line

def splitLines : List Char → List (List Char)
  | [] => [[]]
  | c :: rest =>
      match splitLines rest with
      | [] => [[c]]
      | line :: lines => if c = '\n' then [] :: line :: lines else (c :: line) :: lines

/-- The lines of a text, without the characters that may stand in front of a line feed. -/
def linesOf (text : String) : List Line :=
  (splitLines text.toList).map fun chars =>
    Line.ofChars (if chars.getLast? = some '\r' then chars.dropLast else chars)

def skipEmpty (lines : List Line) : List Line := lines.dropWhile Line.isEmpty

def joinLines (lines : List Line) : List Char :=
  (lines.map fun line => '\n' :: line.chars).flatten

def isItem : List Char → Bool
  | '-' :: rest => setsOff false rest
  | _ => false

/-- The name of an entry and what follows its colon, if a line is an entry of a mapping. -/
def keyed? (text : List Char) : Option (String × List Char) :=
  let named :=
    match quotedText? text with
    | some result => result
    | none => plainText false text
  match named with
  | none => none
  | some (name, rest) =>
      match rest.dropWhile isBlank with
      | ':' :: after => if setsOff false after then some (name, after) else none
      | _ => none

/-- Leaves out blanks and a comment at the end of a line. -/
def skipRest (chars : List Char) : List Char := skipSpace chars.length true chars

/-- A document that begins in the middle of a line and need not end there. In front of the first
line break after it there may only be a comment. -/
def inlineNode (text : List Char) (lines : List Line) : Option (Document × List Line) :=
  let flow := text.head? = some '[' || text.head? = some '\x7b'
  let chars := text ++ if flow then joinLines lines else []
  let parsed := if flow then flowNode (chars.length + 1) chars else scalarText false chars
  match parsed with
  | none => none
  | some (document, left) =>
      let tail := left.takeWhile (· != '\n')
      if (skipSpace tail.length false tail).isEmpty then
        let used := chars.count '\n' - left.count '\n'
        some (document, lines.drop used)
      else none

mutual

/-- The document that begins with the next line, if that is indented far enough. -/
def blockNode : (fuel : Nat) → (least : Nat) → List Line → Option (Document × List Line)
  | 0, _, _ => none
  | fuel + 1, least, lines =>
      match skipEmpty lines with
      | [] => some (blank, [])
      | line :: rest =>
          if line.indent < least then some (blank, line :: rest)
          else if isItem line.text then
            (blockItems fuel line.indent (line :: rest)).map fun (items, rest) =>
              (.sequence items, rest)
          else if (keyed? line.text).isSome then
            (blockEntries fuel line.indent (line :: rest)).map fun (entries, rest) =>
              (.mapping entries, rest)
          else inlineNode line.text rest

def blockItems : (fuel : Nat) → (indent : Nat) → List Line →
    Option (List Document × List Line)
  | 0, _, _ => none
  | fuel + 1, indent, lines =>
      match skipEmpty lines with
      | [] => some ([], [])
      | line :: rest =>
          if line.indent < indent || (line.indent = indent && !isItem line.text) then
            some ([], line :: rest)
          else if line.indent = indent then
            let after := line.text.drop 1
            let item := after.dropWhile isBlank
            let inner : Line := ⟨indent + 1 + (after.length - item.length), item⟩
            match blockNode fuel (indent + 1) (inner :: rest) with
            | none => none
            | some (item, rest) =>
                (blockItems fuel indent rest).map fun (items, rest) => (item :: items, rest)
          else none

def blockEntries : (fuel : Nat) → (indent : Nat) → List Line →
    Option (List (String × Document) × List Line)
  | 0, _, _ => none
  | fuel + 1, indent, lines =>
      match skipEmpty lines with
      | [] => some ([], [])
      | line :: rest =>
          if line.indent < indent then some ([], line :: rest)
          else if line.indent = indent then
            match keyed? line.text with
            | none => none
            | some (name, after) =>
                match blockValue fuel indent (skipRest after) rest with
                | none => none
                | some (value, rest) =>
                    (blockEntries fuel indent rest).map fun (entries, rest) =>
                      ((name, value) :: entries, rest)
          else none

/-- The value of an entry, from behind its colon on. The items of a sequence may stand at the
indentation of the entry. -/
def blockValue : (fuel : Nat) → (indent : Nat) → List Char → List Line →
    Option (Document × List Line)
  | 0, _, _, _ => none
  | fuel + 1, indent, [], lines =>
      match skipEmpty lines with
      | [] => some (blank, [])
      | line :: rest =>
          if line.indent = indent && isItem line.text then
            (blockItems fuel indent (line :: rest)).map fun (items, rest) =>
              (.sequence items, rest)
          else blockNode fuel (indent + 1) (line :: rest)
  | _, _, text, lines => inlineNode text lines

end

def isAllowed (c : Char) : Bool :=
  c = '\t' || c = '\n' || c = '\r' || c = '\u0085' ||
    ('\x20' ≤ c && c ≤ '\x7e') || ('\u00a0' ≤ c && c != '\ufeff' && c != '\ufffe' && c != '\uffff')

/-- Whether spaces alone stand in front of the text of a line. -/
def isIndented (line : Line) : Bool := line.isEmpty || line.text.head? != some '\t'

/-- The lines of the only document among some lines, if there is one and nothing follows it. -/
def body? (lines : List Line) : Option (List Line) :=
  let lines := skipEmpty lines
  let lines :=
    match lines with
    | line :: rest => if line.begins then Line.mk 3 (line.text.drop 3) :: rest else lines
    | [] => []
  let body := lines.takeWhile fun line => !line.begins && !line.ends
  let after := lines.drop body.length
  if lines.isEmpty || after.any (fun line => !line.ends && !line.isEmpty) then none else some body

def parse? (text : String) : Option Document :=
  if text.toList.all isAllowed then
    match body? (linesOf text) with
    | none => none
    | some lines =>
        if lines.all isIndented then
          match blockNode (3 * text.length + 3) 0 lines with
          | some (document, rest) => if (skipEmpty rest).isEmpty then some document else none
          | none => none
        else none
  else none

end Courier.Document
