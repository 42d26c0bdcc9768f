import Courier.Log

/-!
# Log filters

A filter lets an entry through if it is serious enough for the part of the program that reported it.
It is written as directives with commas between them: a verbosity, the name of a part, or both with
a sign of equality between them. The directive with the longest name that the part begins with
decides.
-/

namespace Courier.Logging

/-- How much is let through. -/
inductive Verbosity where
  | off
  | error
  | warning
  | info
  | debug
  | trace
  deriving DecidableEq, Repr

namespace Verbosity

/-- How many severities are let through. -/
def rank : Verbosity → Nat
  | off => 0
  | error => 1
  | warning => 2
  | info => 3
  | debug => 4
  | trace => 5

/-- The verbosities with their names. -/
def named : List (String × Verbosity) :=
  [("off", off), ("error", error), ("warn", warning), ("info", info), ("debug", debug),
    ("trace", trace)]

/-- A number in decimal digits, with or without a plus sign. -/
def number? (chars : List Char) : Option Nat :=
  let digits := if chars.head? = some '+' then chars.drop 1 else chars
  if digits.isEmpty || !digits.all Char.isDigit then none
  else some (digits.foldl (fun value c => value * 10 + (c.toNat - '0'.toNat)) 0)

/-- The verbosity of a rank. -/
def ofRank? (rank : Nat) : Option Verbosity :=
  (named.map Prod.snd).find? fun verbosity => verbosity.rank = rank

/-- The verbosity of a rank or of a name, in letters of any case. -/
def ofChars? (chars : List Char) : Option Verbosity :=
  match (number? chars).bind ofRank? with
  | some verbosity => some verbosity
  | none =>
      let lower := String.ofList (chars.map Char.toLower)
      (named.find? fun entry => entry.1 = lower).map Prod.snd

end Verbosity

/-- The rank of the verbosity that a severity needs. -/
def rankOf : Severity → Nat
  | .error => 1
  | .warning => 2
  | .info => 3

/-- Why a text is not a filter. -/
inductive FilterError where
  | directive
  | verbosity
  deriving DecidableEq, Repr

def FilterError.message : FilterError → String
  | directive => "invalid filter directive"
  | verbosity =>
      "error parsing level filter: expected one of \"off\", \"error\", \"warn\", \"info\", " ++
        "\"debug\", \"trace\", or a number 0-5"

/-- The wording of what caused an error, if anything else did. -/
def FilterError.cause? : FilterError → Option String
  | directive => none
  | verbosity => some FilterError.verbosity.message

/-- A directive: for the entries of some part of a program, or of all of it, or for what happens
inside named spans, of which there are none. -/
inductive Directive where
  | entries (target : Option String) (verbosity : Verbosity)
  | spans
  deriving DecidableEq, Repr

namespace Directive

def isBlank (c : Char) : Bool := c.isWhitespace || c = '\x0b' || c = '\x0c'

/-- Text without blanks at both ends. -/
def trim (chars : List Char) : List Char :=
  ((chars.dropWhile isBlank).reverse.dropWhile isBlank).reverse

/-- Whether the name of a part may begin with a character. -/
def startsName (c : Char) : Bool :=
  c.isAlphanum || c = '-' || c = ':' || c = '_' || 0x80 ≤ c.toNat

/-- The verbosity behind a sign of equality; nothing stands for everything. -/
def verbosity (chars : List Char) : Except FilterError Verbosity :=
  if chars.isEmpty then .ok .trace
  else
    match Verbosity.ofChars? chars with
    | some verbosity => .ok verbosity
    | none => .error .verbosity

/-- What may follow the name of a span. -/
def afterSpan : List Char → Except FilterError Directive
  | [] => .ok .spans
  | '=' :: rest => (verbosity rest).map fun _ => .spans
  | _ => .error .directive

/-- A directive for a span, from behind its opening bracket on. -/
def span (chars : List Char) : Except FilterError Directive :=
  let name := chars.takeWhile fun c => c != ']' && c != '\x7b'
  match chars.drop name.length with
  | ']' :: rest => afterSpan rest
  | '\x7b' :: rest =>
      let inner := rest.takeWhile (· != '\x7d')
      match rest.drop inner.length with
      | '\x7d' :: ']' :: rest => if inner.isEmpty then .error .directive else afterSpan rest
      | _ => .error .directive
  | _ => .error .directive

/-- A directive without a sign of equality: a verbosity, or else the name of a part. -/
def single (chars : List Char) : Directive :=
  match Verbosity.ofChars? chars with
  | some verbosity => .entries none verbosity
  | none => .entries (some (String.ofList chars)) .trace

/-- Reads a directive. Blanks in front of it shift its parts. -/
def parse (chars : List Char) : Except FilterError Directive :=
  match trim chars with
  | [] => .error .directive
  | '[' :: rest => span rest
  | c :: rest =>
      if startsName c then
        let trimmed := c :: rest
        let name := trimmed.takeWhile fun c => c != '=' && c != '['
        match trimmed.drop name.length with
        | [] => .ok (single chars)
        | '=' :: _ =>
            (verbosity (chars.drop (name.length + 1))).map fun verbosity =>
              .entries (some (String.ofList (chars.take name.length))) verbosity
        | _ :: rest => span rest
      else .error .directive

end Directive

/-- A filter. -/
structure Filter where
  directives : List Directive
  deriving DecidableEq, Repr

namespace Filter

/-- The parts of a text between commas that are not empty. -/
def parts (chars : List Char) : List (List Char) :=
  (chars.splitBy fun left right => left != ',' && right != ',').filter fun part => part != [',']

def parseAll : List (List Char) → Except FilterError (List Directive)
  | [] => .ok []
  | part :: rest =>
      match Directive.parse part with
      | .error error => .error error
      | .ok directive => (parseAll rest).map fun directives => directive :: directives

/-- Reads a filter; without directives it lets errors through. -/
def parse (text : String) : Except FilterError Filter :=
  (parseAll (parts text.toList)).map fun directives =>
    ⟨if directives.isEmpty then [.entries none .error] else directives⟩

/-- How specific a directive is for a part of the program, if it is meant for it. -/
def weight? (part : String) : Directive → Option (Nat × Verbosity)
  | .entries none verbosity => some (0, verbosity)
  | .entries (some target) verbosity =>
      if target.toList.isPrefixOf part.toList then some (target.length + 1, verbosity) else none
  | .spans => none

/-- The more specific of two verbosities, the later one of two that are equally specific. -/
def better : Option (Nat × Verbosity) → Option (Nat × Verbosity) → Option (Nat × Verbosity)
  | some left, some right => if left.1 ≤ right.1 then some right else some left
  | none, right => right
  | left, none => left

def verbosityFor (filter : Filter) (part : String) : Verbosity :=
  (((filter.directives.map (weight? part)).foldl better none).map Prod.snd).getD .off

def allows (filter : Filter) (part : String) (severity : Severity) : Bool :=
  rankOf severity ≤ (filter.verbosityFor part).rank

end Filter

end Courier.Logging
