import Courier.Text.Utf8

/-!
# Request targets

What a request asks for: a path with a query, a path on a given host, or a host alone. A fragment
is dropped, and nothing is decoded.
-/

namespace Courier.Http

/-- Why a text is no request target. -/
inductive UriError where
  | empty
  | tooLong
  | invalidCharacter
  | invalidAuthority
  | invalidFormat
  | schemeTooLong
  deriving DecidableEq, Repr

def UriError.message : UriError → String
  | empty => "empty string"
  | tooLong => "uri too long"
  | invalidCharacter => "invalid uri character"
  | invalidAuthority => "invalid authority"
  | invalidFormat => "invalid format"
  | schemeTooLong => "scheme too long"

/-- A request target. -/
structure Uri where
  scheme : Option String
  authority : Option String
  path : String
  query : Option String
  deriving DecidableEq, Repr

namespace Uri

def lengthLimit : Nat := 65534

def schemeLimit : Nat := 64

/-- How many colons an authority may have in a row of groups. -/
def colonLimit : Nat := 8

def text (uri : Uri) : String :=
  (match uri.scheme with
    | none => ""
    | some scheme => scheme ++ "://") ++
  uri.authority.getD "" ++ uri.path ++
  match uri.query with
  | none => ""
  | some query => "?" ++ query

/-- Whether a code lies in a range. -/
def within (first last code : Nat) : Bool := first ≤ code && code ≤ last

def isPathChar (c : Char) : Bool :=
  let code := c.toNat
  code == 0x21 || within 0x24 0x3B code || code == 0x3D || within 0x40 0x5F code ||
    within 0x61 0x7E code || 0x80 ≤ code || code == 0x22

def isQueryChar (c : Char) : Bool :=
  let code := c.toNat
  code == 0x21 || within 0x24 0x3B code || code == 0x3D || within 0x3F 0x7E code || 0x80 ≤ code

/-- The front of a text up to the first of some characters, and the rest from there on. -/
def cut (stops : List Char) (input : List Char) : List Char × List Char :=
  (input.takeWhile fun c => !stops.contains c, input.dropWhile fun c => !stops.contains c)

/-- A path and a query, up to a fragment. -/
def pathAndQuery (input : List Char) : Except UriError (String × Option String) :=
  let (path, rest) := cut ['?', '#'] input
  if !path.all isPathChar then .error .invalidCharacter
  else
    match rest with
    | '?' :: rest =>
        let (query, _) := cut ['#'] rest
        if query.all isQueryChar then .ok (String.ofList path, some (String.ofList query))
        else .error .invalidCharacter
    | _ => .ok (String.ofList path, none)

def isAuthorityChar (c : Char) : Bool :=
  c.isAlphanum ||
    ['!', '$', '&', '\x27', '(', ')', '*', '+', ',', '-', '.', ':', ';', '=', '@', '[', ']', '_',
      '~'].contains c

/-- What has been seen of an authority so far. -/
structure AuthorityState where
  colons : Nat := 0
  opened : Bool := false
  closed : Bool := false
  percent : Bool := false
  endsInAt : Bool := false

/-- Follows one character of an authority. A colon, a bracket or a percent sign inside the user
part or inside brackets is not one of the host. -/
def AuthorityState.next (state : AuthorityState) (c : Char) : Except UriError AuthorityState :=
  let state := { state with endsInAt := false }
  match c with
  | ':' =>
      if colonLimit ≤ state.colons then .error .invalidAuthority
      else .ok { state with colons := state.colons + 1 }
  | '[' =>
      if state.percent || state.opened then .error .invalidAuthority
      else .ok { state with opened := true }
  | ']' =>
      if !state.opened || state.closed then .error .invalidAuthority
      else .ok { state with closed := true, colons := 0, percent := false }
  | '@' => .ok { state with endsInAt := true, colons := 0, percent := false }
  | '%' => .ok { state with percent := true }
  | c => if isAuthorityChar c then .ok state else .error .invalidCharacter

def AuthorityState.complete (state : AuthorityState) : Bool :=
  state.opened == state.closed && state.colons ≤ 1 && !state.endsInAt && !state.percent

/-- The authority at the front of a text, and the rest. -/
def authorityPart (input : List Char) : Except UriError (List Char × List Char) :=
  let (front, rest) := cut ['/', '?', '#'] input
  match front.foldlM (fun state c => AuthorityState.next state c) ({} : AuthorityState) with
  | .error error => .error error
  | .ok state => if state.complete then .ok (front, rest) else .error .invalidAuthority

def isSchemeChar (c : Char) : Bool := c.isAlphanum || ['+', '-', '.', '~'].contains c

/-- The scheme at the front of a text, and what follows its colon and slashes. -/
def schemePart? (input : List Char) : Except UriError (Option (List Char × List Char)) :=
  match input.takeWhile isSchemeChar, input.dropWhile isSchemeChar with
  | scheme, ':' :: '/' :: '/' :: rest =>
      if schemeLimit < scheme.length then .error .schemeTooLong else .ok (some (scheme, rest))
  | _, _ => .ok none

/-- The two common schemes are written in lower case. -/
def schemeText (scheme : List Char) : String :=
  let lower := String.ofList (scheme.map Char.toLower)
  if lower = "http" ∨ lower = "https" then lower else String.ofList scheme

/-- A target that does not start with a slash. -/
def full (input : List Char) : Except UriError Uri := do
  match ← schemePart? input with
  | none =>
      let (authority, rest) ← authorityPart input
      if rest.isEmpty then return ⟨none, some (String.ofList authority), "", none⟩
      else throw .invalidFormat
  | some (scheme, rest) =>
      let (authority, rest) ← authorityPart rest
      if authority.isEmpty then throw .invalidFormat
      else
        let (path, query) ← pathAndQuery rest
        return ⟨some (schemeText scheme), some (String.ofList authority),
          if path = "" then "/" else path, query⟩

def ofText (text : String) : Except UriError Uri :=
  if lengthLimit < Utf8.length text then .error .tooLong
  else
    match text.toList with
    | [] => .error .empty
    | ['*'] => .ok ⟨none, none, "*", none⟩
    | ['?'] => .error .invalidCharacter
    | ['#'] => .error .invalidCharacter
    | '/' :: rest => do
        let (path, query) ← pathAndQuery ('/' :: rest)
        return ⟨none, none, path, query⟩
    | input => full input

end Uri

end Courier.Http
