import Courier.Http.Error
import Courier.Http.Header
import Courier.Http.RequestPayload
import Courier.Http.Uri
import Courier.Net.Address
import Courier.Text.Form
import Courier.Text.Latin1

/-!
# Requests

A request as a client sends it, and the payload that stands for it in a message. Headers become
variables in the manner of a gateway: upper case, underscores, values of one name joined by commas.
Headers that concern one connection only are left out.
-/

namespace Courier.Http

/-- A request as a client sends it. -/
structure Request where
  method : String
  uri : Uri
  headers : HeaderMap
  body : List UInt8
  remote : Option Net.Address := none
  deriving DecidableEq, Repr

def method? (text : String) : Option String :=
  if isToken text.toList then some text else none

/-- The wording for a text that is no method. -/
def invalidMethod : String := "invalid HTTP method"

namespace Request

/-- The headers that concern one connection only. -/
def hopByHop : List String :=
  ["connection", "keep-alive", "proxy-authenticate", "proxy-authorization", "proxy-connection",
    "te", "trailer", "transfer-encoding", "upgrade"]

def formContentType : String := "application/x-www-form-urlencoded"

/-- The names of encoded parameters with their values in order. -/
def params (encoded : List UInt8) : Params :=
  (Text.Form.decode encoded).foldl
    (fun found pair => found.combine pair.1 [pair.2] (fun old new => old ++ new)) .empty

def isBlank (c : Char) : Bool := c = ' ' || c = '\t'

/-- Drops blanks at both ends. -/
def trim (chars : List Char) : List Char :=
  ((chars.dropWhile isBlank).reverse.dropWhile isBlank).reverse

/-- Drops a character at both ends, however often it stands there. -/
def strip (mark : Char) (chars : List Char) : List Char :=
  ((chars.dropWhile (· == mark)).reverse.dropWhile (· == mark)).reverse

/-- The parts of a text between separators; there is always at least one. -/
def splitAt (mark : Char) : List Char → List (List Char)
  | [] => [[]]
  | c :: rest =>
      if c = mark then [] :: splitAt mark rest
      else
        match splitAt mark rest with
        | [] => [[c]]
        | part :: parts => (c :: part) :: parts

def isForm (headers : HeaderMap) : Bool :=
  match (headers.first? "content-type").bind readable? with
  | none => false
  | some value => formContentType.toList.isPrefixOf (value.toList.dropWhile isBlank)

/-- A cookie: blanks around its name and value do not count, nor quotation marks around its
value. -/
def cookie? (part : List Char) : Option (String × String) :=
  let pair := trim part
  let name := trim (pair.takeWhile (· != '='))
  match pair.dropWhile (· != '=') with
  | [] => none
  | _ :: value =>
      if name.isEmpty then none
      else some (String.ofList name, String.ofList (strip '"' (trim value)))

/-- The cookies of a request; the last value of a name wins. -/
def cookies (headers : HeaderMap) : Dict String :=
  let readable := (headers.values "cookie").filterMap readable?
  Dict.ofPairs (readable.flatMap fun value => (splitAt ';' value.toList).filterMap cookie?)

def variableName (header : String) : String :=
  if header = "content-length" then "CONTENT_LENGTH"
  else if header = "content-type" then "CONTENT_TYPE"
  else
    "HTTP_" ++
      String.ofList (header.toList.map fun c => if c = '-' then '_' else upperChar c)

/-- A text cut at its last colon. -/
def cutPort (chars : List Char) : Option (List Char × List Char) :=
  let back := chars.reverse
  match back.dropWhile (· != ':') with
  | [] => none
  | _ :: front => some (front.reverse, (back.takeWhile (· != ':')).reverse)

def isPort (chars : List Char) : Bool :=
  let digits := match chars with
    | '+' :: rest => rest
    | _ => chars
  !digits.isEmpty && digits.all Char.isDigit &&
    (digits.foldl (fun value c => value * 10 + (c.toNat - 48)) 0) < 65536

/-- The name and the port of the server that an authority names. -/
def server : Option String → String × String
  | none => ("unknown", "0")
  | some authority =>
      match cutPort authority.toList with
      | some (name, port) =>
          if isPort port then (String.ofList name, String.ofList port) else (authority, "80")
      | none => (authority, "80")

/-- The authority that a request is for: that of its target, or else the host header. -/
def authority? (request : Request) : Option String :=
  request.uri.authority.or ((request.headers.first? "host").bind readable?)

/-- The path below a mount point; a path that does not begin with the mount point stays whole. -/
def pathBelow (root path : String) : String :=
  if root = "" then path
  else if root.toList.isPrefixOf path.toList then
    String.ofList (path.toList.drop root.toList.length)
  else path

def serverVariables (request : Request) (root pathInfo method : String) : Dict String :=
  let (name, port) := server request.authority?
  let remote := match request.remote with
    | none => []
    | some address =>
        [("REMOTE_ADDR", address.host.text), ("REMOTE_HOST", address.host.text),
          ("REMOTE_PORT", toString address.port)]
  Dict.ofPairs
    ([("REQUEST_METHOD", method), ("QUERY_STRING", request.uri.query.getD ""),
      ("SCRIPT_NAME", root), ("PATH_INFO", pathInfo), ("SERVER_NAME", name),
      ("SERVER_PORT", port)] ++ remote)

/-- Adds the variable of a header; another value of the same variable follows a comma. -/
def addHeader (environ : Dict String) (header : String × List UInt8) : Dict String :=
  if hopByHop.contains header.1 then environ
  else
    environ.combine (variableName header.1) (Latin1.decode header.2)
      (fun old new => old ++ "," ++ new)

/-- The payload that stands for a request below a mount point. -/
def encode (request : Request) (replyChannel root : String) : Except Error RequestPayload :=
  let path := request.uri.path
  let pathInfo := pathBelow root path
  let method := upper request.method
  let form := isForm request.headers
  if form && (Utf8.decode? request.body).isNone then .error (.badRequest "Form body is not UTF-8")
  else
    .ok
      { get := params (Utf8.encode (request.uri.query.getD ""))
        post := if form then params request.body else .empty
        cookies := cookies request.headers
        environ :=
          request.headers.pairs.foldl addHeader (serverVariables request root pathInfo method)
        path, pathInfo, method, replyChannel
        body := request.body }

end Request

namespace RequestPayload

def sessionKeyParam : String := "session_key"

def queryParam? (payload : RequestPayload) (name : String) : Option String :=
  (payload.get.find? name).bind List.head?

def formParam? (payload : RequestPayload) (name : String) : Option String :=
  (payload.post.find? name).bind List.head?

def cookie? (payload : RequestPayload) (name : String) : Option String :=
  payload.cookies.find? name

def queryString (payload : RequestPayload) : String :=
  (payload.environ.find? "QUERY_STRING").getD ""

/-- The key of the session: a query parameter, or else a cookie. -/
def sessionKey? (payload : RequestPayload) (cookieName : String) : Option String :=
  (payload.queryParam? sessionKeyParam).or (payload.cookie? cookieName)

/-- A character of a variable as one of a header name. Beyond ASCII only the Kelvin sign has a
lower case that may stand in a header name. -/
def headerChar (c : Char) : Char :=
  if c = '_' then '-' else if c = '\u212a' then 'k' else lowerChar c

def headerOfVariable? (name : String) : Option String :=
  if name = "CONTENT_TYPE" then some "content-type"
  else if name = "CONTENT_LENGTH" then some "content-length"
  else
    match name.toList with
    | 'H' :: 'T' :: 'T' :: 'P' :: '_' :: rest => headerName? (String.ofList (rest.map headerChar))
    | _ => none

/-- The header, with its value, that a variable stands for. -/
def headerOf? (entry : String × String) : Option (String × List UInt8) := do
  let name ← headerOfVariable? entry.1
  let bytes ← Latin1.encode? entry.2
  let value ← headerValue? bytes
  return (name, value)

def headers (payload : RequestPayload) : HeaderMap :=
  .ofPairs (payload.environ.entries.filterMap headerOf?)

def toRequest (payload : RequestPayload) : Except Error Request :=
  let query := payload.queryString
  let target := if query = "" then payload.path else payload.path ++ "?" ++ query
  match Uri.ofText target with
  | .error error => .error (.badRequest ("Invalid request path: " ++ error.message))
  | .ok uri =>
      match method? payload.method with
      | none => .error (.badRequest ("Invalid method: " ++ invalidMethod))
      | some method => .ok { method, uri, headers := payload.headers, body := payload.body }

end RequestPayload

end Courier.Http
