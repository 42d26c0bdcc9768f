import Courier.Http.Error
import Courier.Http.Header
import Courier.Log
import Courier.Text.Latin1

/-!
# Responses

A response as a consumer builds it, and as a client receives it. The consumer's headers are text,
kept in order and in their own case, with cookies aside; the client's headers are bytes under names
in lower case.
-/

namespace Courier.Http

/-- The body of a response: known as a whole, or produced part by part. -/
inductive Body where
  | full (content : List UInt8)
  | streaming (parts : List (List UInt8))
  deriving DecidableEq, Repr

namespace Body

def bytes : Body → List UInt8
  | .full content => content
  | .streaming parts => parts.flatten

def full? : Body → Option (List UInt8)
  | .full content => some content
  | .streaming _ => none

/-- A body in one line, without its bytes. -/
def summary : Body → String
  | .full content => "Full(" ++ toString content.length ++ ")"
  | .streaming _ => "Streaming"

end Body

/-- A response as a consumer builds it. -/
structure Response where
  status : Status
  headers : List (String × String)
  cookies : List String
  body : Body
  deriving DecidableEq

/-- A response as a client receives it; its body may have broken off. -/
structure NativeResponse where
  status : Status
  headers : HeaderMap
  body : List UInt8
  broken : Bool := false
  deriving DecidableEq

def plainText : String := "text/plain; charset=utf-8"

def setCookie : String := "Set-Cookie"

/-- The header that a pair of texts stands for. -/
def headerPair (name value : String) : Except Error (String × List UInt8) :=
  match headerName? name with
  | none =>
      .error (.invalidResponse ("Invalid header name " ++ name ++ ": " ++ invalidHeaderName))
  | some key =>
      match Latin1.encode? value with
      | none => .error (.invalidResponse ("Header " ++ name ++ " is not latin-1"))
      | some bytes =>
          match headerValue? bytes with
          | none =>
              .error (.invalidResponse
                ("Invalid header value for " ++ name ++ ": " ++ invalidHeaderValue))
          | some value => .ok (key, value)

/-- The headers that pairs of texts stand for, unless one of them is none. -/
def headerPairs : List (String × String) → Except Error (List (String × List UInt8))
  | [] => .ok []
  | (name, value) :: rest =>
      match headerPair name value with
      | .error error => .error error
      | .ok pair =>
          match headerPairs rest with
          | .error error => .error error
          | .ok pairs => .ok (pair :: pairs)

namespace NativeResponse

def plain (status : Status) (text : String) : NativeResponse :=
  { status
    headers := .ofPairs [("content-type", (Utf8.encode plainText))]
    body := Utf8.encode text }

/-- What a client sees of an error. -/
def ofError (error : Error) : NativeResponse := plain error.status error.status.line

end NativeResponse

namespace Response

/-- A response without headers and without a body. -/
def ofStatus (status : Status) : Response := ⟨status, [], [], .full []⟩

def text (status : Status) (content : String) : Response :=
  ⟨status, [("Content-Type", plainText)], [], .full (Utf8.encode content)⟩

/-- What is sent when a consumer could not build a response. -/
def failure : Response := text .internalServerError (Status.internalServerError.line)

/-- The first value of a header, without regard to case. -/
def header? (response : Response) (name : String) : Option String :=
  (response.headers.find? fun header => sameName header.1 name).map Prod.snd

/-- All headers, the cookies behind the others. -/
def allHeaders (response : Response) : List (String × String) :=
  response.headers ++ response.cookies.map fun cookie => (setCookie, cookie)

/-- A response with cookies told apart from other headers. -/
def ofHeaders (status : Status) (headers : List (String × String)) (body : Body) : Response :=
  { status
    headers := headers.filter fun header => !sameName header.1 setCookie
    cookies := (headers.filter fun header => sameName header.1 setCookie).map Prod.snd
    body }

/-- The response that stands for one a client could receive. -/
def ofNative (native : NativeResponse) : Response :=
  ofHeaders native.status
    (native.headers.pairs.map fun pair => (pair.1, Latin1.decode pair.2)) (.full native.body)

/-- The response as a client receives it, unless a header does not stand for one. -/
def toNative? (response : Response) : Except Error NativeResponse :=
  match headerPairs response.allHeaders with
  | .error error => .error error
  | .ok pairs =>
      .ok { status := response.status, headers := .ofPairs pairs, body := response.body.bytes }

/-- The response as a client receives it, with what is to be logged; a plain error takes the place
of a response with a bad header. -/
def toNative (response : Response) : NativeResponse × List LogEntry :=
  match response.toNative? with
  | .ok native => (native, [])
  | .error error =>
      (.plain .internalServerError Status.internalServerError.line,
        [.warning ("Falling back to plain-text response: " ++ error.message)])

end Response

end Courier.Http
