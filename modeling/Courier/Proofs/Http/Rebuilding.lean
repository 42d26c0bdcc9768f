import Courier.Proofs.Http.Targets
import Courier.Proofs.Http.Variables
import Courier.Proofs.Payload.Schemas

/-!
# Rebuilding requests

A request stands behind its payload, except for a form whose body is no text, and can be rebuilt
from it wherever the payload has come. The rebuilt request asks for the same path and query, but no
longer tells the host. It has the headers that travel, each of them once with its values joined.
-/

namespace Courier.Http

namespace Request

variable {request : Request} {replyChannel root : String}

/-! ## Payloads -/

/-- A form whose body is no text. -/
def Garbled (request : Request) : Prop :=
  isForm request.headers = true ∧ Utf8.decode? request.body = none

/-- The payload that stands for a request, if any does. -/
def payload (request : Request) (replyChannel root : String) : RequestPayload where
  get := params (Utf8.encode (request.uri.query.getD ""))
  post := if isForm request.headers then params request.body else .empty
  cookies := cookies request.headers
  environ := allVariables request root (pathBelow root request.uri.path) (upper request.method)
  path := request.uri.path
  pathInfo := pathBelow root request.uri.path
  method := upper request.method
  replyChannel := replyChannel
  body := request.body

theorem encode_of_garbled (garbled : request.Garbled) :
    request.encode replyChannel root = .error (.badRequest "Form body is not UTF-8") := by
  rcases garbled with ⟨form, noText⟩
  simp [encode, form, noText]

theorem encode_of_not_garbled (clear : ¬request.Garbled) :
    request.encode replyChannel root = .ok (request.payload replyChannel root) := by
  rw [encode, if_neg]
  · rfl
  · intro garbled
    rw [Bool.and_eq_true, Option.isNone_iff_eq_none] at garbled
    exact clear garbled

theorem encode_of_not_form (noForm : isForm request.headers = false) :
    request.encode replyChannel root = .ok (request.payload replyChannel root) := by
  apply encode_of_not_garbled
  rintro ⟨form, -⟩
  rw [noForm] at form
  cases form

theorem encode_eq_error_iff {error : Error} :
    request.encode replyChannel root = .error error ↔
      error = .badRequest "Form body is not UTF-8" ∧ request.Garbled := by
  by_cases garbled : request.Garbled
  · simp [encode_of_garbled garbled, garbled, eq_comm]
  · simp [encode_of_not_garbled garbled, garbled]

theorem encode_eq_ok_iff {carried : RequestPayload} :
    request.encode replyChannel root = .ok carried ↔
      carried = request.payload replyChannel root ∧ ¬request.Garbled := by
  by_cases garbled : request.Garbled
  · simp [encode_of_garbled garbled, garbled]
  · simp [encode_of_not_garbled garbled, garbled, eq_comm]

/-! ## Rebuilt requests -/

/-- A request that a client can send. -/
structure Native (request : Request) : Prop where
  method : method? request.method = some request.method
  target : ∃ text, Uri.ofText text = .ok request.uri
  headers : request.headers.Legal

theorem native_ofPairs {method text : String} {uri : Uri} {pairs : List (String × List UInt8)}
    {body : List UInt8} (isMethod : method? method = some method) (read : Uri.ofText text = .ok uri)
    (headers : ∀ pair ∈ pairs,
      headerName? pair.1 = some pair.1 ∧ headerValue? pair.2 = some pair.2) :
    Native { method, uri, headers := .ofPairs pairs, body } := by
  refine ⟨isMethod, ⟨text, read⟩, HeaderMap.legal_ofPairs ?_⟩
  intro pair mem
  exact ⟨(headers pair mem).1, (headers pair mem).2⟩

/-- A request as it is rebuilt: it asks for the same on the host at hand, and tells each header that
travels once, with the values joined by commas. -/
structure Rebuilt (request rebuilt : Request) : Prop where
  method : rebuilt.method = upper request.method
  uri : rebuilt.uri = ⟨none, none, request.uri.path, request.uri.query.filter (· ≠ "")⟩
  headers : rebuilt.headers.Legal
  values : ∀ name,
    rebuilt.headers.values name = (commaJoined (request.forwarded name)).toList
  body : rebuilt.body = request.body

theorem Native.rebuilt (native : request.Native) (nonempty : request.uri.path ≠ "")
    (plain : ∀ pair ∈ request.headers.pairs, '_' ∉ pair.1.toList) (replyChannel root : String) :
    ∃ rebuilt, (request.payload replyChannel root).toRequest = .ok rebuilt ∧
      request.Rebuilt rebuilt := by
  have isPlain : request.Plain := ⟨native.headers, plain⟩
  have query : (request.payload replyChannel root).queryString = request.uri.query.getD "" := by
    rw [RequestPayload.queryString, Request.payload, find?_queryString]
    rfl
  have token : isToken request.method.toList = true := by
    have isMethod := native.method
    rw [method?] at isMethod
    split at isMethod
    · assumption
    · cases isMethod
  rcases native.target with ⟨text, read⟩
  have target := Uri.ofText_targetText (Uri.legal_of_ofText read) nonempty
  refine ⟨{ method := upper request.method,
            uri := ⟨none, none, request.uri.path, request.uri.query.filter (· ≠ "")⟩,
            headers := (request.payload replyChannel root).headers,
            body := request.body }, ?_, rfl, rfl, RequestPayload.legal_headers _, ?_, rfl⟩
  · simp only [RequestPayload.toRequest, query]
    rw [Uri.targetText] at target
    simp only [Request.payload] at target ⊢
    rw [target, method?_upper token]
  · intro name
    exact RequestPayload.values_headers_of_variables isPlain rfl name

/-! ## Main result -/

/-- Only a form whose body is no text has no payload. The payload of any other request travels, and
a request is rebuilt from it. -/
theorem requests_are_rebuilt (native : request.Native) (nonempty : request.uri.path ≠ "")
    (plain : ∀ pair ∈ request.headers.pairs, '_' ∉ pair.1.toList) (replyChannel root : String) :
    (∀ error, request.encode replyChannel root = .error error ↔
      error = .badRequest "Form body is not UTF-8" ∧ request.Garbled) ∧
      ∀ payload, request.encode replyChannel root = .ok payload →
        Payload.Travels RequestPayload.toMessage RequestPayload.ofMessage payload ∧
          ∃ rebuilt, payload.toRequest = .ok rebuilt ∧ request.Rebuilt rebuilt := by
  refine ⟨fun _ => encode_eq_error_iff, ?_⟩
  intro payload accepted
  rcases encode_eq_ok_iff.mp accepted with ⟨rfl, -⟩
  exact ⟨Payload.request_travels _, native.rebuilt nonempty plain replyChannel root⟩

/-- A request with a repeated header, one value of which is no ASCII text, and with a header that
concerns one connection only. -/
def marked : Request :=
  { method := "post", uri := ⟨some "http", some "a.b", "/p", some "q=1"⟩,
    headers := .ofPairs [("x-mark", [49]), ("te", [116]), ("x-mark", [255])], body := [0, 255] }

theorem native_marked : marked.Native :=
  native_ofPairs (by decide) (show Uri.ofText "http://a.b/p?q=1#end" = .ok marked.uri from rfl)
    (by decide)

theorem requests_are_rebuilt_marked :
    marked.Native ∧ marked.uri.path ≠ "" ∧
      (∀ pair ∈ marked.headers.pairs, '_' ∉ pair.1.toList) ∧
      ∃ payload rebuilt, marked.encode "r" "/p" = .ok payload ∧
        payload.toRequest = .ok rebuilt ∧ rebuilt.method = "POST" ∧
        rebuilt.uri = ⟨none, none, "/p", some "q=1"⟩ ∧ rebuilt.body = [0, 255] ∧
        rebuilt.headers.values "x-mark" = [[49, 44, 255]] ∧ rebuilt.headers.values "te" = [] := by
  have nonempty : marked.uri.path ≠ "" := by decide
  have plain : ∀ pair ∈ marked.headers.pairs, '_' ∉ pair.1.toList := by decide
  have clear : ¬marked.Garbled := by
    rintro ⟨form, -⟩
    exact absurd form (by decide)
  have accepted := @encode_of_not_garbled marked "r" "/p" clear
  have survives := (requests_are_rebuilt native_marked nonempty plain "r" "/p").2 _ accepted
  rcases survives with ⟨-, rebuilt, built, same⟩
  refine ⟨native_marked, nonempty, plain, _, rebuilt, accepted, built, ?_, ?_, same.body, ?_, ?_⟩
  · rw [same.method]
    decide
  · rw [same.uri]
    decide
  · rw [same.values]
    decide
  · rw [same.values]
    decide

end Request

end Courier.Http
