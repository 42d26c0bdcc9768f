import Courier.Proofs.Http.Rebuilding

/-!
# Variables that no header can set

Every variable of a header is named for a header. So the variables under all other names are as the
server has set them: what they say comes from the request line, from the connection and from the
mount point, and the only header that has a say in them is the one that names the host. Two requests
that differ in other headers cannot be told apart by them.
-/

namespace Courier.Http

namespace Request

variable {left right : Request} {first second : RequestPayload}
  {replyChannel root pathInfo method key : String}

/-- Requests that agree on everything but headers, and name the same host. -/
structure SameButHeaders (left right : Request) : Prop where
  method : left.method = right.method
  uri : left.uri = right.uri
  body : left.body = right.body
  remote : left.remote = right.remote
  host : left.uri.authority.isSome = true ∨ left.headers.first? "host" = right.headers.first? "host"

theorem SameButHeaders.authority? (same : SameButHeaders left right) :
    left.authority? = right.authority? := by
  simp only [Request.authority?, ← same.uri]
  rcases same.host with given | host
  · rcases Option.isSome_iff_exists.mp given with ⟨authority, found⟩
    simp [found]
  · rw [host]

theorem SameButHeaders.serverVariables (same : SameButHeaders left right) :
    serverVariables left root pathInfo method = serverVariables right root pathInfo method := by
  simp only [Request.serverVariables, same.authority?, same.uri, same.remote]

/-- The names of the variables that no header can set are the server's. -/
theorem mem_keys_of_server (server : ¬IsHeaderVariable key) :
    key ∈ (allVariables left root pathInfo method).keys ↔
      key ∈ ownVariables ∨ left.remote.isSome = true ∧ key ∈ remoteVariables := by
  rw [← mem_keys_serverVariables, Dict.mem_keys, Dict.mem_keys, find?_allVariables_of_server server]

/-! ## Main result -/

/-- Payloads of requests that differ in headers only, but name the same host, agree on all that is
not taken from headers: on the path and what is left of it below the mount point, on the method, the
parameters, the reply channel and the body, and on the variables that no header can set. These are
there or not regardless of the headers. -/
theorem headers_do_not_forge_variables (same : SameButHeaders left right)
    (leftEncoded : left.encode replyChannel root = .ok first)
    (rightEncoded : right.encode replyChannel root = .ok second) :
    (RequestPayload.ofMessage first.toMessage = .ok first ∧
      RequestPayload.ofMessage second.toMessage = .ok second) ∧
    first.path = second.path ∧ first.pathInfo = second.pathInfo ∧
    first.method = second.method ∧ first.get = second.get ∧
    first.replyChannel = second.replyChannel ∧ first.body = second.body ∧
    ∀ key, ¬IsHeaderVariable key →
      first.environ.find? key = second.environ.find? key ∧
      (key ∈ first.environ.keys ↔ key ∈ second.environ.keys) ∧
      (key ∈ first.environ.keys ↔
        key ∈ ownVariables ∨ left.remote.isSome = true ∧ key ∈ remoteVariables) := by
  rcases encode_eq_ok_iff.mp leftEncoded with ⟨rfl, -⟩
  rcases encode_eq_ok_iff.mp rightEncoded with ⟨rfl, -⟩
  refine ⟨⟨RequestPayload.ofMessage_toMessage _, RequestPayload.ofMessage_toMessage _⟩,
    ?_, ?_, ?_, ?_, rfl, same.body, ?_⟩
  · simp only [payload, same.uri]
  · simp only [payload, same.uri]
  · simp only [payload, same.method]
  · simp only [payload, same.uri]
  · intro key server
    have agree : (left.payload replyChannel root).environ.find? key =
        (right.payload replyChannel root).environ.find? key := by
      simp only [payload, find?_allVariables_of_server server, same.serverVariables, same.uri,
        same.method]
    refine ⟨agree, ?_, mem_keys_of_server server⟩
    rw [Dict.mem_keys, Dict.mem_keys, agree]

/-- A request from a known address. -/
def honest : Request :=
  { method := "GET", uri := ⟨none, none, "/app/x", some "q=1"⟩,
    headers := .ofPairs [("host", [97, 58, 56, 49])], body := [],
    remote := some ⟨.four [127, 0, 0, 1], 9⟩ }

/-- The same request with headers that are named like variables of the server. -/
def forged : Request :=
  { honest with
    headers := .ofPairs [("remote_addr", [54]), ("host", [97, 58, 56, 49]), ("path-info", [47])] }

theorem headers_do_not_forge_variables_forged :
    ∃ first second, SameButHeaders forged honest ∧ forged.headers ≠ honest.headers ∧
      forged.encode "r" "/app" = .ok first ∧ honest.encode "r" "/app" = .ok second ∧
      first.environ.find? "HTTP_REMOTE_ADDR" = some "6" ∧
      first.environ.find? "REMOTE_ADDR" = some "127.0.0.1" ∧
      first.environ.find? "SERVER_PORT" = some "81" ∧ first.environ.find? "PATH_INFO" = some "/x" ∧
      ∀ key ∈ ownVariables ++ remoteVariables,
        first.environ.find? key = second.environ.find? key := by
  have same : SameButHeaders forged honest := ⟨rfl, rfl, rfl, rfl, Or.inr (by decide)⟩
  have leftEncoded := @encode_of_not_form forged "r" "/app" (by decide)
  have rightEncoded := @encode_of_not_form honest "r" "/app" (by decide)
  have server : ∀ key ∈ ownVariables ++ remoteVariables, ¬IsHeaderVariable key := by decide
  have unforged := headers_do_not_forge_variables same leftEncoded rightEncoded
  rcases unforged with ⟨-, -, -, -, -, -, -, agree⟩
  refine ⟨_, _, same, by decide, leftEncoded, rightEncoded, ?_, ?_, ?_, ?_, ?_⟩
  · decide +kernel
  · decide +kernel
  · decide +kernel
  · decide +kernel
  · intro key mem
    exact (agree key (server key mem)).1

end Request

end Courier.Http
