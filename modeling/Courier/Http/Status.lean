/-!
# Statuses

Status codes of responses, from 100 to 999, and the phrases for those that the library itself gives.
-/

namespace Courier.Http

/-- A status code. -/
structure Status where
  code : Nat
  valid : 100 ≤ code ∧ code ≤ 999 := by decide
  deriving DecidableEq

namespace Status

/-- The status with a given code, if it is in range. -/
def ofCode? (code : Nat) : Option Status :=
  if valid : 100 ≤ code ∧ code ≤ 999 then some ⟨code, valid⟩ else none

def ok : Status := ⟨200, by decide⟩
def badRequest : Status := ⟨400, by decide⟩
def payloadTooLarge : Status := ⟨413, by decide⟩
def internalServerError : Status := ⟨500, by decide⟩
def badGateway : Status := ⟨502, by decide⟩
def serviceUnavailable : Status := ⟨503, by decide⟩
def gatewayTimeout : Status := ⟨504, by decide⟩

instance : Inhabited Status := ⟨ok⟩

def phrase (status : Status) : String :=
  match status.code with
  | 200 => "OK"
  | 400 => "Bad Request"
  | 413 => "Payload Too Large"
  | 500 => "Internal Server Error"
  | 502 => "Bad Gateway"
  | 503 => "Service Unavailable"
  | 504 => "Gateway Timeout"
  | _ => "Error"

def line (status : Status) : String := toString status.code ++ " " ++ status.phrase

end Status

end Courier.Http
