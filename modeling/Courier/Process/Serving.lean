import Courier.Layers.Basic
import Courier.Net.Address

/-!
# Serving

What one process runs on the default backend: workers, and the interfaces for HTTP and for sockets.
-/

namespace Courier.Process

/-- What a process runs. -/
structure Serving where
  http : Option Net.Address := none
  ws : Option Net.Address := none
  workers : Nat := 1

namespace Serving

/-- Whether a process has no interface. -/
def withoutInterfaces (serving : Serving) : Bool := serving.http.isNone && serving.ws.isNone

/-- What is wrong with running nothing. -/
def nothingToRun : String := "Nothing to run: no workers and no interfaces"

/-- What is logged about a process that takes in requests nobody else can see. -/
def neverConsumed : LogEntry :=
  .warning "No workers on a process-local backend; requests will never be consumed"

/-- Checks that there is anything to run, and tells what is odd about it. -/
def check (serving : Serving) (backend : Backend) : Except String (List LogEntry) :=
  if serving.workers = 0 then
    if serving.withoutInterfaces then .error nothingToRun
    else .ok (if backend.isLocal then [neverConsumed] else [])
  else .ok []

end Serving

end Courier.Process
