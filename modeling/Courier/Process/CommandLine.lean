import Courier.Net.Address
import Courier.Logging.Filter

/-!
# The command line

The arguments of the command: options for the log, which may stand at either level, and a subcommand
with options of its own. Reading stops at the first argument that asks for help or that is wrong.
-/

namespace Courier.Process

/-- Why a command line asks for nothing to be run. -/
inductive Ending where
  | help
  | version
  | usage
  deriving DecidableEq, Repr

/-- What is to be run. -/
inductive Command where
  | serve (http ws : Net.Address)
  | worker

/-- What a command line asks for. -/
structure Request where
  level : Option String
  json : Bool
  config : Option String
  workers : Nat
  command : Command

/-- The options that were given at one level. -/
structure Given where
  level : Option String := none
  json : Option Unit := none
  config : Option String := none
  http : Option Net.Address := none
  ws : Option Net.Address := none
  workers : Option Nat := none

namespace Given

/-- Sets what may be given only once. -/
def once {α : Type} (old : Option α) (value : Option α) : Except Ending (Option α) :=
  match old, value with
  | none, some value => .ok (some value)
  | _, _ => .error .usage

/-- A path that is not empty. -/
def path? (text : String) : Option String := if text = "" then none else some text

def count? (text : String) : Option Nat :=
  (Logging.Verbosity.number? text.toList).filter fun count => count < Nat.pow 2 64

/-- Takes over an option with its value. -/
def set (given : Given) (name value : String) : Except Ending Given := do
  match name with
  | "log-level" => return { given with level := ← once given.level (some value) }
  | "config" => return { given with config := ← once given.config (path? value) }
  | "http" => return { given with http := ← once given.http (Net.Address.ofText? value) }
  | "ws" => return { given with ws := ← once given.ws (Net.Address.ofText? value) }
  | "workers" => return { given with workers := ← once given.workers (count? value) }
  | _ => throw .usage

/-- Takes over an option without a value. -/
def setFlag (given : Given) : Except Ending Given := do
  return { given with json := ← once given.json (some ()) }

end Given

/-- What may stand at one level of the command line. -/
structure Level where
  options : List String
  versioned : Bool

namespace Level

def top : Level := ⟨["log-level"], true⟩

def serve : Level := ⟨["log-level", "config", "http", "ws", "workers"], false⟩

/-- Behind the subcommand that only works. -/
def worker : Level := ⟨["log-level", "config", "workers"], false⟩

end Level

def isOption (argument : String) : Bool :=
  argument.toList.head? = some '-' && argument != "-"

/-- What an option without a value comes to. -/
def special? (level : Level) (argument : String) : Option Ending :=
  match argument.toList with
  | '-' :: 'h' :: _ => some .help
  | '-' :: 'V' :: _ => if level.versioned then some .version else some .usage
  | chars =>
      if chars = "--help".toList then some .help
      else if chars = "--version".toList && level.versioned then some .version
      else none

/-- The name of a long option, and the value that is written with it. -/
def longOption (argument : String) : Option (String × Option String) :=
  match argument.toList with
  | '-' :: '-' :: chars =>
      let name := chars.takeWhile (· ≠ '=')
      let value :=
        match chars.drop name.length with
        | _ :: value => some (String.ofList value)
        | [] => none
      some (String.ofList name, value)
  | _ => none

/-- Takes over an option at some level; its value may be the next argument. -/
def takeOption (level : Level) (given : Given) (argument : String) (rest : List String) :
    Except Ending (Given × List String) := do
  match special? level argument, longOption argument with
  | some ending, _ => throw ending
  | none, none => throw .usage
  | none, some ("json-logs", none) => return (← given.setFlag, rest)
  | none, some (name, value) =>
      if !level.options.contains name then throw .usage
      match value, rest with
      | some value, rest => return (← given.set name value, rest)
      | none, [] => throw .usage
      | none, value :: rest =>
          if isOption value then throw .usage
          return (← given.set name value, rest)

/-- Takes over the options at some level, and tells what follows them. -/
def takeOptions (level : Level) (given : Given) :
    (fuel : Nat) → List String → Except Ending (Given × List String)
  | 0, rest => .ok (given, rest)
  | _, [] => .ok (given, [])
  | fuel + 1, argument :: rest => do
      if isOption argument && argument != "--" then
        let (given, rest) ← takeOption level given argument rest
        takeOptions level given fuel rest
      else return (given, argument :: rest)

/-- The options of a subcommand, behind which nothing may follow. -/
def takeAll (level : Level) (arguments : List String) : Except Ending Given := do
  let (given, rest) ← takeOptions level {} arguments.length arguments
  if rest.isEmpty || rest = ["--"] then return given else throw .usage

/-- Where HTTP is served if nothing else is said. -/
def defaultHttp : Net.Address := ⟨.four [127, 0, 0, 1], 8000⟩

/-- Where sockets are served if nothing else is said. -/
def defaultSocket : Net.Address := ⟨.four [127, 0, 0, 1], 9000⟩

/-- What the options of both levels ask for; those of the inner level go first. -/
def request (outer inner : Given) (command : Command) : Request :=
  { level := inner.level.or outer.level
    json := outer.json.isSome || inner.json.isSome
    config := inner.config
    workers := inner.workers.getD 1
    command }

def helpOn : List String → Ending
  | [] => .help
  | [name] => if ["serve", "worker", "help"].contains name then .help else .usage
  | _ => .usage

def parse (arguments : List String) : Except Ending Request := do
  let (outer, rest) ← takeOptions .top {} arguments.length arguments
  match rest with
  | "serve" :: rest =>
      let inner ← takeAll .serve rest
      return request outer inner
        (.serve (inner.http.getD defaultHttp) (inner.ws.getD defaultSocket))
  | "worker" :: rest => return request outer (← takeAll .worker rest) .worker
  | "help" :: rest => throw (helpOn rest)
  | _ => throw .usage

end Courier.Process
