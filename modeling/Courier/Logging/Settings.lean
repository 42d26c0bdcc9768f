import Courier.Data.Assoc
import Courier.Json.Printer
import Courier.Logging.Filter

/-!
# Settings of the log

How a process writes its log, and what it logs about itself: that the log was set up, that the
process has started and that it ends.
-/

namespace Courier.Logging

/-- How a process writes its log. -/
structure Settings where
  level : String := "info"
  json : Bool := false
  pretty : Bool := true
  location : Bool := false
  fields : List (String × Json) := []
  filter : Option String := none
  service : Option String := none

namespace Settings

/-- The fields that name an environment. -/
def environment (name : String) : List (String × Json) := [("env", .text name)]

def production : Settings :=
  { json := true, pretty := false, fields := environment "production"
    filter := some ("switchyard=info,switchyard_channels=info,switchyard_http=info," ++
      "switchyard_ws=info,tower=warn,axum=warn") }

def development : Settings :=
  { level := "debug", location := true, fields := environment "development"
    filter := some ("switchyard=debug,switchyard_channels=debug,switchyard_http=debug," ++
      "switchyard_ws=debug,tungstenite=info") }

def test : Settings := { level := "error", pretty := false }

/-- Sets the level in place of any filter. -/
def setLevel (settings : Settings) (level : String) : Settings :=
  { settings with level, filter := none }

/-- Adds a field to what is logged once. -/
def addField (settings : Settings) (name : String) (value : Json) : Settings :=
  { settings with fields := Assoc.insert settings.fields name value }

/-- The written form of the filter that counts: the filter, or else the level. -/
def directives (settings : Settings) : String := settings.filter.getD settings.level

/-- What is logged once the log is set up; fields of the settings go over those of the same name. -/
def announcement (settings : Settings) : Json :=
  let format := if settings.json then "JSON" else "text"
  let usual : List (String × Json) :=
    [("message", .text "Logging initialized"), ("level", .text settings.level),
      ("format", .text format)]
  let served :=
    match settings.service with
    | none => usual
    | some service => Assoc.insert usual "service" (.text service)
  .object (settings.fields.foldl (fun fields entry => Assoc.insert fields entry.1 entry.2) served)

/-- The part of the program that sets up the log. -/
def part : String := "switchyard::logging"

/-- What is logged when the log is set up, unless the filter is none. -/
def setUp (settings : Settings) : Except FilterError (Filter × List Json) :=
  (Filter.parse settings.directives).map fun filter =>
    (filter, if filter.allows part .info then [settings.announcement] else [])

end Settings

/-- What a process knows about itself. -/
structure Surroundings where
  pid : Option Nat := none
  timestamp : Option String := none
  system : Option String := none
  architecture : Option String := none

/-- A text that may be unknown. -/
def knownText (value : Option String) : Json := value.elim .null .text

def startup (service version : String) (surroundings : Surroundings) : Json :=
  .object
    [("event", .text "application_startup"), ("service", .text service),
      ("version", .text version), ("pid", surroundings.pid.elim .null .natural),
      ("timestamp", knownText surroundings.timestamp), ("os", knownText surroundings.system),
      ("arch", knownText surroundings.architecture)]

def shutdown (service : String) (surroundings : Surroundings) : Json :=
  .object
    [("event", .text "application_shutdown"), ("service", .text service),
      ("timestamp", knownText surroundings.timestamp)]

end Courier.Logging
