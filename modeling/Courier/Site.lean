import Courier.Backend
import Courier.Channel.Name
import Courier.Consumer
import Courier.Registry
import Courier.Session.Store

/-!
# Sites

Everything that the programs of one process share: the backend with its consumers, the sessions, the
supply of fresh names, the log and the notes of what was seen. A site performs the actions of
programs; a pause is the one action that takes time.
-/

namespace Courier

/-- What the programs of a process share. The log and the notes have their newest entry first. -/
structure Site where
  backend : Backend
  registry : Registry Consumer := .empty
  sessions : SessionStore := { lifetime := SessionStore.defaultLifetime }
  supply : Supply := {}
  log : List LogEntry := []
  notes : List (String × Message) := []

instance : Inhabited Site := ⟨{ backend := default }⟩

namespace Site

def report (site : Site) (entry : LogEntry) : Site := { site with log := entry :: site.log }

/-- Adds an entry to the log, if there is one. -/
def reportAll (site : Site) (entries : List LogEntry) : Site :=
  entries.foldl report site

/-- Performs an action at a moment; a pause is over at once. -/
def perform (site : Site) (now : Instant) : (action : Action) → action.Answer × Site
  | .send channel message =>
      let (result, backend) := site.backend.send now channel message
      (result, { site with backend })
  | .members group =>
      let (members, store) := site.backend.store.members now group
      (members, { site with backend := { site.backend with store } })
  | .pause _ => ((), site)
  | .report entry => ((), site.report entry)
  | .record channel message => ((), { site with notes := (channel, message) :: site.notes })
  | .loadSession key =>
      let (data, sessions) := site.sessions.load now key
      (data, { site with sessions })
  | .saveSession key data =>
      (.ok (), { site with sessions := site.sessions.save now key data })
  | .freshKey =>
      let (key, supply) := site.supply.freshKey
      (key, { site with supply })

/-- A program that has come to its end, or that waits for a moment before it goes on. -/
inductive Progress (α : Type) where
  | finished (value : α)
  | paused (wakeAt : Instant) (rest : Program α)

/-- Runs a program up to its end or its next pause. -/
def run {α : Type} (site : Site) (now : Instant) : Program α → Progress α × Site
  | .done value => (.finished value, site)
  | .perform action next =>
      match action, next with
      | .pause duration, next => (.paused (now + duration) (next ()), site)
      | action, next =>
          let (answer, site) := site.perform now action
          site.run now (next answer)

end Site

end Courier
