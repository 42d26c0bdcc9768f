import Courier.Demo.Consumers
import Courier.Proofs.Http.Framing
import Courier.Proofs.Http.RequestPayload
import Courier.Proofs.Lists
import Courier.Proofs.Session.Hosting

/-!
# Visits are counted

Requests are handled one after another by the consumer that greets visitors, over a store of sessions
that was empty at first. As long as no session expires and what is sent is accepted, every request is
greeted with the number of requests of its session so far, itself included. So requests of other
sessions make no difference, nor do messages that are no requests.

Each request saves its number under the key of its session, so what was saved last under a key is the
number of its requests so far. That one request keeps this is read off what it performs.
-/

namespace Courier

/-- Accepts whatever is sent. -/
def Environment.Delivers (environment : Environment) : Prop :=
  ∀ past channel message, environment past (.send channel message) =
    (.ok () : Except ChannelError Unit)

namespace Trace

/-- Messages that are sent and accepted one after another. -/
def delivery (channel : String) (messages : List Message) : Trace :=
  messages.map fun message => ⟨.send channel message, (.ok () : Except ChannelError Unit)⟩

theorem attempts_delivery (channel : String) (messages : List Message) :
    (delivery channel messages).attempts =
      messages.map fun message => ⟨channel, message, .ok ()⟩ := by
  induction messages with
  | nil => rfl
  | cons message rest ih => exact congrArg _ ih

theorem sessionCalls_delivery (channel : String) (messages : List Message) :
    (delivery channel messages).sessionCalls = [] := by
  rw [sessionCalls, delivery, List.filterMap_map, List.filterMap_eq_nil_iff]
  exact fun _ _ => rfl

theorem accepted_of_attempts {channel : String} {messages : List Message} {trace : Trace}
    (attempts : trace.attempts = messages.map fun message => ⟨channel, message, .ok ()⟩) :
    trace.accepted channel = messages := by
  have each : ∀ message, Attempt.accepted? channel ⟨channel, message, .ok ()⟩ = some message :=
    fun _ => if_pos rfl
  rw [accepted, attempts, List.filterMap_map]
  simp only [Function.comp_def, each, List.filterMap_some]

end Trace

namespace Http

variable {environment : Environment}

theorem play_sendPatiently (delivers : environment.Delivers) (settings : HttpSettings)
    (channel : String) (message : Message) (past : Trace) :
    (sendPatiently settings channel message).play environment past =
      (Trace.delivery channel [message], .ok ()) := by
  have sent := delivers past channel message
  rw [sendPatiently]
  cases settings.sendRetries with
  | zero =>
      simp only [sendRetrying, Program.send, Program.play, sent]
      rfl
  | succ retries =>
      simp only [sendRetrying, Program.send, bind, Program.bind, Program.play, sent]
      rfl

theorem play_sendRest (delivers : environment.Delivers) (settings : HttpSettings)
    (channel : String) (messages : List Message) (past : Trace) :
    (sendRest settings channel messages).play environment past =
      (Trace.delivery channel messages, .ok ()) := by
  induction messages generalizing past with
  | nil => rfl
  | cons message rest ih =>
      have first := play_sendPatiently delivers settings channel message past
      simp only [sendRest, bind, Program.play_bind, first, ih]
      rfl

theorem play_answer (delivers : environment.Delivers) (settings : HttpSettings)
    (channel : String) (response : Response) (past : Trace) :
    (View.answer settings channel response).play environment past =
      (Trace.delivery channel (response.encode settings.chunkSize), .succeeded) := by
  have head : response.encode settings.chunkSize =
      (ResponseMessage.start response.start).toMessage ::
        ((response.body.chunks settings.chunkSize).map .chunk).map ResponseMessage.toMessage := rfl
  have first := play_sendPatiently delivers settings channel
    (ResponseMessage.start response.start).toMessage past
  simp only [View.answer, sendResponse, head, sendAll, bind, Program.play_bind, first,
    play_sendRest delivers]
  exact congrArg (fun sent => (sent, Outcome.succeeded)) (List.append_nil _)

end Http

def Performed.freshKey? : Performed → Option String
  | ⟨.freshKey, key⟩ => some key
  | _ => none

namespace Demo

open Http

/-! ## Requests one after another -/

/-- A message that was handled: what was performed for it, and how this ended. -/
structure Served where
  message : Message
  trace : Trace
  outcome : Outcome

namespace Served

/-- The key of the session that a request belongs to: the one that it names, or else the fresh one
that it was given. -/
def key? (served : Served) : Option String :=
  (RequestPayload.ofMessage served.message).toOption.bind fun request =>
    (request.sessionKey? sessionCookie).or (served.trace.findSome? Performed.freshKey?)

def performed (served : List Served) : Trace := served.flatMap Served.trace

/-- How many requests belong to the session of a key. -/
def count (key : String) (served : List Served) : Nat :=
  served.countP fun one => one.key? = some key

end Served

/-- Handles a message behind others. -/
def serve (environment : Environment) (settings : HttpSettings) (served : List Served)
    (letter : Message × Context) : Served :=
  let played := ((helloConsumer settings).consume letter.1 letter.2).play environment
    (Served.performed served)
  ⟨letter.1, played.1, played.2⟩

def serveAll (environment : Environment) (settings : HttpSettings)
    (letters : List (Message × Context)) : List Served :=
  letters.foldl (fun served letter => served ++ [serve environment settings served letter]) []

/-! ## What is performed for a request -/

/-- How a request comes to the key of its session: it names one, or it is given a fresh one. -/
inductive Asks (request : RequestPayload) : Trace → String → Prop
  | named {key : String} (own : request.sessionKey? sessionCookie = some key) :
      Asks request [] key
  | unnamed (key : String) (none : request.sessionKey? sessionCookie = none) :
      Asks request [⟨.freshKey, key⟩] key

namespace Asks

variable {request : RequestPayload} {asked : Trace} {key : String}

theorem attempts (asks : Asks request asked key) : asked.attempts = [] := by
  cases asks <;> rfl

theorem sessionCalls (asks : Asks request asked key) : asked.sessionCalls = [] := by
  cases asks <;> rfl

theorem key_eq (asks : Asks request asked key) (rest : Trace) :
    (request.sessionKey? sessionCookie).or ((asked ++ rest).findSome? Performed.freshKey?) =
      some key := by
  cases asks with
  | named own => rw [own]; rfl
  | unnamed _ none => rw [none]; rfl

end Asks

/-- The session of a key with one more visit than was stored. -/
def visited (key : String) (stored : Option SessionData) : Session :=
  let session := Session.ofStored key stored
  session.insert visitsField (.natural (visits session + 1))

/-- A session is loaded, and saved with one more visit. -/
def counting (key : String) (stored : Option SessionData) : Trace :=
  [⟨.loadSession key, stored⟩,
    ⟨.saveSession key (visited key stored).data, (.ok () : Except ChannelError Unit)⟩]

theorem visits_visited (key other : String) (stored : Option SessionData) :
    visits (Session.ofStored other (some (visited key stored).data)) =
      visits (Session.ofStored key stored) + 1 := by
  have found : (Session.ofStored other (some (visited key stored).data)).get? visitsField =
      some (.natural (visits (Session.ofStored key stored) + 1)) := Assoc.find?_insert_self _ _ _
  rw [visits, found]
  rfl

theorem asks_sessionKey (request : RequestPayload) (environment : Environment) (past : Trace) :
    Asks request ((sessionKey request).play environment past).1
      ((sessionKey request).play environment past).2 := by
  rw [sessionKey]
  cases named : request.sessionKey? sessionCookie with
  | none => exact .unnamed _ named
  | some key => exact .named named

section Play

variable (host : SessionHost) (others : Environment)

theorem play_hello (request : RequestPayload) (context : Context) (past : Trace) :
    let asked := (sessionKey request).play (host.serve others) past
    let stored : Option SessionData := host.serve others (past ++ asked.1) (.loadSession asked.2)
    (hello request context).play (host.serve others) past =
      (asked.1 ++ counting asked.2 stored,
        .immediate (welcome ((request.queryParam? "name").getD "world") asked.2
          (visits (Session.ofStored asked.2 stored) + 1))) := by
  intro asked stored
  exact (Program.play_bind (host.serve others) past (sessionKey request) _).trans rfl

theorem play_consume (delivers : others.Delivers) (settings : HttpSettings) {message : Message}
    {request : RequestPayload} (readable : RequestPayload.ofMessage message = .ok request)
    (context : Context) (past : Trace) :
    let asked := (sessionKey request).play (host.serve others) past
    let stored : Option SessionData := host.serve others (past ++ asked.1) (.loadSession asked.2)
    let response := welcome ((request.queryParam? "name").getD "world") asked.2
      (visits (Session.ofStored asked.2 stored) + 1)
    ((helloConsumer settings).consume message context).play (host.serve others) past =
      (asked.1 ++ counting asked.2 stored ++
        Trace.delivery request.replyChannel (response.encode settings.chunkSize), .succeeded) := by
  intro asked stored response
  have delivered : (host.serve others).Delivers := delivers
  have viewed := play_hello host others request context past
  change (View.consume settings hello message context).play (host.serve others) past = _
  rw [View.consume, readable]
  refine (Program.play_bind (host.serve others) past (hello request context) _).trans ?_
  rw [viewed]
  dsimp only
  rw [play_answer delivered]

end Play

/-- A request changes what was saved last under its own key only. -/
theorem saved?_visit (host : SessionHost) {asked : Trace} (silent : asked.sessionCalls = [])
    (past : Trace) (key other : String) (stored : Option SessionData) (channel : String)
    (messages : List Message) :
    host.saved? (past ++ (asked ++ counting key stored ++ Trace.delivery channel messages)) other =
      if key = other then
        some (visited key stored).data
      else host.saved? past other := by
  have loads : ∀ call ∈ Trace.sessionCalls (asked ++ [⟨.loadSession key, stored⟩]),
      ∃ key, call = .load key := by
    intro call mem
    rw [Trace.sessionCalls_append, silent] at mem
    exact ⟨key, List.mem_singleton.mp mem⟩
  have split : past ++ (asked ++ counting key stored ++ Trace.delivery channel messages) =
      past ++ (asked ++ [⟨.loadSession key, stored⟩]) ++
        [⟨.saveSession key (visited key stored).data, (.ok () : Except ChannelError Unit)⟩] ++
          Trace.delivery channel messages := by
    simp [counting]
  rw [split, host.saved?_append, host.saved?_save, host.saved?_append loads]
  rw [Trace.sessionCalls_delivery]
  exact nofun

/-! ## One request after another -/

theorem performed_concat (served : List Served) (last : Served) :
    Served.performed (served ++ [last]) = Served.performed served ++ last.trace := by
  simp [Served.performed]

theorem count_concat (key : String) (served : List Served) (last : Served) :
    Served.count key (served ++ [last]) =
      Served.count key served + if last.key? = some key then 1 else 0 := by
  simp [Served.count, List.countP_append, List.countP_singleton]

theorem serveAll_concat (environment : Environment) (settings : HttpSettings)
    (letters : List (Message × Context)) (letter : Message × Context) :
    serveAll environment settings (letters ++ [letter]) =
      serveAll environment settings letters ++
        [serve environment settings (serveAll environment settings letters) letter] := by
  rw [serveAll, List.foldl_concat]
  rfl

theorem messages_serveAll (environment : Environment) (settings : HttpSettings)
    (letters : List (Message × Context)) :
    (serveAll environment settings letters).map Served.message = letters.map Prod.fst := by
  induction letters using List.reverseRecOn with
  | nil => rfl
  | append_singleton letters letter ih =>
      rw [serveAll_concat, List.map_append, ih, List.map_append]
      rfl

/-- What is handled behind some others is handled after just these. -/
theorem serveAll_split {environment : Environment} {settings : HttpSettings}
    {letters : List (Message × Context)} {earlier later : List Served} {now : Served}
    (split : serveAll environment settings letters = earlier ++ now :: later) :
    ∃ before letter, earlier = serveAll environment settings before ∧
      now = serve environment settings earlier letter := by
  induction letters using List.reverseRecOn generalizing later with
  | nil => simp [serveAll] at split
  | append_singleton letters letter ih =>
      rw [serveAll_concat] at split
      rcases concat_eq_append_cons_cases split with ⟨rfl, rfl⟩ | ⟨rest, rfl, inFront⟩
      · have same := (List.append_inj' split rfl).1
        exact ⟨letters, letter, same.symm, by rw [same]⟩
      · exact ih inFront

section Run

variable {host : SessionHost} {others : Environment} {settings : HttpSettings}

/-- What was saved last under every key is the number of its requests. -/
def Counted (host : SessionHost) (served : List Served) : Prop :=
  ∀ key, visits (Session.ofStored key (host.saved? (Served.performed served) key)) =
    Served.count key served

/-- A message that is no request is not answered, and nothing is done with the store. -/
theorem serve_malformed (served : List Served) {letter : Message × Context} {error : DecodeError}
    (malformed : RequestPayload.ofMessage letter.1 = .error error) (environment : Environment) :
    serve environment settings served letter =
      ⟨letter.1, [], .failed (.channel (Payload.malformed error))⟩ := by
  have ends : (helloConsumer settings).consume letter.1 letter.2 =
      .done (.failed (.channel (Payload.malformed error))) := by
    change View.consume settings hello letter.1 letter.2 = _
    rw [View.consume, malformed]
  rw [serve, ends]
  rfl

/-- What is performed for a request, and how it is answered. -/
structure Greeted (settings : HttpSettings) (request : RequestPayload) (key : String)
    (number : Nat) (served : Served) : Prop where
  ofKey : served.key? = some key
  succeeded : served.outcome = .succeeded
  performed : ∃ asked stored, Asks request asked key ∧
    visits (Session.ofStored key stored) + 1 = number ∧
    served.trace = asked ++ counting key stored ++ Trace.delivery request.replyChannel
      ((welcome ((request.queryParam? "name").getD "world") key number).encode settings.chunkSize)

theorem greeted_serve (delivers : others.Delivers) {served : List Served}
    (counted : Counted host served) {letter : Message × Context} {request : RequestPayload}
    (readable : RequestPayload.ofMessage letter.1 = .ok request)
    (noneExpires : host.NoneExpires
      (Served.performed (served ++ [serve (host.serve others) settings served letter]))) :
    ∃ key, Greeted settings request key (Served.count key served + 1)
      (serve (host.serve others) settings served letter) := by
  have consumed := play_consume host others delivers settings readable letter.2
    (Served.performed served)
  have asks := asks_sessionKey request (host.serve others) (Served.performed served)
  generalize (sessionKey request).play (host.serve others) (Served.performed served) = asked
    at consumed asks
  rcases asked with ⟨asked, key⟩
  dsimp only at consumed asks
  generalize answered : host.serve others (Served.performed served ++ asked) (.loadSession key) =
    stored at consumed
  change Option SessionData at stored
  rw [performed_concat] at noneExpires
  rw [serve, consumed] at noneExpires ⊢
  -- the session is alive when it is loaded, so its number is what was saved last
  have lives : host.Lives (Served.performed served ++ asked) key := by
    apply noneExpires (Served.performed served ++ asked) key stored
    rw [List.append_assoc, List.append_assoc]
    rfl
  have isLast : stored = host.saved? (Served.performed served) key := by
    rw [← answered, host.serve_loadSession lives, host.saved?_append]
    rw [asks.sessionCalls]
    exact nofun
  have number : visits (Session.ofStored key stored) = Served.count key served := by
    rw [isLast]
    exact counted key
  refine ⟨key, ?_, rfl, asked, stored, asks, congrArg (· + 1) number, ?_⟩
  · rw [Served.key?, readable, List.append_assoc]
    exact asks.key_eq _
  · rw [← number]

/-- What was saved last under every key stays the number of its requests. -/
theorem Counted.concat (delivers : others.Delivers) {served : List Served}
    (counted : Counted host served) (letter : Message × Context)
    (noneExpires : host.NoneExpires
      (Served.performed (served ++ [serve (host.serve others) settings served letter]))) :
    Counted host (served ++ [serve (host.serve others) settings served letter]) := by
  intro other
  rw [performed_concat, count_concat]
  cases readable : RequestPayload.ofMessage letter.1 with
  | error error =>
      have handled := @serve_malformed settings served letter error readable (host.serve others)
      have noKey : (⟨letter.1, [], .failed (.channel (Payload.malformed error))⟩ : Served).key? =
          none := by
        rw [Served.key?, readable]
        rfl
      rw [handled, noKey, List.append_nil]
      exact counted other
  | ok request =>
      rcases greeted_serve delivers counted readable noneExpires with ⟨key, greeted⟩
      rcases greeted.performed with ⟨asked, stored, asks, number, performed⟩
      rw [greeted.ofKey, performed, saved?_visit host asks.sessionCalls]
      -- the number grows under the key of the request, and nothing is saved under others
      by_cases same : key = other
      · subst same
        rw [if_pos rfl, if_pos rfl, visits_visited, number]
      · rw [if_neg same, if_neg (same ∘ Option.some.inj)]
        exact counted other

theorem counted_serveAll (delivers : others.Delivers) (letters : List (Message × Context))
    (noneExpires : host.NoneExpires
      (Served.performed (serveAll (host.serve others) settings letters))) :
    Counted host (serveAll (host.serve others) settings letters) := by
  induction letters using List.reverseRecOn with
  | nil => exact fun _ => rfl
  | append_singleton letters letter ih =>
      rw [serveAll_concat] at noneExpires ⊢
      refine Counted.concat delivers (ih ?_) letter noneExpires
      rw [performed_concat] at noneExpires
      exact noneExpires.of_append

end Run

/-! ## Main result -/

theorem decode_encode_welcome (name key : String) (number chunkSize : Nat) :
    Response.decode ((welcome name key number).encode chunkSize) =
      .ok (welcome name key number) := by
  have whole := Response.decode_start_chunks (welcome name key number)
    ((welcome name key number).body.ended_chunks chunkSize) []
  rw [List.append_nil, Body.contents_chunks] at whole
  exact whole

/-- Every message is handled, in order. A message that is no request is refused, with nothing
performed. A request is answered with one response, which greets its visitor by the first value of
the name, or else as the world, hands out the key of its session in a cookie, and has the number of
requests so far that belong to a session of this key. -/
theorem visits_are_counted (host : SessionHost) (others : Environment) (settings : HttpSettings)
    (delivers : others.Delivers) (letters : List (Message × Context))
    (noneExpires : host.NoneExpires
      (Served.performed (serveAll (host.serve others) settings letters))) :
    (serveAll (host.serve others) settings letters).map Served.message = letters.map Prod.fst ∧
      ∀ earlier now later,
        serveAll (host.serve others) settings letters = earlier ++ now :: later →
        (∀ error, RequestPayload.ofMessage now.message = .error error →
          now.trace = [] ∧ now.outcome = .failed (.channel (Payload.malformed error))) ∧
        ∀ request, RequestPayload.ofMessage now.message = .ok request →
          ∃ key, now.key? = some key ∧ now.outcome = .succeeded ∧
            let name := ((request.get.find? "name").bind List.head?).getD "world"
            let number := Served.count key earlier + 1
            now.trace.attempts = ((welcome name key number).encode settings.chunkSize).map
              (fun message => ⟨request.replyChannel, message, .ok ()⟩) ∧
            Response.decode (now.trace.accepted request.replyChannel) =
              .ok
                { status := .ok
                  headers := [("Content-Type", plainText)]
                  cookies := [sessionCookie ++ "=" ++ key ++ "; Path=/; HttpOnly"]
                  body := .full (Utf8.encode
                    ("Hello, " ++ name ++ "! Visit #" ++ toString number ++ "\n")) } := by
  refine ⟨messages_serveAll _ settings letters, ?_⟩
  intro earlier now later split
  rw [split] at noneExpires
  have soFar : host.NoneExpires (Served.performed (earlier ++ [now])) := by
    rw [List.append_cons, Served.performed, List.flatMap_append] at noneExpires
    exact noneExpires.of_append
  rcases serveAll_split split with ⟨before, letter, rfl, rfl⟩
  have counted : Counted host (serveAll (host.serve others) settings before) := by
    apply counted_serveAll delivers
    rw [performed_concat] at soFar
    exact soFar.of_append
  constructor
  · intro error malformed
    rw [serve_malformed _ malformed]
    exact ⟨rfl, rfl⟩
  · intro request readable
    rcases greeted_serve delivers counted readable soFar with ⟨key, greeted⟩
    rcases greeted.performed with ⟨asked, stored, asks, -, performed⟩
    have attempts := congrArg Trace.attempts performed
    rw [Trace.attempts_append, Trace.attempts_append, asks.attempts,
      Trace.attempts_delivery] at attempts
    refine ⟨key, greeted.ofKey, greeted.succeeded, attempts, ?_⟩
    rw [Trace.accepted_of_attempts attempts]
    exact decode_encode_welcome _ key _ settings.chunkSize

/-- A visitor, with the parameters of the query and the cookies. -/
def visitor (get : List (String × List String)) (cookies : List (String × String))
    (replyChannel : String) : Message × Context :=
  let request : RequestPayload :=
    { get := .ofPairs get, post := .empty, cookies := .ofPairs cookies, environ := .empty
      path := "/", pathInfo := "/", method := "GET", replyChannel, body := [] }
  (request.toMessage, ⟨RequestPayload.channel, "default"⟩)

/-- A visitor comes back with a cookie after someone else has come without one. -/
theorem visits_are_counted_returning :
    let host : SessionHost := { lifetime := SessionStore.defaultLifetime, pauses := fun _ => 1000 }
    let others := Environment.ofScript fun _ => .ok ()
    let first := [visitor [("session_key", ["k", "other"]), ("name", ["ada"])] [] "r1",
      visitor [] [] "r2"]
    let second := visitor [] [(sessionCookie, "k")] "r3"
    let earlier := serveAll (host.serve others) {} first
    let now := serve (host.serve others) {} earlier second
    others.Delivers ∧ host.NoneExpires (Served.performed (earlier ++ [now])) ∧
      now.key? = some "k" ∧
      Response.decode (now.trace.accepted "r3") =
        .ok
          { status := .ok
            headers := [("Content-Type", plainText)]
            cookies := ["switchyard_session=k; Path=/; HttpOnly"]
            body := .full (Utf8.encode "Hello, world! Visit #2\n") } := by
  intro host others first second earlier now
  have delivers : others.Delivers := fun _ _ _ => rfl
  have all : serveAll (host.serve others) {} (first ++ [second]) = earlier ++ now :: [] :=
    serveAll_concat _ _ first second
  have noneExpires : host.NoneExpires (Served.performed (earlier ++ [now])) :=
    host.noneExpires_of_brief (fun _ => Nat.le_refl 1000) (by decide +kernel)
  have key : now.key? = some "k" := by decide +kernel
  have count : Served.count "k" earlier = 1 := by decide +kernel
  have counted := visits_are_counted host others {} delivers (first ++ [second])
    (by rw [all]; exact noneExpires)
  rcases (counted.2 earlier now [] all).2 _ (RequestPayload.ofMessage_toMessage _) with
    ⟨own, isKey, -, -, decoded⟩
  rw [key] at isKey
  cases isKey
  rw [count] at decoded
  exact ⟨delivers, noneExpires, key, decoded⟩

end Demo

end Courier
