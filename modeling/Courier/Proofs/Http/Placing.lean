import Courier.Proofs.Http.Following
import Courier.Proofs.Http.Rebuilding
import Courier.Proofs.Strand

/-!
# Placing a request

An exchange places one message at most. It tries to send it, once and on the request channel, if and
only if the request is not too large and can be encoded; what it sends tells the whole request and a
reply channel whose name was never drawn before. Where the request is not accepted, the exchange is
over with an error, has left the live messages of every channel as they were, and never looks for a
message. Where it is accepted, the exchange looks for messages in its reply channel and nowhere
else.

An exchange is followed here through surroundings that are arbitrary at every step, so nothing is
assumed of what others do in the meantime, nor of which calls on the backend fail.
-/

namespace Courier

/-! ## Fresh names -/

namespace Supply

/-- The filled up digits of a number tell the number. -/
theorem ofDigitChars_padded (width value : Nat) :
    Nat.ofDigitChars 10 (padded width value).toList 0 = value := by
  have zeros : ∀ count, Nat.ofDigitChars 10 (List.replicate count '0') 0 = 0 := by
    intro count
    induction count with
    | zero => rfl
    | succ count ih => exact ih
  rw [padded, String.toList_ofList, Nat.ofDigitChars_append, zeros]
  exact Nat.ofDigitChars_ten_toDigits

/-- Supplies of which one has gone further draw different names. -/
theorem freshName_ne {earlier later : Supply} (differ : earlier.used ≠ later.used)
    (base : String) : (earlier.freshName base).1 ≠ (later.freshName base).1 := by
  intro same
  have chars := congrArg String.toList same
  rw [freshName, freshName, Channel.join, Channel.join, String.toList_ofList,
    String.toList_ofList] at chars
  have suffixes := (List.cons.inj (List.append_cancel_left chars)).2
  apply differ
  rw [← ofDigitChars_padded Channel.suffixLength earlier.used, suffixes, ofDigitChars_padded]

end Supply

/-! ## Sending and receiving -/

namespace Backend

variable (backend : Backend) (now : Instant) (channel : String) (message : Message)

theorem sends_send : (backend.send now channel message).2.sends = backend.sends + 1 := by
  rw [send]
  split
  · rfl
  · rfl

theorem receives_send : (backend.send now channel message).2.receives = backend.receives := by
  rw [send]
  split
  · rfl
  · rfl

theorem sends_receive (channels : List String) (block : Bool) :
    (backend.receive now channels block).2.sends = backend.sends := by
  rw [receive]
  split
  · rfl
  · rfl

variable {backend : Backend} {now : Instant} {channel : String} {message : Message}

/-- A message that is not accepted leaves no trace among the live messages. -/
theorem live_of_refused {error : ChannelError} {after : Backend}
    (refused : backend.send now channel message = (.error error, after)) {later : Instant}
    (le : now ≤ later) (other : String) :
    after.store.live later other = backend.store.live later other := by
  rw [send_eq_push] at refused
  rcases backend.push_cases now channel message with
    ⟨_, pushed, failed, steps⟩ | ⟨_, pushed, accepted, -⟩
  · rw [failed] at refused
    cases refused
    exact congrArg (List.map Queued.message) ((steps other).filter_live_of_le le)
  · rw [accepted] at refused
    cases refused

/-- A message that is accepted comes to the end of the queue of its channel. -/
theorem queues_of_accepted {after : Backend}
    (accepted : backend.send now channel message = (.ok (), after)) :
    QueueStep now (backend.store.queue channel)
        (some ⟨message, now + backend.store.settings.messageExpiry⟩) none
        (after.store.queue channel) ∧
      ∀ other, other ≠ channel → after.store.queue other = backend.store.queue other := by
  rw [send] at accepted
  dsimp only at accepted
  split at accepted
  · cases accepted
  · have same := backend.store.send_eq now channel message
    rcases Prod.mk.inj accepted with ⟨isOk, rfl⟩
    refine ⟨?_, ?_⟩
    · rw [same.2.2]
      rcases backend.store.push_spec now channel message with ⟨-, refused, -⟩ | ⟨-, -, step⟩
      · rw [same.1, refused] at isOk
        cases isOk
      · exact step
    · intro other differ
      rw [same.2.2]
      exact backend.store.queue_push_of_ne now channel message differ

end Backend

namespace Http

/-! ## Looking in one channel only -/

/-- What reading does in the backend: it sends nothing, takes what it brings from the queue of its
channel, and leaves every other queue alone. -/
structure ReadsOnly (backend : Backend) (now : Instant) (channel : String)
    (brought : Option Message) (after : Backend) : Prop where
  sends : after.sends = backend.sends
  queue : QueueStep now (backend.store.queue channel) none brought (after.store.queue channel)
  others : ∀ other, other ≠ channel → after.store.queue other = backend.store.queue other

theorem ReadsOnly.refl (backend : Backend) (now : Instant) (channel : String) :
    ReadsOnly backend now channel none backend :=
  ⟨rfl, .refl now _, fun _ _ => rfl⟩

theorem Reading.readsOnly {channel : String} {reading : Reading}
    (listens : reading.Listens channel) (backend : Backend) (now : Instant) :
    ReadsOnly backend now channel (reading.step backend now channel).1.message?
      (reading.step backend now channel).2 := by
  have elsewhere : ∀ other, other ≠ channel → other ∉ [channel] := by
    intro other differ
    rw [List.mem_singleton]
    exact differ
  refine ⟨?_, ?_, ?_⟩
  · cases reading with
    | waiting deadline receiver => rfl
    | asking deadline =>
        have same := backend.sends_receive now [channel] true
        rw [step]
        split
        case h_1 failed => rwa [failed] at same
        case h_2 reached => rwa [reached] at same
  · rcases steps_or_fails backend now listens with steps | ⟨error, failed, same⟩
    · exact steps.queue
    · rw [failed, same]
      exact .refl now _
  · intro other differ
    cases reading with
    | waiting deadline receiver =>
        apply Store.queue_resume_of_not_mem
        rw [show receiver.channels = [channel] from listens]
        exact elsewhere other differ
    | asking deadline =>
        rw [step]
        rcases backend.receive_reaches_or_fails now [channel] true with reached | ⟨_, failed⟩
        · rw [reached]
          exact Store.queue_receive_of_not_mem backend.store now (elsewhere other differ) true
        · rw [failed]

namespace Exchange

/-! ## Exchanges on their way -/

/-- An exchange that is moved on again and again, each time in the site and at the moment given. -/
def follow (exchange : Exchange) (surroundings : List (Site × Instant)) : Exchange :=
  surroundings.foldl (fun exchange around => (exchange.step around.1 around.2).1) exchange

/-- An exchange that reads from a channel, unless it is over. -/
def ReadsFrom (channel : String) (exchange : Exchange) : Prop :=
  exchange.reading? = none ∨ ∃ read, exchange.Follows channel read

variable {exchange : Exchange} {channel : String}

theorem ReadsFrom.step (reads : exchange.ReadsFrom channel) (site : Site) (now : Instant) :
    (exchange.step site now).1.ReadsFrom channel ∧
      ReadsOnly site.backend now channel (exchange.brought? site now)
        (exchange.step site now).2.backend := by
  cases found : exchange.reading? with
  | none =>
      rcases step_of_over found site now with ⟨stays, nothing⟩
      rw [stays, nothing]
      exact ⟨Or.inl found, .refl site.backend now channel⟩
  | some reading =>
      rcases reads with isOver | ⟨read, follows⟩
      · rw [found] at isOver
        cases isOver
      · refine ⟨Or.inr ⟨_, (follows.step site now).1⟩, ?_⟩
        rw [step_of_reading found, brought?_of_reading found, Site.backend_reportAll,
          follows.replyChannel]
        exact Reading.readsOnly (follows.listens reading found) site.backend now

theorem ReadsFrom.follow (reads : exchange.ReadsFrom channel)
    (surroundings : List (Site × Instant)) : (exchange.follow surroundings).ReadsFrom channel := by
  induction surroundings generalizing exchange with
  | nil => exact reads
  | cons around rest ih => exact ih (reads.step around.1 around.2).1

/-! ## Exchanges at their beginning -/

/-- A request that is not too large and stands in a payload. -/
structure Placeable (settings : HttpSettings) (replyChannel : String) (request : Request)
    (payload : RequestPayload) : Prop where
  fits : request.body.length ≤ settings.maxBodySize
  encoded : request.encode replyChannel settings.rootPath = .ok payload

/-- An exchange that is over before it has looked for anything: it has failed, the live messages of
every channel are what they were, nothing was received, and nothing ever will be. -/
structure Refused (site : Site) (now : Instant) (error : Error) (begun : Exchange × Site) :
    Prop where
  result : begun.1.result? = some (.error error)
  live : ∀ later, now ≤ later → ∀ channel,
    begun.2.backend.store.live later channel = site.backend.store.live later channel
  receives : begun.2.backend.receives = site.backend.receives
  isOver : ∀ around later, begun.1.step around later = (begun.1, around)

/-- An exchange that has placed a message at the end of the request channel, and nowhere else, and
goes on to wait for the head of the reply. -/
structure Placed (settings : HttpSettings) (site : Site) (now : Instant) (replyChannel : String)
    (message : Message) (begun : Exchange × Site) : Prop where
  exchange : begun.1 = ⟨settings, replyChannel, .awaitingHead (nextReading settings now)⟩
  queue : QueueStep now (site.backend.store.queue RequestPayload.channel)
    (some ⟨message, now + site.backend.store.settings.messageExpiry⟩) none
    (begun.2.backend.store.queue RequestPayload.channel)
  others : ∀ other, other ≠ RequestPayload.channel →
    begun.2.backend.store.queue other = site.backend.store.queue other

/-- What an exchange does when it begins. It tries to send one message if the request can be placed,
and else does nothing at all. The message tells the whole request and the reply channel; it is
placed, or the exchange fails with the error of the backend. -/
structure PlacesOne (settings : HttpSettings) (site : Site) (now : Instant) (request : Request)
    (replyChannel : String) (begun : Exchange × Site) : Prop where
  attempts : begun.2.backend.sends = site.backend.sends + 1 ↔
    ∃ payload, Placeable settings replyChannel request payload
  untried : (¬∃ payload, Placeable settings replyChannel request payload) →
    begun.2.backend = site.backend
  tried : ∀ payload, Placeable settings replyChannel request payload →
    begun.2.backend =
      (site.backend.send now RequestPayload.channel payload.toMessage).2
  whole : ∀ payload, Placeable settings replyChannel request payload →
    RequestPayload.ofMessage payload.toMessage = .ok payload ∧
      payload.replyChannel = replyChannel ∧ payload.body = request.body
  drawn : ∀ payload, Placeable settings replyChannel request payload →
    begun.2.supply.used = site.supply.used + 1
  placed : ∀ payload, Placeable settings replyChannel request payload →
    (site.backend.send now RequestPayload.channel payload.toMessage).1 = .ok () →
    Placed settings site now replyChannel payload.toMessage begun
  tooLarge : settings.maxBodySize < request.body.length →
    Refused site now (.requestTooLarge settings.maxBodySize) begun
  unencoded : ∀ error, request.body.length ≤ settings.maxBodySize →
    request.encode replyChannel settings.rootPath = .error error →
    (∃ reason, error = .badRequest reason) ∧ Refused site now error begun
  unsent : ∀ payload error, Placeable settings replyChannel request payload →
    (site.backend.send now RequestPayload.channel payload.toMessage).1 = .error error →
    Refused site now (.channel error) begun

variable {settings : HttpSettings} {site : Site} {now : Instant} {request : Request}

theorem refused_of_failed {error : Error} {after : Site}
    (live : ∀ later, now ≤ later → ∀ channel,
      after.backend.store.live later channel = site.backend.store.live later channel)
    (receives : after.backend.receives = site.backend.receives) :
    Refused site now error (⟨settings, channel, .failed error⟩, after) :=
  ⟨rfl, live, receives, fun around later => (step_of_over rfl around later).1⟩

/-- The four ways in which an exchange begins. -/
inductive Begins (settings : HttpSettings) (site : Site) (now : Instant) (request : Request) :
    Exchange × Site → Prop
  | tooLarge (large : settings.maxBodySize < request.body.length) :
      Begins settings site now request
        (⟨settings, "", .failed (.requestTooLarge settings.maxBodySize)⟩, site)
  | unencoded {error : Error} (fits : request.body.length ≤ settings.maxBodySize)
      (failed : request.encode (site.supply.freshName responseBase).1 settings.rootPath =
        .error error) :
      Begins settings site now request
        (⟨settings, (site.supply.freshName responseBase).1, .failed error⟩,
          { site with supply := (site.supply.freshName responseBase).2 })
  | unsent {payload : RequestPayload} {error : ChannelError} {after : Backend}
      (placeable : Placeable settings (site.supply.freshName responseBase).1 request payload)
      (failed : site.backend.send now RequestPayload.channel payload.toMessage =
        (.error error, after)) :
      Begins settings site now request
        (⟨settings, (site.supply.freshName responseBase).1, .failed (.channel error)⟩,
          { site with supply := (site.supply.freshName responseBase).2, backend := after })
  | sent {payload : RequestPayload} {after : Backend}
      (placeable : Placeable settings (site.supply.freshName responseBase).1 request payload)
      (placed : site.backend.send now RequestPayload.channel payload.toMessage = (.ok (), after)) :
      Begins settings site now request
        (⟨settings, (site.supply.freshName responseBase).1,
            .awaitingHead (nextReading settings now)⟩,
          { site with supply := (site.supply.freshName responseBase).2, backend := after })

theorem begins_start (settings : HttpSettings) (site : Site) (now : Instant) (request : Request) :
    Begins settings site now request (start settings site now request) := by
  rw [start]
  split
  case isTrue large => exact .tooLarge large
  case isFalse notLarge =>
    have fits := Nat.le_of_not_lt notLarge
    dsimp only
    cases encoded : request.encode (site.supply.freshName responseBase).1 settings.rootPath with
    | error error => exact .unencoded fits encoded
    | ok payload =>
        dsimp only
        rcases sending : site.backend.send now RequestPayload.channel payload.toMessage with
          ⟨error | _, after⟩
        · exact .unsent ⟨fits, encoded⟩ sending
        · exact .sent ⟨fits, encoded⟩ sending

theorem Placeable.eq {replyChannel : String} {first second : RequestPayload}
    (isFirst : Placeable settings replyChannel request first)
    (isSecond : Placeable settings replyChannel request second) : first = second :=
  Except.ok.inj (isFirst.encoded.symm.trans isSecond.encoded)

/-- A payload tells the reply channel and the whole body of its request. -/
theorem Placeable.whole {replyChannel : String} {payload : RequestPayload}
    (placeable : Placeable settings replyChannel request payload) :
    RequestPayload.ofMessage payload.toMessage = .ok payload ∧
      payload.replyChannel = replyChannel ∧ payload.body = request.body := by
  rcases Request.encode_eq_ok_iff.mp placeable.encoded with ⟨rfl, -⟩
  exact ⟨RequestPayload.ofMessage_toMessage _, rfl, rfl⟩

/-- Where nothing can be placed, nothing is sent. -/
theorem PlacesOne.of_unplaceable {replyChannel : String} {begun : Exchange × Site}
    (unplaceable : ¬∃ payload, Placeable settings replyChannel request payload)
    (same : begun.2.backend = site.backend)
    (tooLarge : settings.maxBodySize < request.body.length →
      Refused site now (.requestTooLarge settings.maxBodySize) begun)
    (unencoded : ∀ error, request.body.length ≤ settings.maxBodySize →
      request.encode replyChannel settings.rootPath = .error error →
      (∃ reason, error = .badRequest reason) ∧ Refused site now error begun) :
    PlacesOne settings site now request replyChannel begun := by
  have never : ∀ payload, ¬Placeable settings replyChannel request payload :=
    not_exists.mp unplaceable
  refine ⟨⟨?_, fun placeable => absurd placeable unplaceable⟩, fun _ => same,
    fun payload placeable => absurd placeable (never payload), fun _ => Placeable.whole,
    fun payload placeable => absurd placeable (never payload),
    fun payload placeable => absurd placeable (never payload), tooLarge, unencoded,
    fun payload _ placeable => absurd placeable (never payload)⟩
  intro grown
  rw [same] at grown
  omega

/-- Where a payload can be placed, one message is sent, and its fate decides. -/
theorem PlacesOne.of_placeable {replyChannel : String} {payload : RequestPayload}
    {begun : Exchange × Site} (placeable : Placeable settings replyChannel request payload)
    (tried : begun.2.backend =
      (site.backend.send now RequestPayload.channel payload.toMessage).2)
    (drawn : begun.2.supply.used = site.supply.used + 1)
    (placed : (site.backend.send now RequestPayload.channel payload.toMessage).1 = .ok () →
      Placed settings site now replyChannel payload.toMessage begun)
    (unsent : ∀ error,
      (site.backend.send now RequestPayload.channel payload.toMessage).1 = .error error →
      Refused site now (.channel error) begun) :
    PlacesOne settings site now request replyChannel begun := by
  have attempted := site.backend.sends_send now RequestPayload.channel payload.toMessage
  rw [← tried] at attempted
  refine ⟨⟨fun _ => ⟨payload, placeable⟩, fun _ => attempted⟩,
    fun unplaceable => absurd ⟨payload, placeable⟩ unplaceable, ?_, fun _ => Placeable.whole,
    fun _ _ => drawn, ?_, fun large => absurd large (Nat.not_lt.mpr placeable.fits), ?_, ?_⟩
  · intro other alike
    rw [← placeable.eq alike]
    exact tried
  · intro other alike accepted
    rw [← placeable.eq alike] at accepted ⊢
    exact placed accepted
  · intro error _ failed
    rw [placeable.encoded] at failed
    cases failed
  · intro other error alike failed
    rw [← placeable.eq alike] at failed
    exact unsent error failed

theorem Begins.placesOne {begun : Exchange × Site}
    (begins : Begins settings site now request begun) :
    PlacesOne settings site now request (site.supply.freshName responseBase).1 begun := by
  cases begins with
  | tooLarge large =>
      have tooMuch : ¬request.body.length ≤ settings.maxBodySize := Nat.not_le.mpr large
      refine PlacesOne.of_unplaceable (fun ⟨_, placeable⟩ => tooMuch placeable.fits) rfl ?_ ?_
      · exact fun _ => refused_of_failed (fun _ _ _ => rfl) rfl
      · exact fun error fits => absurd fits tooMuch
  | unencoded fits encoded =>
      refine PlacesOne.of_unplaceable ?_ rfl (fun large => absurd large (Nat.not_lt.mpr fits)) ?_
      · rintro ⟨payload, placeable⟩
        rw [placeable.encoded] at encoded
        cases encoded
      · intro other _ failed
        rw [encoded] at failed
        cases failed
        refine ⟨⟨_, (Request.encode_eq_error_iff.mp encoded).1⟩, ?_⟩
        exact refused_of_failed (fun _ _ _ => rfl) rfl
  | @unsent payload error after placeable sending =>
      have unread := site.backend.receives_send now RequestPayload.channel payload.toMessage
      rw [sending] at unread
      refine PlacesOne.of_placeable placeable (by rw [sending]) rfl ?_ ?_
      · intro accepted
        rw [sending] at accepted
        cases accepted
      · intro found failed
        rw [sending] at failed
        cases failed
        exact refused_of_failed (fun _ le => Backend.live_of_refused sending le) unread
  | sent placeable sending =>
      refine PlacesOne.of_placeable placeable (by rw [sending]) rfl ?_ ?_
      · intro _
        rcases Backend.queues_of_accepted sending with ⟨queue, others⟩
        exact ⟨rfl, queue, others⟩
      · intro error failed
        rw [sending] at failed
        cases failed

/-- An exchange that has begun reads from its reply channel, or is over. -/
theorem Begins.readsFrom {begun : Exchange × Site}
    (begins : Begins settings site now request begun) :
    begun.1.ReadsFrom (site.supply.freshName responseBase).1 := by
  cases begins with
  | tooLarge | unencoded | unsent => exact Or.inl rfl
  | sent placeable sending =>
      refine Or.inr ⟨[], rfl, ?_, Or.inl rfl⟩
      rintro reading ⟨⟩
      trivial

/-! ## Main result -/

/-- An exchange tries to send one message on the request channel if and only if its request fits and
can be encoded. The message tells the whole request and a reply channel with a fresh name, and the
exchange then looks for messages in this channel only, whatever it finds on its way. An exchange
whose request is too large, cannot be encoded or is not accepted fails accordingly: it leaves the
live messages of every channel as they were, and never receives. -/
theorem exchanges_place_one_whole_request (settings : HttpSettings) (site : Site) (now : Instant)
    (request : Request) :
    let replyChannel := (site.supply.freshName responseBase).1
    let begun := start settings site now request
    (∀ other : Supply, other.used ≠ site.supply.used →
      (other.freshName responseBase).1 ≠ replyChannel) ∧
    PlacesOne settings site now request replyChannel begun ∧
    ∀ (surroundings : List (Site × Instant)) (around : Site) (later : Instant),
      let reached := begun.1.follow surroundings
      ReadsOnly around.backend later replyChannel (reached.brought? around later)
        (reached.step around later).2.backend := by
  intro replyChannel begun
  have begins := begins_start settings site now request
  refine ⟨fun other differ => Supply.freshName_ne differ responseBase,
    begins.placesOne, ?_⟩
  intro surroundings around later reached
  exact ((begins.readsFrom.follow surroundings).step around later).2

/-- A request with a body of three bytes, which is a form if its headers say so. -/
def threeBytes (headers : HeaderMap) : Request :=
  { method := "POST", uri := ⟨none, none, "/", none⟩, headers, body := [97, 61, 255] }

theorem exchanges_place_one_whole_request_threeBytes :
    let site : Site := { backend := .inMemory "local" {} }
    let broken : Site := { backend := { site.backend with failingSends := [1] } }
    let form : HeaderMap := .ofPairs [("content-type", Utf8.encode Request.formContentType)]
    let plain := threeBytes (.ofPairs [])
    (start { maxBodySize := 3 } site 0 plain).2.backend.sends = 1 ∧
      (start { maxBodySize := 3 } site 0 plain).1.result? = none ∧
      (start { maxBodySize := 2 } site 0 plain).1.result? = some (.error (.requestTooLarge 2)) ∧
      (∃ reason, (start { maxBodySize := 3 } site 0 (threeBytes form)).1.result? =
        some (.error (.badRequest reason))) ∧
      ∃ error, (start { maxBodySize := 3 } broken 0 plain).1.result? =
        some (.error (.channel error)) := by
  intro site broken form plain
  have placeable : Placeable { maxBodySize := 3 } (site.supply.freshName responseBase).1 plain
      (plain.payload _ "") := ⟨by decide, Request.encode_of_not_form (by decide)⟩
  have garbled : (threeBytes form).Garbled := ⟨by decide, by decide⟩
  have sent := (exchanges_place_one_whole_request { maxBodySize := 3 } site 0 plain).2.1
  have large := (exchanges_place_one_whole_request { maxBodySize := 2 } site 0 plain).2.1
  have bad := (exchanges_place_one_whole_request { maxBodySize := 3 } site 0 (threeBytes form)).2.1
  have refused := (exchanges_place_one_whole_request { maxBodySize := 3 } broken 0 plain).2.1
  refine ⟨sent.attempts.mpr ⟨_, placeable⟩, ?_, (large.tooLarge (by decide)).result, ?_,
    ⟨_, (refused.unsent _ _ placeable rfl).result⟩⟩
  · rw [(sent.placed _ placeable rfl).exchange]
    rfl
  · rcases bad.unencoded _ (by decide) (Request.encode_of_garbled garbled) with
      ⟨⟨reason, isBad⟩, refused⟩
    exact ⟨reason, isBad ▸ refused.result⟩

end Exchange

end Http

end Courier
