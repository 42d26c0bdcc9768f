import Courier.Proofs.Http.Account
import Mathlib.Data.List.Induction
import Mathlib.Data.List.Nodup

/-!
# Cycles that do not mix

Many clients ask at a time, and any worker may take any request. What keeps their cycles apart is
that reply channels differ, and that each of them is named in one request only. A request is taken
once. Its call sends to its own reply channel only, so what the client has read, and what waits
behind it, is what this call has sent and nothing else.
-/

namespace Courier.Http

/-- Replacing an entry by one that looks the same leaves what the entries look like. -/
theorem map_set_of_getElem? {α β : Type} {entries : List α} {index : Nat} {entry next : α}
    (found : entries[index]? = some entry) {look : α → β} (same : look next = look entry) :
    (entries.set index next).map look = entries.map look := by
  rcases List.getElem?_eq_some_iff.mp found with ⟨inside, rfl⟩
  rw [List.map_set, same, ← List.map_set, List.set_getElem_self]

/-! ## Calls and what they are about -/

/-- The channel on which a call is asked to answer. -/
def Call.replyChannel? (call : Call) : Option String := RequestPayload.replyChannel? call.message

/-- A call carries out what is to be done about a request by a function. -/
structure Call.Runs (settings : HttpSettings) (answer : RequestPayload → Context → ViewResult)
    (call : Call) : Prop where
  channel : call.context.channel = RequestPayload.channel
  run : Program.Run (View.consume settings (.ofFunction answer) call.message call.context)
    call.trace call.strand.rest

/-- Clients have reply channels of their own, which no consumer takes from. -/
structure Apart (clients : Nat → Client) (bound : List String) : Prop where
  distinct : ∀ {first second},
    (clients first).replyChannel = (clients second).replyChannel → first = second
  unbound : ∀ number, (clients number).replyChannel ∉ bound
  request : RequestPayload.channel ∈ bound

theorem Apart.ne_request {clients : Nat → Client} {bound : List String}
    (apart : Apart clients bound) (number : Nat) :
    (clients number).replyChannel ≠ RequestPayload.channel := by
  intro same
  apply apart.unbound number
  rw [same]
  exact apart.request

/-! ## The invariant -/

namespace Account

/-- What holds of an account at any time. -/
structure Sound (clients : Nat → Client) (settings : HttpSettings)
    (answer : RequestPayload → Context → ViewResult) (bound : List String) (account : Account) :
    Prop where
  taken : account.requests =
    account.calls.map Call.message ++ account.messages RequestPayload.channel
  asked : ∀ message ∈ account.requests, ∃ number,
    (clients number).message = .ok message ∧ (account.exchanges number).isSome
  distinct : (account.requests.map RequestPayload.replyChannel?).Nodup
  runs : ∀ call ∈ account.calls, call.Runs settings answer
  replies : ∀ number, ∀ call ∈ account.calls,
    call.replyChannel? = some (clients number).replyChannel →
      call.trace.accepted (clients number).replyChannel =
        account.reads number ++ account.messages (clients number).replyChannel
  unread : ∀ number, some (clients number).replyChannel ∉ account.calls.map Call.replyChannel? →
    account.reads number = [] ∧ account.messages (clients number).replyChannel = []
  silent : ∀ channel ∈ bound, channel ≠ RequestPayload.channel → account.messages channel = []
  follows : ∀ number exchange, account.exchanges number = some exchange →
    exchange.Follows (clients number).replyChannel (account.reads number)

variable {clients : Nat → Client} {settings : HttpSettings}
  {answer : RequestPayload → Context → ViewResult} {bound : List String} {account : Account}

namespace Sound

/-- The reply channels of the requests are those of the calls and of the requests that wait. -/
theorem replyChannels (sound : Sound clients settings answer bound account) :
    account.requests.map RequestPayload.replyChannel? =
      account.calls.map Call.replyChannel? ++
        (account.messages RequestPayload.channel).map RequestPayload.replyChannel? := by
  rw [sound.taken, List.map_append, List.map_map]
  rfl

theorem distinct_calls (sound : Sound clients settings answer bound account) :
    (account.calls.map Call.replyChannel?).Nodup := by
  have distinct := sound.distinct
  rw [sound.replyChannels] at distinct
  exact distinct.of_append_left

/-- Calls that are asked to answer to one channel are one call. -/
theorem index_eq (sound : Sound clients settings answer bound account) {first second : Nat}
    {call other : Call} (found : account.calls[first]? = some call)
    (otherFound : account.calls[second]? = some other)
    (same : call.replyChannel? = other.replyChannel?) : first = second := by
  have inside : first < (account.calls.map Call.replyChannel?).length := by
    rw [List.length_map]
    exact (List.getElem?_eq_some_iff.mp found).1
  apply (List.getElem?_inj inside sound.distinct_calls).mp
  rw [List.getElem?_map, List.getElem?_map, found, otherFound, Option.map_some, Option.map_some,
    same]

theorem client_of_call (sound : Sound clients settings answer bound account) {call : Call}
    (mem : call ∈ account.calls) : ∃ number, (clients number).message = .ok call.message ∧
      call.replyChannel? = some (clients number).replyChannel := by
  have isRequest : call.message ∈ account.requests := by
    rw [sound.taken]
    exact List.mem_append_left _ (List.mem_map_of_mem mem)
  rcases sound.asked _ isRequest with ⟨number, asks, -⟩
  exact ⟨number, asks, Client.replyChannel?_of_message asks⟩

theorem not_mem_of_unbegun (sound : Sound clients settings answer bound account)
    (apart : Apart clients bound) {number : Nat} (unbegun : account.exchanges number = none) :
    some (clients number).replyChannel ∉
      account.requests.map RequestPayload.replyChannel? := by
  intro mem
  rcases List.mem_map.mp mem with ⟨message, isRequest, same⟩
  rcases sound.asked message isRequest with ⟨other, asks, begun⟩
  rw [Client.replyChannel?_of_message asks] at same
  cases apart.distinct (Option.some.inj same)
  rw [unbegun] at begun
  cases begun

theorem unread_of_unbegun (sound : Sound clients settings answer bound account)
    (apart : Apart clients bound) {number : Nat} (unbegun : account.exchanges number = none) :
    account.reads number = [] := by
  apply (sound.unread number _).1
  intro mem
  apply sound.not_mem_of_unbegun apart unbegun
  rw [sound.replyChannels]
  exact List.mem_append_left _ mem

/-- Where one exchange goes on to follow its channel, all of them do. -/
theorem follows_update (sound : Sound clients settings answer bound account) {number : Nat}
    {exchange : Exchange} {reads : Nat → List Message}
    (follows : exchange.Follows (clients number).replyChannel (reads number))
    (others : ∀ other, other ≠ number → reads other = account.reads other) :
    ∀ other found, Function.update account.exchanges number (some exchange) other = some found →
      found.Follows (clients other).replyChannel (reads other) := by
  intro other found isFound
  by_cases same : other = number
  · subst same
    rw [Function.update_self] at isFound
    cases isFound
    exact follows
  · rw [Function.update_of_ne same] at isFound
    rw [others other same]
    exact sound.follows other found isFound

theorem follows_begun (sound : Sound clients settings answer bound account)
    (apart : Apart clients bound) {number : Nat} (unbegun : account.exchanges number = none)
    {exchange : Exchange} (follows : exchange.Follows (clients number).replyChannel []) :
    ∀ other found, Function.update account.exchanges number (some exchange) other = some found →
      found.Follows (clients other).replyChannel (account.reads other) := by
  rw [← sound.unread_of_unbegun apart unbegun] at follows
  exact sound.follows_update follows fun _ _ => rfl

theorem asked_update (sound : Sound clients settings answer bound account) (number : Nat)
    (exchange : Exchange) : ∀ message ∈ account.requests, ∃ other,
      (clients other).message = .ok message ∧
        (Function.update account.exchanges number (some exchange) other).isSome := by
  intro message mem
  rcases sound.asked message mem with ⟨other, asks, begun⟩
  refine ⟨other, asks, ?_⟩
  by_cases same : other = number
  · rw [same, Function.update_self]
    rfl
  · rw [Function.update_of_ne same]
    exact begun

/-! ## Steps of clients -/

theorem refuse (sound : Sound clients settings answer bound account) (apart : Apart clients bound)
    {number : Nat} (unbegun : account.exchanges number = none) (error : Error) :
    Sound clients settings answer bound { account with
      exchanges := Function.update account.exchanges number
        (some ((clients number).exchange (.failed error))) } := by
  have failed : ((clients number).exchange (.failed error)).Follows
      (clients number).replyChannel [] := ⟨rfl, nofun, Or.inr ⟨error, rfl⟩⟩
  exact ⟨sound.taken, sound.asked_update number _, sound.distinct, sound.runs, sound.replies,
    sound.unread, sound.silent, sound.follows_begun apart unbegun failed⟩

theorem ask (sound : Sound clients settings answer bound account) (apart : Apart clients bound)
    {number : Nat} (unbegun : account.exchanges number = none) {message : Message}
    (asks : (clients number).message = .ok message) (deadline : Instant)
    {messages : String → List Message}
    (added : messages RequestPayload.channel =
      account.messages RequestPayload.channel ++ [message])
    (kept : KeptBut RequestPayload.channel account.messages messages) :
    Sound clients settings answer bound { account with
      exchanges := Function.update account.exchanges number
        (some ((clients number).exchange (.awaitingHead (.asking deadline))))
      requests := account.requests ++ [message]
      messages } := by
  have awaits : ((clients number).exchange (.awaitingHead (.asking deadline))).Follows
      (clients number).replyChannel [] := by
    refine ⟨rfl, ?_, Or.inl rfl⟩
    rintro reading ⟨⟩
    trivial
  refine ⟨?_, ?_, ?_, sound.runs, ?_, ?_, ?_, sound.follows_begun apart unbegun awaits⟩
  · change account.requests ++ [message] = _ ++ messages RequestPayload.channel
    rw [added, sound.taken, List.append_assoc]
  · intro other mem
    rcases List.mem_append.mp mem with earlier | new
    · exact sound.asked_update number _ other earlier
    · cases List.mem_singleton.mp new
      refine ⟨number, asks, ?_⟩
      change (Function.update account.exchanges number (some _) number).isSome
      rw [Function.update_self]
      rfl
  · change ((account.requests ++ [message]).map _).Nodup
    rw [List.map_append, List.map_singleton, Client.replyChannel?_of_message asks,
      List.nodup_append]
    refine ⟨sound.distinct, List.nodup_singleton _, ?_⟩
    rintro earlier mem _ new rfl
    rw [List.mem_singleton.mp new] at mem
    exact sound.not_mem_of_unbegun apart unbegun mem
  · intro other call mem about
    change _ = _ ++ messages (clients other).replyChannel
    rw [kept _ (apart.ne_request other)]
    exact sound.replies other call mem about
  · intro other notCalled
    change _ ∧ messages (clients other).replyChannel = []
    rw [kept _ (apart.ne_request other)]
    exact sound.unread other notCalled
  · intro channel isBound differ
    change messages channel = []
    rw [kept channel differ]
    exact sound.silent channel isBound differ

theorem read (sound : Sound clients settings answer bound account) (apart : Apart clients bound)
    {number : Nat} {next : Exchange} {brought : Option Message}
    (follows : next.Follows (clients number).replyChannel
      (account.reads number ++ brought.toList))
    {messages : String → List Message}
    (taken : account.messages (clients number).replyChannel =
      brought.toList ++ messages (clients number).replyChannel)
    (kept : KeptBut (clients number).replyChannel account.messages messages) :
    Sound clients settings answer bound { account with
      exchanges := Function.update account.exchanges number (some next)
      reads := Function.update account.reads number (account.reads number ++ brought.toList)
      messages } := by
  -- what has been read and what waits remain together what they were
  have conserved : ∀ other,
      Function.update account.reads number (account.reads number ++ brought.toList) other ++
          messages (clients other).replyChannel =
        account.reads other ++ account.messages (clients other).replyChannel := by
    intro other
    by_cases same : other = number
    · rw [same, Function.update_self, taken, List.append_assoc]
    · rw [Function.update_of_ne same, kept _ fun channel => same (apart.distinct channel)]
  have reads : Function.update account.reads number (account.reads number ++ brought.toList)
      number = account.reads number ++ brought.toList := Function.update_self ..
  rw [← reads] at follows
  refine ⟨?_, sound.asked_update number next, sound.distinct, sound.runs, ?_, ?_, ?_,
    sound.follows_update follows fun _ differ => Function.update_of_ne differ ..⟩
  · change _ = _ ++ messages RequestPayload.channel
    rw [kept _ (apart.ne_request number).symm]
    exact sound.taken
  · intro other call mem about
    exact (sound.replies other call mem about).trans (conserved other).symm
  · intro other notCalled
    have nothing := sound.unread other notCalled
    have both := conserved other
    rw [nothing.1, nothing.2] at both
    exact List.append_eq_nil_iff.mp both
  · intro channel isBound differ
    change messages channel = []
    rw [kept channel]
    · exact sound.silent channel isBound differ
    · rintro rfl
      exact apart.unbound number isBound

/-! ## Steps of workers -/

theorem serve (sound : Sound clients settings answer bound account) (apart : Apart clients bound)
    {message : Message} {context : Context} (on : context.channel = RequestPayload.channel)
    {messages : String → List Message}
    (taken : account.messages RequestPayload.channel = message :: messages RequestPayload.channel)
    (kept : KeptBut RequestPayload.channel account.messages messages) :
    Sound clients settings answer bound { account with
      calls := account.calls ++ [{
        message, context
        strand := .ready (View.consume settings (.ofFunction answer) message context) }]
      messages } := by
  have calls := sound.distinct
  rw [sound.replyChannels, taken, List.map_cons, List.nodup_append] at calls
  refine ⟨?_, sound.asked, sound.distinct, ?_, ?_, ?_, ?_, sound.follows⟩
  · change _ = List.map _ (account.calls ++ [_]) ++ messages RequestPayload.channel
    rw [sound.taken, taken, List.map_append, List.map_singleton, List.append_assoc]
    rfl
  · intro call mem
    rcases List.mem_append.mp mem with earlier | new
    · exact sound.runs call earlier
    · cases List.mem_singleton.mp new
      exact ⟨on, Program.Run.stop _⟩
  · intro number call mem about
    change _ = _ ++ messages (clients number).replyChannel
    rw [kept _ (apart.ne_request number)]
    rcases List.mem_append.mp mem with earlier | new
    · exact sound.replies number call earlier about
    · -- nobody has been asked to answer there before
      cases List.mem_singleton.mp new
      have notCalled : some (clients number).replyChannel ∉ account.calls.map Call.replyChannel? :=
        fun called => calls.2.2 _ called _ List.mem_cons_self about.symm
      have nothing := sound.unread number notCalled
      rw [nothing.1, nothing.2]
      rfl
  · intro number notCalled
    change _ ∧ messages (clients number).replyChannel = []
    rw [kept _ (apart.ne_request number)]
    apply sound.unread number
    intro called
    apply notCalled
    change _ ∈ List.map _ (account.calls ++ [_])
    rw [List.map_append]
    exact List.mem_append_left _ called
  · intro channel isBound differ
    change messages channel = []
    rw [kept channel differ]
    exact sound.silent channel isBound differ

theorem act (sound : Sound clients settings answer bound account) (apart : Apart clients bound)
    {index : Nat} {call next : Call} (found : account.calls[index]? = some call)
    (same : next.message = call.message) (runs : next.Runs settings answer) {performed : Trace}
    (grown : next.trace = call.trace ++ performed) {messages : String → List Message}
    (added : ∀ channel,
      messages channel = account.messages channel ++ performed.accepted channel) :
    Sound clients settings answer bound { account with
      calls := account.calls.set index next
      messages } := by
  have mem := List.mem_of_getElem? found
  rcases sound.client_of_call mem with ⟨owner, -, own⟩
  have sameMessages := map_set_of_getElem? found same
  have sameChannels := map_set_of_getElem? found
    (show next.replyChannel? = call.replyChannel? from
      congrArg RequestPayload.replyChannel? same)
  have nextOwn : next.replyChannel? = some (clients owner).replyChannel :=
    (congrArg RequestPayload.replyChannel? same).trans own
  -- the call sends to its own reply channel only
  have kept : ∀ channel, channel ≠ (clients owner).replyChannel →
      messages channel = account.messages channel := by
    intro channel differ
    have elsewhere : RequestPayload.replyChannel? next.message ≠ some channel := by
      intro named
      exact differ (Option.some.inj (named.symm.trans nextOwn))
    have nothing := View.accepted_eq_nil_of_ne runs.run elsewhere
    rw [grown, Trace.accepted_append] at nothing
    rw [added, (List.append_eq_nil_iff.mp nothing).2, List.append_nil]
  refine ⟨?_, sound.asked, sound.distinct, ?_, ?_, ?_, ?_, sound.follows⟩
  · change _ = List.map _ (List.set _ _ _) ++ messages RequestPayload.channel
    rw [sameMessages, kept _ (apart.ne_request owner).symm]
    exact sound.taken
  · intro other otherMem
    rcases List.mem_or_eq_of_mem_set otherMem with earlier | rfl
    · exact sound.runs other earlier
    · exact runs
  · intro number other otherMem about
    change _ = _ ++ messages (clients number).replyChannel
    rcases List.mem_iff_getElem?.mp otherMem with ⟨position, atPosition⟩
    change (account.calls.set index next)[position]? = some other at atPosition
    by_cases here : index = position
    · subst here
      rw [List.getElem?_set_self (List.getElem?_eq_some_iff.mp found).1] at atPosition
      cases atPosition
      cases apart.distinct (Option.some.inj (about.symm.trans nextOwn))
      rw [grown, Trace.accepted_append, added, sound.replies owner call mem own,
        List.append_assoc]
    · -- another call is asked to answer elsewhere
      rw [List.getElem?_set_ne here] at atPosition
      rw [kept]
      · exact sound.replies number other (List.mem_of_getElem? atPosition) about
      · intro sameChannel
        apply here
        apply sound.index_eq found atPosition
        rw [own, about, sameChannel]
  · intro number notCalled
    change some _ ∉ List.map _ (List.set _ _ _) at notCalled
    rw [sameChannels] at notCalled
    change _ ∧ messages (clients number).replyChannel = []
    rw [kept]
    · exact sound.unread number notCalled
    · intro sameChannel
      apply notCalled
      rw [sameChannel, ← own]
      exact List.mem_map_of_mem mem
  · intro channel isBound differ
    change messages channel = []
    rw [kept channel]
    · exact sound.silent channel isBound differ
    · rintro rfl
      exact apart.unbound owner isBound

theorem stay (sound : Sound clients settings answer bound account)
    {messages : String → List Message}
    (kept : ∀ channel, messages channel = account.messages channel) :
    Sound clients settings answer bound { account with messages } := by
  cases show messages = account.messages from funext kept
  exact sound

theorem step (sound : Sound clients settings answer bound account) (apart : Apart clients bound)
    {after : Account}
    (step : Step clients (View.consume settings (.ofFunction answer)) account after) :
    Sound clients settings answer bound after := by
  cases step with
  | stay kept => exact sound.stay kept
  | refuse unbegun error kept => exact (sound.refuse apart unbegun error).stay kept
  | ask unbegun asks deadline added kept => exact sound.ask apart unbegun asks deadline added kept
  | serve on taken kept => exact sound.serve apart on taken kept
  | read _ follows taken kept => exact sound.read apart follows taken kept
  | @act index call found strand performed run messages added =>
      have runs := sound.runs call (List.mem_of_getElem? found)
      let next : Call := { call with strand, trace := call.trace ++ performed }
      have same : next.message = call.message := rfl
      exact sound.act apart found same ⟨runs.channel, run _ _ runs.run⟩ rfl added

end Sound

end Account

/-! ## Whole runs -/

namespace Traffic

variable {clients : Nat → Client} {settings : HttpSettings}
  {answer : RequestPayload → Context → ViewResult} {site : Site} {name : String}

theorem registry_run (clients : Nat → Client) (traffic : Traffic) (moves : List Move) :
    (traffic.run clients moves).site.registry = traffic.site.registry := by
  induction moves generalizing traffic with
  | nil => rfl
  | cons move rest ih => exact (ih (traffic.move clients move)).trans (registry_move _ _ _)

/-- Nobody has asked yet, and nothing waits where somebody would look for it. -/
structure Unused (clients : Nat → Client) (site : Site) : Prop where
  served : ∀ channel ∈ site.registry.channels, site.backend.messages channel = []
  replies : ∀ number, site.backend.messages (clients number).replyChannel = []

theorem sound_start (now : Instant) (apart : Apart clients site.registry.channels)
    (unused : Unused clients site) :
    (start site now).account.Sound clients settings answer site.registry.channels := by
  refine ⟨?_, ?_, List.nodup_nil, ?_, ?_, ?_, ?_, ?_⟩
  · exact (unused.served _ apart.request).symm
  · exact fun _ impossible => absurd impossible List.not_mem_nil
  · exact fun _ impossible => absurd impossible List.not_mem_nil
  · exact fun _ _ impossible => absurd impossible List.not_mem_nil
  · exact fun number _ => ⟨rfl, unused.replies number⟩
  · exact fun channel isBound _ => unused.served channel isBound
  · exact fun _ _ impossible => absurd impossible (Option.some_ne_none _).symm

theorem sound_run (now : Instant) (moves : List Move)
    (apart : Apart clients site.registry.channels)
    (served : site.registry.consumer? RequestPayload.channel =
      some (View.consumer name settings (.ofFunction answer)))
    (unused : Unused clients site)
    (alive : ∀ before, before <+: moves → ((start site now).run clients before).Alive) :
    ((start site now).run clients moves).account.Sound clients settings answer
      site.registry.channels := by
  induction moves using List.reverseRecOn with
  | nil => exact sound_start now apart unused
  | append_singleton front last ih =>
      have front_le : front <+: front ++ [last] := List.prefix_append _ _
      have sound := ih fun before le => alive before (le.trans front_le)
      have registry : ((start site now).run clients front).site.registry = site.registry :=
        registry_run clients (start site now) front
      have silent := sound.silent
      rw [← registry] at served silent
      rw [run_snoc]
      exact sound.step apart (step_move (alive front front_le) served silent sound.follows last)

end Traffic

end Courier.Http
