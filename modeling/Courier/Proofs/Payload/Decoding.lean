import Courier.Proofs.Payload.Fields
import Courier.Socket.Payload

/-!
# Decoding by a schema

Each kind of payload has a schema, and a message is decoded if it meets the schema: what is needed
is there, and what is there has the declared form. The payload consists of what the message gives
for each field. A response has one of two schemas, and a field of its own says which.

A message has no two fields of one name. Where that is so, the fields of a message may stand in any
order, and among any fields that the schema does not declare.
-/

namespace Courier

namespace Payload

variable {π : Type}

/-- The payload of a message; a message from which none can be read is malformed. -/
def decode (read : Message → Except DecodeError π) (message : Message) : Except ChannelError π :=
  match read message with
  | .ok payload => .ok payload
  | .error error => .error (malformed error)

theorem decode_eq_ok_iff {read : Message → Except DecodeError π} {message : Message}
    {payload : π} : decode read message = .ok payload ↔ read message = .ok payload := by
  rw [decode]
  cases read message <;> simp

theorem decode_eq_error {read : Message → Except DecodeError π} {message : Message}
    {error : ChannelError} (failed : decode read message = .error error) :
    ∃ reason, error = .malformedMessage reason := by
  rw [decode] at failed
  cases unread : read message with
  | ok payload => simp [unread] at failed
  | error cause =>
      rw [unread] at failed
      exact ⟨cause.message, (Except.error.inj failed).symm⟩

/-- Messages decode if they meet a schema, and then to the payload that they hold. What they decode
to depends on the fields of some names only, and not on their order. -/
structure Decodes (read : Message → Except DecodeError π) (names : Message → List String)
    (Met : Message → Prop) (HeldBy : Message → π → Prop) : Prop where
  succeeds_iff : ∀ message : Message, Assoc.Distinct message.fields →
    ((∃ payload, decode read message = .ok payload) ↔ Met message)
  payload_iff : ∀ (message : Message) (payload : π), Assoc.Distinct message.fields →
    (decode read message = .ok payload ↔ HeldBy message payload)
  unchanged : ∀ (left right : Message) (payload : π), Assoc.Distinct left.fields →
    Assoc.Distinct right.fields → Assoc.SameUnder (names left) left.fields right.fields →
    (decode read left = .ok payload ↔ decode read right = .ok payload)
  refused : ∀ (message : Message) (error : ChannelError),
    decode read message = .error error → ∃ reason, error = .malformedMessage reason

theorem decodes_of_heldBy {read : Message → Except DecodeError π}
    {names : Message → List String} {Met : Message → Prop} {HeldBy : Message → π → Prop}
    (held : ∀ {message : Message} {payload : π}, Assoc.Distinct message.fields →
      (read message = .ok payload ↔ HeldBy message payload))
    (met : ∀ {message : Message}, (∃ payload, HeldBy message payload) ↔ Met message)
    (congr : ∀ {left right : Message},
      (∀ name ∈ names left, left.get? name = right.get? name) →
        ∀ payload, HeldBy left payload ↔ HeldBy right payload) :
    Decodes read names Met HeldBy where
  succeeds_iff message distinct := by
    rw [← met]
    exact exists_congr fun payload => decode_eq_ok_iff.trans (held distinct)
  payload_iff message payload distinct := decode_eq_ok_iff.trans (held distinct)
  unchanged left right payload leftDistinct rightDistinct same := by
    rw [decode_eq_ok_iff, decode_eq_ok_iff, held leftDistinct, held rightDistinct]
    exact congr (fun name mem => same.find?_eq leftDistinct rightDistinct mem) payload
  refused message error := decode_eq_error

/-- Messages decode by one schema. -/
def DecodesBy (read : Message → Except DecodeError π) (schema : Schema π) : Prop :=
  Decodes read (fun _ => schema.names) schema.Met schema.HeldBy

theorem decodesBy_of_heldBy {read : Message → Except DecodeError π} {schema : Schema π}
    (held : ∀ {message : Message} {payload : π}, Assoc.Distinct message.fields →
      (read message = .ok payload ↔ schema.HeldBy message payload))
    (exists_of_met : ∀ {message : Message}, schema.Met message →
      ∃ payload, schema.HeldBy message payload) : DecodesBy read schema :=
  decodes_of_heldBy held ⟨fun ⟨_, held⟩ => Schema.met_of_heldBy held, exists_of_met⟩
    Schema.heldBy_congr

end Payload

open Payload

/-! ## Requests -/

namespace Http.RequestPayload

def schema : Schema RequestPayload :=
  [.defaulted "get" .textLists .empty (·.get),
    .defaulted "post" .textLists .empty (·.post),
    .defaulted "cookies" .texts .empty (·.cookies),
    .defaulted "meta" .texts .empty (·.environ),
    .required "path" .text (·.path),
    .required "path_info" .text (·.pathInfo),
    .required "method" .text (·.method),
    .required "reply_channel" .text (·.replyChannel),
    .defaulted "body" .bytes [] (·.body)]

theorem ofMessage_eq_ok_iff {message : Message} {payload : RequestPayload}
    (distinct : Assoc.Distinct message.fields) :
    ofMessage message = .ok payload ↔ schema.HeldBy message payload := by
  simp only [ofMessage, ofFields, bind_eq_ok_iff, required_eq_ok_iff Kind.text,
    defaulted_eq_ok_iff Kind.textLists, defaulted_eq_ok_iff Kind.texts,
    defaulted_eq_ok_iff Kind.bytes]
  constructor
  · rintro ⟨-, -, _, get, _, post, _, cookies, _, environ, _, path, _, info, _, method, _, reply,
      _, body, ⟨⟩⟩
    simp only [Schema.HeldBy, schema, List.forall_mem_cons]
    exact ⟨get, post, cookies, environ, path, info, method, reply, body, nofun⟩
  · intro held
    have checked := Schema.check_of_heldBy distinct held
    simp only [Schema.HeldBy, schema, List.forall_mem_cons] at held
    rcases held with ⟨get, post, cookies, environ, path, info, method, reply, body, -⟩
    exact ⟨(), checked, _, get, _, post, _, cookies, _, environ, _, path, _,
      info, _, method, _, reply, _, body, rfl⟩

theorem decodesBy : DecodesBy ofMessage schema := by
  apply decodesBy_of_heldBy ofMessage_eq_ok_iff
  intro message met
  simp only [Schema.Met, schema, List.forall_mem_cons, Part.met_iff] at met
  rcases met with ⟨⟨get, getGiven⟩, ⟨post, postGiven⟩, ⟨cookies, cookiesGiven⟩,
    ⟨environ, environGiven⟩, ⟨path, pathGiven⟩, ⟨info, infoGiven⟩, ⟨method, methodGiven⟩,
    ⟨reply, replyGiven⟩, ⟨body, bodyGiven⟩, -⟩
  refine ⟨⟨get, post, cookies, environ, path, info, method, reply, body⟩, ?_⟩
  simp only [Schema.HeldBy, schema, List.forall_mem_cons]
  exact ⟨getGiven, postGiven, cookiesGiven, environGiven, pathGiven, infoGiven, methodGiven,
    replyGiven, bodyGiven, nofun⟩

end Http.RequestPayload

/-! ## Responses -/

namespace Http.ResponseStart

def schema : Schema ResponseStart :=
  [.required "status" .status (·.status), .defaulted "headers" .pairs [] (·.headers)]

theorem ofFields_eq_ok_iff {message : Message} {head : ResponseStart}
    (distinct : Assoc.Distinct message.fields) :
    ofFields taggedExcess message.fields = .ok head ↔ schema.HeldBy message head := by
  simp only [ofFields, bind_eq_ok_iff, required_eq_ok_iff Kind.status,
    defaulted_eq_ok_iff Kind.pairs]
  constructor
  · rintro ⟨-, -, _, status, _, headers, ⟨⟩⟩
    simp only [Schema.HeldBy, schema, List.forall_mem_cons]
    exact ⟨status, headers, nofun⟩
  · intro held
    have checked := Schema.check_of_heldBy distinct held
    simp only [Schema.HeldBy, schema, List.forall_mem_cons] at held
    rcases held with ⟨status, headers, -⟩
    exact ⟨(), checked, _, status, _, headers, rfl⟩

theorem exists_heldBy {message : Message} (met : schema.Met message) :
    ∃ head, schema.HeldBy message head := by
  simp only [Schema.Met, schema, List.forall_mem_cons, Part.met_iff] at met
  rcases met with ⟨⟨status, statusGiven⟩, ⟨headers, headersGiven⟩, -⟩
  refine ⟨⟨status, headers⟩, ?_⟩
  simp only [Schema.HeldBy, schema, List.forall_mem_cons]
  exact ⟨statusGiven, headersGiven, nofun⟩

end Http.ResponseStart

namespace Http.ResponseChunk

def schema : Schema ResponseChunk :=
  [.defaulted "content" .bytes [] (·.content),
    .defaulted "more_content" .flag false (·.moreContent)]

theorem ofFields_eq_ok_iff {message : Message} {part : ResponseChunk}
    (distinct : Assoc.Distinct message.fields) :
    ofFields message.fields = .ok part ↔ schema.HeldBy message part := by
  simp only [ofFields, bind_eq_ok_iff, defaulted_eq_ok_iff Kind.bytes,
    defaulted_eq_ok_iff Kind.flag]
  constructor
  · rintro ⟨-, -, _, content, _, more, ⟨⟩⟩
    simp only [Schema.HeldBy, schema, List.forall_mem_cons]
    exact ⟨content, more, nofun⟩
  · intro held
    have checked := Schema.check_of_heldBy distinct held
    simp only [Schema.HeldBy, schema, List.forall_mem_cons] at held
    rcases held with ⟨content, more, -⟩
    exact ⟨(), checked, _, content, _, more, rfl⟩

theorem exists_heldBy {message : Message} (met : schema.Met message) :
    ∃ part, schema.HeldBy message part := by
  simp only [Schema.Met, schema, List.forall_mem_cons, Part.met_iff] at met
  rcases met with ⟨⟨content, contentGiven⟩, ⟨more, moreGiven⟩, -⟩
  refine ⟨⟨content, more⟩, ?_⟩
  simp only [Schema.HeldBy, schema, List.forall_mem_cons]
  exact ⟨contentGiven, moreGiven, nofun⟩

end Http.ResponseChunk

namespace Http.ResponseMessage

/-- What kind of message a message says it is. -/
def kind? (message : Message) : Option String := message.text? tag

/-- The names that matter in a message of its kind. -/
def names (message : Message) : List String :=
  tag :: if kind? message = some startTag then ResponseStart.schema.names
    else if kind? message = some chunkTag then ResponseChunk.schema.names
    else []

/-- A message says that it is a start and is one, or says that it is a chunk and is one. -/
def Met (message : Message) : Prop :=
  (kind? message = some startTag ∧ ResponseStart.schema.Met message) ∨
    (kind? message = some chunkTag ∧ ResponseChunk.schema.Met message)

def HeldBy (message : Message) : ResponseMessage → Prop
  | .start head => kind? message = some startTag ∧ ResponseStart.schema.HeldBy message head
  | .chunk part => kind? message = some chunkTag ∧ ResponseChunk.schema.HeldBy message part

theorem tag_notMem_start : tag ∉ ResponseStart.schema.names := by decide

theorem tag_notMem_chunk : tag ∉ ResponseChunk.schema.names := by decide

/-- A message without its kind. -/
def untagged (message : Message) : Message := ⟨Assoc.erase message.fields tag⟩

theorem heldBy_untagged {π : Type} {schema : Schema π} (other : tag ∉ schema.names)
    (message : Message) (payload : π) :
    schema.HeldBy (untagged message) payload ↔ schema.HeldBy message payload := by
  apply Schema.heldBy_congr
  intro name mem
  exact Assoc.find?_erase_of_ne message.fields fun isTag => other (isTag ▸ mem)

section Kinds

variable {message : Message} {payload : ResponseMessage}
  (distinct : Assoc.Distinct message.fields)

include distinct

theorem distinct_untagged : Assoc.Distinct (untagged message).fields :=
  Assoc.distinct_erase distinct tag

theorem read_start_iff (kind : kind? message = some startTag) :
    (ResponseStart.ofFields ResponseStart.taggedExcess (untagged message).fields).map .start =
      .ok payload ↔ HeldBy message payload := by
  simp only [map_eq_ok_iff, ResponseStart.ofFields_eq_ok_iff (distinct_untagged distinct),
    heldBy_untagged tag_notMem_start]
  cases payload with
  | start head => simp [HeldBy, kind]
  | chunk part => simp [HeldBy, kind, startTag, chunkTag]

theorem read_chunk_iff (kind : kind? message = some chunkTag) :
    (ResponseChunk.ofFields (untagged message).fields).map .chunk = .ok payload ↔
      HeldBy message payload := by
  simp only [map_eq_ok_iff, ResponseChunk.ofFields_eq_ok_iff (distinct_untagged distinct),
    heldBy_untagged tag_notMem_chunk]
  cases payload with
  | start head => simp [HeldBy, kind, startTag, chunkTag]
  | chunk part => simp [HeldBy, kind]

end Kinds

theorem not_heldBy {message : Message} (notStart : kind? message ≠ some startTag)
    (notChunk : kind? message ≠ some chunkTag) (payload : ResponseMessage) :
    ¬ HeldBy message payload := by
  cases payload with
  | start head => exact fun held => notStart held.1
  | chunk part => exact fun held => notChunk held.1

theorem ofMessage_eq_ok_iff {message : Message} {payload : ResponseMessage}
    (distinct : Assoc.Distinct message.fields) :
    ofMessage message = .ok payload ↔ HeldBy message payload := by
  rw [ofMessage, ofFields]
  have kind : kind? message = (Assoc.find? message.fields tag).bind Json.text? := rfl
  cases held : Assoc.find? message.fields tag with
  | none =>
      rw [held] at kind
      exact iff_of_false nofun (not_heldBy (by simp [kind]) (by simp [kind]) payload)
  | some json =>
      rw [held] at kind
      cases json with
      | text value =>
          by_cases isStart : value = startTag
          · subst isStart
            simpa [untagged] using read_start_iff distinct kind
          · by_cases isChunk : value = chunkTag
            · subst isChunk
              simpa [isStart, untagged] using read_chunk_iff distinct kind
            · simp only [isStart, isChunk, if_false]
              refine iff_of_false nofun (not_heldBy ?_ ?_ payload)
              · simp [kind, Json.text?, isStart]
              · simp [kind, Json.text?, isChunk]
      | null | bool | integer | float | array | object =>
          exact iff_of_false nofun
            (not_heldBy (by simp [kind, Json.text?]) (by simp [kind, Json.text?]) payload)

theorem exists_heldBy_iff {message : Message} :
    (∃ payload, HeldBy message payload) ↔ Met message := by
  constructor
  · rintro ⟨head | part, kind, held⟩
    · exact Or.inl ⟨kind, Schema.met_of_heldBy held⟩
    · exact Or.inr ⟨kind, Schema.met_of_heldBy held⟩
  · rintro (⟨kind, met⟩ | ⟨kind, met⟩)
    · rcases ResponseStart.exists_heldBy met with ⟨head, held⟩
      exact ⟨.start head, kind, held⟩
    · rcases ResponseChunk.exists_heldBy met with ⟨part, held⟩
      exact ⟨.chunk part, kind, held⟩

theorem heldBy_congr {left right : Message}
    (same : ∀ name ∈ names left, left.get? name = right.get? name) (payload : ResponseMessage) :
    HeldBy left payload ↔ HeldBy right payload := by
  rw [names, List.forall_mem_cons] at same
  rcases same with ⟨sameTag, same⟩
  have sameKind : kind? left = kind? right := by
    rw [kind?, kind?, Message.text?, Message.text?, sameTag]
  cases payload with
  | start head =>
      rw [HeldBy, HeldBy, ← sameKind]
      refine and_congr_right fun kind => Schema.heldBy_congr ?_ head
      rwa [if_pos kind] at same
  | chunk part =>
      rw [HeldBy, HeldBy, ← sameKind]
      refine and_congr_right fun kind => Schema.heldBy_congr ?_ part
      rwa [kind, if_neg (by decide), if_pos rfl] at same

theorem decodes : Decodes ofMessage names Met HeldBy :=
  decodes_of_heldBy ofMessage_eq_ok_iff exists_heldBy_iff heldBy_congr

end Http.ResponseMessage

/-! ## Sockets -/

namespace Socket.Connect

def schema : Schema Connect :=
  [.required "send_channel" .text (·.sendChannel),
    .defaulted "path" .text "" (·.path),
    .defaulted "query_string" .text "" (·.queryString),
    .defaulted "client" .textOrNull none (·.client)]

theorem ofMessage_eq_ok_iff {message : Message} {payload : Connect}
    (distinct : Assoc.Distinct message.fields) :
    ofMessage message = .ok payload ↔ schema.HeldBy message payload := by
  simp only [ofMessage, bind_eq_ok_iff, required_eq_ok_iff Kind.text,
    defaulted_eq_ok_iff Kind.text, defaulted_eq_ok_iff Kind.textOrNull]
  constructor
  · rintro ⟨-, -, _, channel, _, path, _, query, _, client, ⟨⟩⟩
    simp only [Schema.HeldBy, schema, List.forall_mem_cons]
    exact ⟨channel, path, query, client, nofun⟩
  · intro held
    have checked := Schema.check_of_heldBy distinct held
    simp only [Schema.HeldBy, schema, List.forall_mem_cons] at held
    rcases held with ⟨channel, path, query, client, -⟩
    exact ⟨(), checked, _, channel, _, path, _, query, _, client, rfl⟩

theorem decodesBy : DecodesBy ofMessage schema := by
  apply decodesBy_of_heldBy ofMessage_eq_ok_iff
  intro message met
  simp only [Schema.Met, schema, List.forall_mem_cons, Part.met_iff] at met
  rcases met with ⟨⟨channel, channelGiven⟩, ⟨path, pathGiven⟩, ⟨query, queryGiven⟩,
    ⟨client, clientGiven⟩, -⟩
  refine ⟨⟨channel, path, query, client⟩, ?_⟩
  simp only [Schema.HeldBy, schema, List.forall_mem_cons]
  exact ⟨channelGiven, pathGiven, queryGiven, clientGiven, nofun⟩

end Socket.Connect

namespace Socket.Receive

def schema : Schema Receive :=
  [.required "send_channel" .text (·.sendChannel),
    .required "content" .text (·.content),
    .defaulted "binary" .flag false (·.binary)]

theorem ofMessage_eq_ok_iff {message : Message} {payload : Receive}
    (distinct : Assoc.Distinct message.fields) :
    ofMessage message = .ok payload ↔ schema.HeldBy message payload := by
  simp only [ofMessage, bind_eq_ok_iff, required_eq_ok_iff Kind.text,
    defaulted_eq_ok_iff Kind.flag]
  constructor
  · rintro ⟨-, -, _, channel, _, content, _, binary, ⟨⟩⟩
    simp only [Schema.HeldBy, schema, List.forall_mem_cons]
    exact ⟨channel, content, binary, nofun⟩
  · intro held
    have checked := Schema.check_of_heldBy distinct held
    simp only [Schema.HeldBy, schema, List.forall_mem_cons] at held
    rcases held with ⟨channel, content, binary, -⟩
    exact ⟨(), checked, _, channel, _, content, _, binary, rfl⟩

theorem decodesBy : DecodesBy ofMessage schema := by
  apply decodesBy_of_heldBy ofMessage_eq_ok_iff
  intro message met
  simp only [Schema.Met, schema, List.forall_mem_cons, Part.met_iff] at met
  rcases met with ⟨⟨channel, channelGiven⟩, ⟨content, contentGiven⟩, ⟨binary, binaryGiven⟩, -⟩
  refine ⟨⟨channel, content, binary⟩, ?_⟩
  simp only [Schema.HeldBy, schema, List.forall_mem_cons]
  exact ⟨channelGiven, contentGiven, binaryGiven, nofun⟩

end Socket.Receive

namespace Socket.Disconnect

def schema : Schema Disconnect := [.required "send_channel" .text (·.sendChannel)]

theorem ofMessage_eq_ok_iff {message : Message} {payload : Disconnect}
    (distinct : Assoc.Distinct message.fields) :
    ofMessage message = .ok payload ↔ schema.HeldBy message payload := by
  simp only [ofMessage, bind_eq_ok_iff, required_eq_ok_iff Kind.text]
  constructor
  · rintro ⟨-, -, _, channel, ⟨⟩⟩
    simp only [Schema.HeldBy, schema, List.forall_mem_singleton]
    exact channel
  · intro held
    have checked := Schema.check_of_heldBy distinct held
    simp only [Schema.HeldBy, schema, List.forall_mem_singleton] at held
    exact ⟨(), checked, _, held, rfl⟩

theorem decodesBy : DecodesBy ofMessage schema := by
  apply decodesBy_of_heldBy ofMessage_eq_ok_iff
  intro message met
  simp only [Schema.Met, schema, List.forall_mem_singleton, Part.met_iff] at met
  rcases met with ⟨channel, given⟩
  exact ⟨⟨channel⟩, List.forall_mem_singleton.mpr given⟩

end Socket.Disconnect

namespace Socket.Send

def schema : Schema Send :=
  [.defaulted "content" .text "" (·.content), .defaulted "binary" .flag false (·.binary),
    .defaulted "close" .flag false (·.close)]

theorem ofMessage_eq_ok_iff {message : Message} {payload : Send}
    (distinct : Assoc.Distinct message.fields) :
    ofMessage message = .ok payload ↔ schema.HeldBy message payload := by
  simp only [ofMessage, bind_eq_ok_iff, defaulted_eq_ok_iff Kind.text,
    defaulted_eq_ok_iff Kind.flag]
  constructor
  · rintro ⟨-, -, _, content, _, binary, _, close, ⟨⟩⟩
    simp only [Schema.HeldBy, schema, List.forall_mem_cons]
    exact ⟨content, binary, close, nofun⟩
  · intro held
    have checked := Schema.check_of_heldBy distinct held
    simp only [Schema.HeldBy, schema, List.forall_mem_cons] at held
    rcases held with ⟨content, binary, close, -⟩
    exact ⟨(), checked, _, content, _, binary, _, close, rfl⟩

theorem decodesBy : DecodesBy ofMessage schema := by
  apply decodesBy_of_heldBy ofMessage_eq_ok_iff
  intro message met
  simp only [Schema.Met, schema, List.forall_mem_cons, Part.met_iff] at met
  rcases met with ⟨⟨content, contentGiven⟩, ⟨binary, binaryGiven⟩, ⟨close, closeGiven⟩, -⟩
  refine ⟨⟨content, binary, close⟩, ?_⟩
  simp only [Schema.HeldBy, schema, List.forall_mem_cons]
  exact ⟨contentGiven, binaryGiven, closeGiven, nofun⟩

end Socket.Send

namespace Payload

/-- Payloads of every kind decode by their schemas: exactly from the messages that meet them, to
what these hold or what stands for absent fields, whatever the order of the fields and whatever
else there is. A message that does not decode is malformed. -/
theorem schemas_decode :
    DecodesBy Http.RequestPayload.ofMessage Http.RequestPayload.schema ∧
    Decodes Http.ResponseMessage.ofMessage Http.ResponseMessage.names Http.ResponseMessage.Met
      Http.ResponseMessage.HeldBy ∧
    DecodesBy Socket.Connect.ofMessage Socket.Connect.schema ∧
    DecodesBy Socket.Receive.ofMessage Socket.Receive.schema ∧
    DecodesBy Socket.Disconnect.ofMessage Socket.Disconnect.schema ∧
    DecodesBy Socket.Send.ofMessage Socket.Send.schema :=
  ⟨Http.RequestPayload.decodesBy, Http.ResponseMessage.decodes, Socket.Connect.decodesBy,
    Socket.Receive.decodesBy, Socket.Disconnect.decodesBy, Socket.Send.decodesBy⟩

/-- A start is decoded from fields in another order, among fields that it does not declare. -/
theorem schemas_decode_shuffled_start :
    let left : Message := ⟨[("type", .text "http.response.start"), ("status", .natural 404)]⟩
    let right : Message :=
      ⟨[("content", .null), ("status", .natural 404), ("type", .text "http.response.start")]⟩
    Assoc.Distinct left.fields ∧ Assoc.Distinct right.fields ∧
      Assoc.SameUnder (Http.ResponseMessage.names left) left.fields right.fields ∧
      decode Http.ResponseMessage.ofMessage right = .ok (.start ⟨404, []⟩) := by
  intro left right
  have leftDistinct : Assoc.Distinct left.fields := by decide
  have rightDistinct : Assoc.Distinct right.fields := by decide
  have same : Assoc.SameUnder (Http.ResponseMessage.names left) left.fields right.fields :=
    (Assoc.SameUnder.of_perm _ (List.Perm.swap _ _ [])).trans
      (Assoc.sameUnder_cons (by decide) _ _).symm
  have held : Http.ResponseMessage.HeldBy left (.start ⟨404, []⟩) := by
    refine ⟨rfl, ?_⟩
    simp only [Schema.HeldBy, Http.ResponseStart.schema, List.forall_mem_cons]
    exact ⟨⟨rfl, show 404 ≤ 65535 by decide⟩, rfl, nofun⟩
  have decoded := (schemas_decode.2.1.payload_iff left _ leftDistinct).mpr held
  exact ⟨leftDistinct, rightDistinct, same,
    (schemas_decode.2.1.unchanged left right _ leftDistinct rightDistinct same).mp decoded⟩

/-- What is null is not absent. -/
example : decode Socket.Send.ofMessage ⟨[("content", .text "hi"), ("close", .null)]⟩ =
    .error (.malformedMessage "invalid type: null, expected a boolean") := by
  rfl

end Payload

end Courier
