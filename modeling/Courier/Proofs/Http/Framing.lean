import Courier.Http.Framing
import Courier.Proofs.Http.ResponseMessage

/-!
# Framing and collecting

The chunks of a body end with their only chunk that announces no more content, and together they
carry the body. This is all that collecting needs: a start and chunks that end in this way make up a
response, whatever follows them, and whether they were kept as messages or as texts on the way.

Chunks that are cut short and closed by an empty chunk end in this way too, and what they carry is
an initial segment of the body.
-/

namespace Courier.Http

/-! ## Cutting -/

theorem flatten_pieces (extra : Nat) (data : List UInt8) : (pieces extra data).flatten = data := by
  induction data using pieces.induct extra with
  | case1 => simp [pieces]
  | case2 byte rest ih =>
      rw [pieces, List.flatten_cons, ih, List.cons_append, List.take_append_drop]

theorem pieces_ne_nil {extra : Nat} {data : List UInt8} (nonempty : data ≠ []) :
    pieces extra data ≠ [] := by
  cases data with
  | nil => exact absurd rfl nonempty
  | cons byte rest => simp [pieces]

@[simp]
theorem map_fst_markLast (list : List (List UInt8)) : (markLast list).map Prod.fst = list := by
  induction list using markLast.induct with
  | case1 => rfl
  | case2 piece => rfl
  | case3 piece next rest ih => rw [markLast, List.map_cons, ih]

theorem flatten_chunkBody (size : Nat) (data : List UInt8) :
    ((chunkBody size data).map Prod.fst).flatten = data := by
  cases data with
  | nil => rfl
  | cons byte rest =>
      change ((markLast (pieces (size - 1) (byte :: rest))).map Prod.fst).flatten = byte :: rest
      rw [map_fst_markLast, flatten_pieces]

/-! ## Chunks that end -/

/-- Chunks of which the last one, and no other, announces no more content. -/
inductive Ended : List ResponseChunk → Prop
  | last (content : List UInt8) : Ended [⟨content, false⟩]
  | more (content : List UInt8) {rest : List ResponseChunk} (ended : Ended rest) :
      Ended (⟨content, true⟩ :: rest)

/-- What chunks carry. -/
def contents (chunks : List ResponseChunk) : List UInt8 := chunks.flatMap ResponseChunk.content

theorem Ended.ne_nil {chunks : List ResponseChunk} (ended : Ended chunks) : chunks ≠ [] := by
  cases ended with
  | last content => exact List.cons_ne_nil _ _
  | more content ended => exact List.cons_ne_nil _ _

theorem Ended.append {front chunks : List ResponseChunk}
    (more : ∀ chunk ∈ front, chunk.moreContent = true) (ended : Ended chunks) :
    Ended (front ++ chunks) := by
  induction front with
  | nil => exact ended
  | cons chunk front ih =>
      rcases chunk with ⟨content, moreContent⟩
      have announced : moreContent = true := more _ List.mem_cons_self
      rw [announced]
      apply Ended.more
      apply ih
      intro other mem
      exact more other (List.mem_cons_of_mem _ mem)

/-- Before the last chunk every chunk announces more content. -/
theorem Ended.moreContent_of_take {chunks : List ResponseChunk} (ended : Ended chunks) {count : Nat}
    (short : count < chunks.length) :
    ∀ chunk ∈ chunks.take count, chunk.moreContent = true := by
  induction ended generalizing count with
  | last content =>
      have none : count = 0 := by
        simp only [List.length_singleton] at short
        omega
      rw [none]
      intro chunk mem
      exact absurd mem List.not_mem_nil
  | more content ended ih =>
      cases count with
      | zero =>
          intro chunk mem
          exact absurd mem List.not_mem_nil
      | succ count =>
          rw [List.length_cons] at short
          intro chunk mem
          rw [List.take_succ_cons, List.mem_cons] at mem
          rcases mem with rfl | mem
          · rfl
          · exact ih (Nat.lt_of_succ_lt_succ short) chunk mem

/-- Chunks that are cut short and closed by an empty chunk end. -/
theorem Ended.cut {chunks : List ResponseChunk} (ended : Ended chunks) {count : Nat}
    (short : count < chunks.length) : Ended (chunks.take count ++ [.last]) :=
  Ended.append (ended.moreContent_of_take short) (Ended.last [])

theorem ended_markLast {list : List (List UInt8)} (nonempty : list ≠ []) :
    Ended ((markLast list).map fun piece => ⟨piece.1, !piece.2⟩) := by
  induction list using markLast.induct with
  | case1 => exact absurd rfl nonempty
  | case2 piece => exact Ended.last piece
  | case3 piece next rest ih => exact Ended.more piece (ih (List.cons_ne_nil next rest))

namespace Body

theorem ended_chunks (size : Nat) (body : Body) : Ended (body.chunks size) := by
  cases body with
  | full content =>
      cases content with
      | nil => exact Ended.last []
      | cons byte rest => exact ended_markLast (pieces_ne_nil (List.cons_ne_nil byte rest))
  | streaming parts =>
      apply Ended.append _ (Ended.last [])
      intro chunk mem
      rcases List.mem_flatMap.mp mem with ⟨part, _, mem⟩
      rcases List.mem_map.mp mem with ⟨piece, _, rfl⟩
      rfl

theorem contents_map_chunkBody (size : Nat) (data : List UInt8)
    (announce : Bool → Bool) :
    contents ((chunkBody size data).map fun piece => ⟨piece.1, announce piece.2⟩) = data := by
  rw [contents, List.flatMap_map]
  exact flatten_chunkBody size data

theorem contents_flatMap_chunkBody (size : Nat) (parts : List (List UInt8)) :
    contents ((parts.filter fun part => !part.isEmpty).flatMap fun part =>
      (chunkBody size part).map fun piece => ⟨piece.1, true⟩) = parts.flatten := by
  induction parts with
  | nil => rfl
  | cons part rest ih =>
      cases part with
      | nil => exact ih
      | cons byte tail =>
          have first := contents_map_chunkBody size (byte :: tail) fun _ => true
          simp only [contents] at first ih ⊢
          rw [List.filter_cons_of_pos rfl, List.flatMap_cons, List.flatMap_append, first, ih,
            List.flatten_cons]

/-- The chunks of a body carry its bytes. -/
theorem contents_chunks (size : Nat) (body : Body) : contents (body.chunks size) = body.bytes := by
  cases body with
  | full content => exact contents_map_chunkBody size content not
  | streaming parts =>
      have front := contents_flatMap_chunkBody size parts
      simp only [contents] at front
      rw [chunks, contents, List.flatMap_append, front]
      exact List.append_nil _

end Body

/-- The chunks in front of others carry an initial segment of what all carry. -/
theorem contents_take_prefix (count : Nat) (chunks : List ResponseChunk) :
    contents (chunks.take count) <+: contents chunks := by
  refine ⟨contents (chunks.drop count), ?_⟩
  rw [contents, contents, contents, ← List.flatMap_append, List.take_append_drop]

/-! ## Collecting -/

namespace Collector

/-- A message that fits is added while the response is not complete. -/
theorem push_toMessage {collector : Collector} (open_ : collector.complete = false)
    {message : ResponseMessage} (fits : message.Fits) :
    collector.push message.toMessage = collector.add message := by
  rw [push, open_, ResponseMessage.ofMessage_toMessage fits]
  rfl

/-- Behind a start, chunks that end complete the response, and nothing behind them is looked at. -/
theorem pushAll_chunks (head : ResponseStart) {chunks : List ResponseChunk} (ended : Ended chunks)
    (body : List UInt8) (extra : List Message) :
    pushAll ⟨some head, body, false⟩
        (chunks.map (fun chunk => (ResponseMessage.chunk chunk).toMessage) ++ extra) =
      .ok ⟨some head, body ++ contents chunks, true⟩ := by
  induction ended generalizing body with
  | last content =>
      rw [List.map_singleton, List.singleton_append, pushAll,
        push_toMessage rfl (ResponseMessage.fits_chunk _)]
      simp only [add, Option.isNone_some, Bool.false_eq_true, if_false, Bool.not_false, if_true,
        contents, List.flatMap_singleton]
  | more content ended ih =>
      rw [List.map_cons, List.cons_append, pushAll,
        push_toMessage rfl (ResponseMessage.fits_chunk _)]
      simp only [add, Option.isNone_some, Bool.false_eq_true, if_false, Bool.not_true]
      rw [ih, contents, contents, List.flatMap_cons, List.append_assoc]

theorem pushAll_frames {head : ResponseStart} (fits : head.status < 65536)
    {chunks : List ResponseChunk} (ended : Ended chunks) (extra : List Message) :
    pushAll {} ((ResponseMessage.start head :: chunks.map .chunk).map ResponseMessage.toMessage ++
        extra) = .ok ⟨some head, contents chunks, true⟩ := by
  have started : push {} (ResponseMessage.start head).toMessage = .ok ⟨some head, [], false⟩ :=
    push_toMessage rfl fits
  rw [List.map_cons, List.map_map, List.cons_append, pushAll, started]
  exact pushAll_chunks head ended [] extra

end Collector

namespace Response

theorem statusOf_code (status : Status) : Collector.statusOf status.code = .ok status := by
  rw [Collector.statusOf, Status.ofCode?, dif_pos status.valid]

theorem code_lt (status : Status) : status.code < 65536 := by
  have upper := status.valid.2
  omega

/-- A start and chunks that end are a response, whatever follows them. -/
theorem decode_frames (status : Status) (headers : List (String × String))
    {chunks : List ResponseChunk} (ended : Ended chunks) (extra : List Message) :
    decode ((ResponseMessage.start ⟨status.code, headers⟩ :: chunks.map .chunk).map
        ResponseMessage.toMessage ++ extra) =
      .ok (.ofHeaders status headers (.full (contents chunks))) := by
  rw [decode, Collector.pushAll_frames (code_lt status) ended]
  simp only [Collector.finish, statusOf_code]

/-- What a client reads of a response that it receives as a whole: headers that set cookies count
among the cookies, in front of its own. -/
def received (response : Response) (body : List UInt8) : Response where
  status := response.status
  headers := response.headers.filter fun header => !sameName header.1 setCookie
  cookies :=
    (response.headers.filter fun header => sameName header.1 setCookie).map Prod.snd ++
      response.cookies
  body := .full body

theorem ofHeaders_allHeaders (response : Response) (body : List UInt8) :
    ofHeaders response.status response.allHeaders (.full body) = response.received body := by
  have isCookie : sameName setCookie setCookie = true := beq_self_eq_true _
  have noneLeft : response.cookies.filter (fun _ => false) = [] :=
    List.filter_eq_nil_iff.mpr (by simp)
  have allKept : response.cookies.filter (fun _ => true) = response.cookies :=
    List.filter_eq_self.mpr (by simp)
  simp only [ofHeaders, received, allHeaders, List.filter_append, List.filter_map, List.map_append,
    List.map_map, Function.comp_def, isCookie, Bool.not_true, noneLeft, allKept, List.map_nil,
    List.append_nil, List.map_id']

/-- The messages of a response that is cut behind some chunks and closed, or sent as a whole. -/
theorem decode_start_chunks (response : Response) {chunks : List ResponseChunk}
    (ended : Ended chunks) (extra : List Message) :
    decode ((ResponseMessage.start response.start :: chunks.map .chunk).map
        ResponseMessage.toMessage ++ extra) = .ok (response.received (contents chunks)) := by
  rw [← ofHeaders_allHeaders]
  exact decode_frames response.status response.allHeaders ended extra

theorem fits_of_mem_frames {response : Response} {chunkSize : Nat} {message : ResponseMessage}
    (mem : message ∈ response.frames chunkSize) : message.Fits := by
  rw [frames, List.mem_cons] at mem
  rcases mem with rfl | mem
  · exact code_lt response.status
  · rcases List.mem_map.mp mem with ⟨chunk, _, rfl⟩
    trivial

end Response

/-- Messages that pass through their texts one by one, where each is read back, stay the same. -/
theorem mapM_ofText_text {messages : List Message}
    (back : ∀ message ∈ messages, Message.ofText message.text = .ok message) :
    (messages.mapM fun message => Message.ofText message.text) = .ok messages := by
  induction messages with
  | nil => rfl
  | cons message rest ih =>
      have tail := ih fun other mem => back other (List.mem_cons_of_mem message mem)
      rw [List.mapM_cons, back message List.mem_cons_self, tail]
      rfl

namespace Response

/-- The messages of a response are read back as the response, directly and after each of them has
passed through its text, and messages behind them change nothing. -/
theorem decode_encode_append (response : Response) (chunkSize : Nat) (extra : List Message) :
    ((response.encode chunkSize).mapM fun message => Message.ofText message.text) =
        .ok (response.encode chunkSize) ∧
      decode (response.encode chunkSize ++ extra) =
        .ok
          { status := response.status
            headers := response.headers.filter fun header => !sameName header.1 setCookie
            cookies :=
              (response.headers.filter fun header => sameName header.1 setCookie).map Prod.snd ++
                response.cookies
            body := .full response.body.bytes } := by
  constructor
  · apply mapM_ofText_text
    intro message mem
    rcases List.mem_map.mp mem with ⟨carried, carriedMem, rfl⟩
    exact ResponseMessage.ofText_text (fits_of_mem_frames carriedMem)
  · have whole := decode_start_chunks response (response.body.ended_chunks chunkSize) extra
    rw [Body.contents_chunks] at whole
    exact whole

end Response

end Courier.Http
