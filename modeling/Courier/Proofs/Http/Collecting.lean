import Courier.Proofs.Http.Framing

/-!
# Collecting message by message

A reader pushes messages one by one, as they come. Where no push fails, the messages were a start
and chunks, and what has been collected is their contents. Once the response is complete, the chunks
end: no chunk in the middle announced the end, and nothing came behind it.

This says nothing about chunks that never came. The messages that a complete response was read from
may be any of those that were sent, as long as the start and the last one are among them.
-/

namespace Courier.Http

namespace Collector

/-- Pushes messages one by one, each of which must be accepted. -/
def pushEach (collector : Collector) (messages : List Message) : Except Error Collector :=
  messages.foldlM push collector

theorem pushEach_cons {collector after : Collector} {message : Message} {rest : List Message}
    (pushed : collector.pushEach (message :: rest) = .ok after) :
    ∃ next, collector.push message = .ok next ∧ next.pushEach rest = .ok after := by
  rw [pushEach, List.foldlM_cons] at pushed
  cases first : collector.push message with
  | error error =>
      rw [first] at pushed
      cases pushed
  | ok next =>
      rw [first] at pushed
      exact ⟨next, rfl, pushed⟩

theorem pushEach_snoc (collector : Collector) (messages : List Message) (message : Message) :
    collector.pushEach (messages ++ [message]) =
      (collector.pushEach messages).bind fun next => next.push message := by
  rw [pushEach, List.foldlM_append, pushEach]
  cases messages.foldlM push collector with
  | error error => rfl
  | ok next =>
      change (next.push message >>= pure) = next.push message
      exact bind_pure _

theorem nil_of_pushEach {collector after : Collector} {messages : List Message}
    (complete : collector.complete = true) (pushed : collector.pushEach messages = .ok after) :
    messages = [] := by
  cases messages with
  | nil => rfl
  | cons message rest =>
      rcases pushEach_cons pushed with ⟨next, first, -⟩
      rw [push, complete] at first
      cases first

theorem chunks_of_pushEach {head : ResponseStart} {body : List UInt8} {done : Bool}
    {frames : List ResponseMessage} (fits : ∀ frame ∈ frames, frame.Fits) {after : Collector}
    (pushed : pushEach ⟨some head, body, done⟩ (frames.map ResponseMessage.toMessage) = .ok after) :
    ∃ chunks : List ResponseChunk, frames = chunks.map .chunk ∧ after.start = some head ∧
      after.body = body ++ contents chunks ∧
      (after.complete = true → (done = true ∧ chunks = []) ∨ Ended chunks) := by
  induction frames generalizing body done with
  | nil =>
      cases pushed
      refine ⟨[], rfl, rfl, (List.append_nil body).symm, ?_⟩
      intro complete
      exact Or.inl ⟨complete, rfl⟩
  | cons frame rest ih =>
      have restFits : ∀ other ∈ rest, other.Fits :=
        fun other mem => fits other (List.mem_cons_of_mem frame mem)
      rcases pushEach_cons pushed with ⟨next, first, others⟩
      have open_ : done = false := by
        cases done with
        | false => rfl
        | true => cases first
      subst open_
      rw [push_toMessage rfl (fits frame List.mem_cons_self)] at first
      cases frame with
      | start other => cases first
      | chunk part =>
          rcases part with ⟨content, moreContent⟩
          cases first
          rcases ih restFits others with ⟨chunks, rfl, start, collected, ends⟩
          refine ⟨⟨content, moreContent⟩ :: chunks, rfl, start, ?_, ?_⟩
          · rw [collected, List.append_assoc]
            rfl
          · intro complete
            right
            rcases ends complete with ⟨last, rfl⟩ | ended
            · have final : moreContent = false := by simpa using last
              rw [final]
              exact Ended.last content
            · cases moreContent with
              | true => exact Ended.more content ended
              | false =>
                  have nothing := nil_of_pushEach rfl others
                  rw [List.map_eq_nil_iff, List.map_eq_nil_iff] at nothing
                  exact absurd nothing ended.ne_nil

/-- A complete response was collected from a start and chunks that end. -/
theorem frames_of_pushEach {frames : List ResponseMessage} (fits : ∀ frame ∈ frames, frame.Fits)
    {after : Collector} (pushed : pushEach {} (frames.map ResponseMessage.toMessage) = .ok after)
    (complete : after.complete = true) :
    ∃ (head : ResponseStart) (chunks : List ResponseChunk),
      frames = .start head :: chunks.map .chunk ∧ Ended chunks ∧
        after = ⟨some head, contents chunks, true⟩ := by
  cases frames with
  | nil =>
      cases pushed
      cases complete
  | cons frame rest =>
      rcases pushEach_cons pushed with ⟨next, first, others⟩
      rw [push_toMessage rfl (fits frame List.mem_cons_self)] at first
      cases frame with
      | chunk part => cases first
      | start head =>
          cases first
          rcases chunks_of_pushEach (fun other mem => fits other (List.mem_cons_of_mem _ mem))
            others with ⟨chunks, rfl, start, body, ends⟩
          rcases ends complete with ⟨done, -⟩ | ended
          · cases done
          · refine ⟨head, chunks, rfl, ended, ?_⟩
            rcases after with ⟨afterStart, afterBody, afterComplete⟩
            simp only [List.nil_append] at start body complete
            rw [start, body, complete]

end Collector

/-! ## Responses with gaps -/

/-- The chunks among messages. -/
def chunksOf (frames : List ResponseMessage) : List ResponseChunk :=
  frames.filterMap fun
    | .start _ => none
    | .chunk part => some part

theorem chunksOf_start_chunks (head : ResponseStart) (chunks : List ResponseChunk) :
    chunksOf (.start head :: chunks.map .chunk) = chunks := by
  rw [chunksOf, List.filterMap_cons, List.filterMap_map]
  exact List.filterMap_some

/-- Messages of a response from which a complete response was collected are its start and some of
its chunks, the last one among them. -/
theorem start_chunks_of_sublist {first head : ResponseStart} {chunks read : List ResponseChunk}
    (sublist : (ResponseMessage.start head :: read.map .chunk).Sublist
      (ResponseMessage.start first :: chunks.map .chunk)) :
    head = first ∧ read.Sublist chunks := by
  constructor
  · have mem := sublist.subset List.mem_cons_self
    simpa using mem
  · have found := sublist.filterMap fun
      | .start _ => none
      | .chunk part => some part
    change (chunksOf _).Sublist (chunksOf _) at found
    rw [chunksOf_start_chunks, chunksOf_start_chunks] at found
    exact found

/-- Chunks that end are not found among those in front of the last one. -/
theorem Ended.length_le_of_sublist_take {chunks read : List ResponseChunk} (ended : Ended chunks)
    (readEnded : Ended read) {count : Nat} (sublist : read.Sublist (chunks.take count)) :
    chunks.length ≤ count := by
  apply Nat.le_of_not_lt
  intro short
  have more := ended.moreContent_of_take short
  induction readEnded with
  | last content =>
      have announced := more _ (sublist.subset (List.mem_singleton_self _))
      cases announced
  | more content ended ih => exact ih (List.sublist_of_cons_sublist sublist)

end Courier.Http
