import Courier.Proofs.Http.Transfer

/-!
# What a completely read response is

Once the sender has sent everything and the reader has a complete response, every message of the
response has left the channel: the last chunk was read, and it stood behind all others. What was
read are the messages of the response in their order, without those that had expired before the
reader came to them. The start and the last chunk are always among them.

So the body is whole if nothing expired, and this is sure as long as less time has passed than a
message lives. It need not be whole otherwise: a chunk in the middle may expire while a full channel
keeps the sender from going on, and the response is complete without it.
-/

namespace Courier.Http

/-- What became of the messages of a response, all of which have left their channel. -/
structure Settled (response : Response) (chunkSize : Nat) (now : Instant) (received : List Message)
    (ledger : Ledger) : Prop where
  complete : ledger.entries.map Queued.message = response.encode chunkSize
  received : received = ledger.delivered
  fates : ∀ entry ∈ ledger,
    entry.2 = .delivered ∨ entry.2 = .expired ∧ entry.1.expiresAt ≤ now

/-- The messages that were read are the start and some of the chunks of a response. -/
structure ReadParts (response : Response) (chunkSize : Nat) (received : List Message)
    (chunks : List ResponseChunk) : Prop where
  sublist : chunks.Sublist (response.body.chunks chunkSize)
  received : received =
    (ResponseMessage.start response.start :: chunks.map .chunk).map ResponseMessage.toMessage

theorem map_toMessage_take_frames (response : Response) (chunkSize count : Nat) :
    (response.encode chunkSize).take (count + 1) =
      (ResponseMessage.start response.start ::
        ((response.body.chunks chunkSize).take count).map .chunk).map
          ResponseMessage.toMessage := by
  rw [Response.encode, Response.frames, ← List.map_take, List.take_succ_cons, List.map_take]

/-- A complete response that was collected from some of the first messages of a response was
collected from its start and some of its chunks, and all of its messages were among the first. -/
theorem readParts_of_pushEach {response : Response} {chunkSize count : Nat}
    {received : List Message} (sublist : received.Sublist ((response.encode chunkSize).take count))
    {collector : Collector} (pushed : Collector.pushEach {} received = .ok collector)
    (complete : collector.complete = true) :
    (response.encode chunkSize).length ≤ count ∧
      ∃ chunks, ReadParts response chunkSize received chunks ∧
        collector.body = contents chunks := by
  cases count with
  | zero =>
      rw [List.take_zero, List.sublist_nil] at sublist
      subst sublist
      cases pushed
      cases complete
  | succ count =>
      rw [map_toMessage_take_frames] at sublist
      rcases List.sublist_map_iff.mp sublist with ⟨frames, frameSublist, rfl⟩
      have fits : ∀ frame ∈ frames, frame.Fits := by
        intro frame mem
        rcases List.mem_cons.mp (frameSublist.subset mem) with rfl | chunkMem
        · exact Response.code_lt response.status
        · rcases List.mem_map.mp chunkMem with ⟨chunk, -, rfl⟩
          exact ResponseMessage.fits_chunk chunk
      rcases Collector.frames_of_pushEach fits pushed complete with ⟨head, chunks, rfl, ended, rfl⟩
      rcases start_chunks_of_sublist frameSublist with ⟨rfl, chunkSublist⟩
      have all := (response.body.ended_chunks chunkSize).length_le_of_sublist_take ended
        chunkSublist
      refine ⟨?_, chunks, ⟨chunkSublist.trans (List.take_sublist _ _), rfl⟩, rfl⟩
      rw [Response.encode, Response.frames, List.length_map, List.length_cons, List.length_map]
      exact Nat.succ_le_succ all

/-- Where the sender has sent everything and the reader has a complete response, everything is
settled. -/
theorem Transfer.Sound.settled {settings : HttpSettings} {channel : String} {response : Response}
    {begun : Instant} {expiry : Duration} {transfer : Transfer} {ledger : Ledger}
    (sound : Transfer.Sound channel (sendResponse settings channel response) begun expiry transfer
      ledger)
    (sent : transfer.sender = .ready (.done (.ok ()))) {collector : Collector}
    (collected : transfer.collector = .ok collector) (complete : collector.complete = true) :
    Settled response settings.chunkSize transfer.now transfer.received ledger ∧
      ∃ chunks, ReadParts response settings.chunkSize transfer.received chunks ∧
        collector.body = contents chunks := by
  have run := sound.run
  rw [sent] at run
  have accepted := (sendOutcome_of_run run).1
  rw [sound.books.accepted, List.map_append] at accepted
  have first : ledger.entries.map Queued.message =
      (response.encode settings.chunkSize).take ledger.length := by
    rw [← accepted, List.take_left' (by simp [Ledger.entries])]
  have sublist := ledger.delivered_sublist
  rw [first, ← sound.books.received] at sublist
  have pushed := sound.collected
  rw [collected] at pushed
  rcases readParts_of_pushEach sublist pushed.symm complete with ⟨all, parts⟩
  refine ⟨⟨?_, sound.books.received, sound.books.fates⟩, parts⟩
  rw [first, List.take_of_length_le all]

end Courier.Http
