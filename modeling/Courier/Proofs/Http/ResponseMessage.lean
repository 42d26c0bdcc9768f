import Courier.Http.ResponseMessage
import Courier.Proofs.Json.Plain
import Courier.Proofs.Payload.Reader

/-!
# Reading back response messages

A start whose status fits into sixteen bits and every chunk are read back from their messages, and
these messages are read back from their texts. A message is flat enough for that: its deepest value
is the text in a pair in the list of headers.
-/

namespace Courier.Http

namespace ResponseStart

/-- The value of a list of headers. -/
def headersJson (headers : List (String × String)) : Json :=
  .array (headers.map fun header => .array [.text header.1, .text header.2])

theorem headersReader_headersJson (excess : String) (headers : List (String × String)) :
    headersReader excess (headersJson headers) = .ok headers :=
  Reader.list_map (Reader.pair_text excess) headers

theorem plain_headersJson (headers : List (String × String)) :
    Json.Plain 2 (headersJson headers) := by
  apply Json.plain_array
  intro item mem
  rcases List.mem_map.mp mem with ⟨header, _, rfl⟩
  apply Json.plain_array
  intro text isText
  simp only [List.mem_cons, List.not_mem_nil, or_false] at isText
  rcases isText with rfl | rfl
  · exact Json.plain_text header.1
  · exact Json.plain_text header.2

theorem ofFields_fields (excess : String) (start : ResponseStart) (fits : start.status < 65536) :
    ofFields excess start.fields = .ok start := by
  have status : statusReader (.natural start.status) = .ok start.status :=
    Reader.below_natural "u16" fits
  have headers := headersReader_headersJson excess start.headers
  have held : Assoc.find? start.fields "headers" = some (headersJson start.headers) := rfl
  have checked : Payload.check [Payload.declare "status" statusReader,
      Payload.declare "headers" (headersReader excess)] start.fields = .ok () := by
    apply Payload.check_eq_ok
    intro field mem
    simp only [fields, List.mem_cons, List.not_mem_nil, or_false] at mem
    rcases mem with rfl | rfl
    · exact Payload.fits_declare rfl status
    · exact Payload.fits_declare rfl headers
  rw [ofFields, checked, Payload.required_of_find? rfl, status, Payload.defaulted_of_find? held,
    headers]
  rfl

end ResponseStart

namespace ResponseChunk

theorem ofFields_fields (chunk : ResponseChunk) : ofFields chunk.fields = .ok chunk := by
  have content := Reader.bytes_encode chunk.content
  have moreContent := Reader.bool_bool chunk.moreContent
  have checked : Payload.check [Payload.declare "content" .bytes,
      Payload.declare "more_content" .bool] chunk.fields = .ok () := by
    apply Payload.check_eq_ok
    intro field mem
    simp only [fields, List.mem_cons, List.not_mem_nil, or_false] at mem
    rcases mem with rfl | rfl
    · exact Payload.fits_declare rfl content
    · exact Payload.fits_declare rfl moreContent
  rw [ofFields, checked, Payload.defaulted_of_find? rfl, content, Payload.defaulted_of_find? rfl,
    moreContent]
  rfl

end ResponseChunk

namespace ResponseMessage

/-- The status of a message, if it is a start, fits into sixteen bits. -/
def Fits : ResponseMessage → Prop
  | .start head => head.status < 65536
  | .chunk _ => True

theorem fits_chunk (part : ResponseChunk) : (chunk part).Fits := trivial

theorem ofMessage_toMessage {message : ResponseMessage} (fits : message.Fits) :
    ofMessage message.toMessage = .ok message := by
  cases message with
  | start head =>
      have read := ResponseStart.ofFields_fields ResponseStart.taggedExcess head fits
      change (ResponseStart.ofFields ResponseStart.taggedExcess head.fields).map start = _
      rw [read]
      rfl
  | chunk part =>
      have read := ResponseChunk.ofFields_fields part
      change (ResponseChunk.ofFields part.fields).map chunk = _
      rw [read]
      rfl

/-! ## Texts -/

theorem plain_toJson {message : ResponseMessage} (fits : message.Fits) :
    Json.Plain 3 message.toMessage.toJson := by
  cases message with
  | start head =>
      have distinct : [tag, "status", "headers"].Nodup := by decide
      apply Json.plain_object (show Assoc.Distinct (start head).fields from distinct)
      intro field mem
      simp only [fields, ResponseStart.fields, List.mem_cons, List.not_mem_nil, or_false] at mem
      rcases mem with rfl | rfl | rfl
      · exact Json.plain_text startTag
      · exact Json.plain_natural fits
      · exact ResponseStart.plain_headersJson head.headers
  | chunk part =>
      have distinct : [tag, "content", "more_content"].Nodup := by decide
      apply Json.plain_object (show Assoc.Distinct (chunk part).fields from distinct)
      intro field mem
      simp only [fields, ResponseChunk.fields, List.mem_cons, List.not_mem_nil, or_false] at mem
      rcases mem with rfl | rfl | rfl
      · exact Json.plain_text chunkTag
      · exact Json.plain_text (Base64.encode part.content)
      · exact Json.plain_bool part.moreContent

/-- The message of a start or a chunk that fits is read back from its text. -/
theorem ofText_text {message : ResponseMessage} (fits : message.Fits) :
    Message.ofText message.toMessage.text = .ok message.toMessage :=
  Message.ofText_text_of_plain ((plain_toJson fits).mono (by decide))

end ResponseMessage

end Courier.Http
