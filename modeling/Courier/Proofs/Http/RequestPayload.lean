import Courier.Http.RequestPayload
import Courier.Proofs.Data.Dict
import Courier.Proofs.Json.Plain
import Courier.Proofs.Payload.Reader

/-!
# Reading back request payloads

The maps of a request are written with their names in order, so they are read back entry by entry.
The body is not written if it is empty, and what is not written is read as an empty body.
-/

namespace Courier.Http.RequestPayload

/-! ## Maps -/

theorem dictReader_dictJson {α : Type} {reader : Reader α} {write : α → Json}
    (back : ∀ value, reader (write value) = .ok value) (dict : Dict α) :
    dictReader reader (dictJson write dict) = .ok dict := by
  simp only [dictReader, dictJson, Reader.named_map back]
  exact congrArg Except.ok dict.ofPairs_entries

theorem textReader_dictJson (dict : Dict String) :
    dictReader .text (dictJson .text dict) = .ok dict :=
  dictReader_dictJson Reader.text_text dict

theorem paramsReader_dictJson (params : Params) :
    paramsReader (dictJson texts params) = .ok params :=
  dictReader_dictJson (Reader.list_map Reader.text_text) params

theorem plain_texts (values : List String) : Json.Plain 1 (texts values) := by
  apply Json.plain_array
  intro item mem
  rcases List.mem_map.mp mem with ⟨value, _, rfl⟩
  exact Json.plain_text value

theorem plain_dictJson {α : Type} {write : α → Json} {bound : Nat}
    (plain : ∀ value, Json.Plain bound (write value)) (dict : Dict α) :
    Json.Plain (bound + 1) (dictJson write dict) := by
  apply Json.plain_object
  · have distinct := dict.distinct
    simpa [Assoc.Distinct, Assoc.keys, Function.comp_def] using distinct
  · intro field mem
    rcases List.mem_map.mp mem with ⟨entry, _, rfl⟩
    exact plain entry.2

/-! ## Payloads -/

/-- All fields that a payload can have, the body among them. -/
def allFields (payload : RequestPayload) : List (String × Json) :=
  [("get", dictJson texts payload.get), ("post", dictJson texts payload.post),
    ("cookies", dictJson .text payload.cookies), ("meta", dictJson .text payload.environ),
    ("path", .text payload.path), ("path_info", .text payload.pathInfo),
    ("method", .text payload.method), ("reply_channel", .text payload.replyChannel),
    ("body", .text (Base64.encode payload.body))]

theorem fields_sublist (payload : RequestPayload) : payload.fields.Sublist payload.allFields := by
  rcases payload with ⟨get, post, cookies, environ, path, pathInfo, method, replyChannel, body⟩
  cases body with
  | nil => exact List.sublist_append_left _ [("body", Json.text (Base64.encode []))]
  | cons byte rest => exact List.Sublist.refl _

theorem distinct_fields (payload : RequestPayload) : Assoc.Distinct payload.fields := by
  have names : (["get", "post", "cookies", "meta", "path", "path_info", "method",
      "reply_channel", "body"] : List String).Nodup := by decide
  exact List.Nodup.sublist (payload.fields_sublist.map Prod.fst) names

theorem check_fields (payload : RequestPayload) : Payload.check declared payload.fields = .ok () := by
  apply Payload.check_eq_ok
  intro field mem
  have inAll := payload.fields_sublist.subset mem
  simp only [allFields, List.mem_cons, List.not_mem_nil, or_false] at inAll
  rcases inAll with rfl | rfl | rfl | rfl | rfl | rfl | rfl | rfl | rfl
  · exact Payload.fits_declare rfl (paramsReader_dictJson payload.get)
  · exact Payload.fits_declare rfl (paramsReader_dictJson payload.post)
  · exact Payload.fits_declare rfl (textReader_dictJson payload.cookies)
  · exact Payload.fits_declare rfl (textReader_dictJson payload.environ)
  · exact Payload.fits_declare rfl (Reader.text_text payload.path)
  · exact Payload.fits_declare rfl (Reader.text_text payload.pathInfo)
  · exact Payload.fits_declare rfl (Reader.text_text payload.method)
  · exact Payload.fits_declare rfl (Reader.text_text payload.replyChannel)
  · exact Payload.fits_declare rfl (Reader.bytes_encode payload.body)

theorem defaulted_body (payload : RequestPayload) :
    Payload.defaulted payload.fields "body" .bytes [] = .ok payload.body := by
  rcases payload with ⟨get, post, cookies, environ, path, pathInfo, method, replyChannel, body⟩
  cases body with
  | nil => rfl
  | cons byte rest =>
      rw [Payload.defaulted_of_find? rfl]
      exact Reader.bytes_encode (byte :: rest)

theorem ofMessage_toMessage (payload : RequestPayload) :
    ofMessage payload.toMessage = .ok payload := by
  have get : Assoc.find? payload.fields "get" = some (dictJson texts payload.get) := rfl
  have post : Assoc.find? payload.fields "post" = some (dictJson texts payload.post) := rfl
  have cookies : Assoc.find? payload.fields "cookies" =
      some (dictJson .text payload.cookies) := rfl
  have environ : Assoc.find? payload.fields "meta" = some (dictJson .text payload.environ) := rfl
  have path : Assoc.find? payload.fields "path" = some (.text payload.path) := rfl
  have pathInfo : Assoc.find? payload.fields "path_info" = some (.text payload.pathInfo) := rfl
  have method : Assoc.find? payload.fields "method" = some (.text payload.method) := rfl
  have replyChannel : Assoc.find? payload.fields "reply_channel" =
      some (.text payload.replyChannel) := rfl
  simp only [ofMessage, toMessage, ofFields, check_fields, Payload.defaulted_of_find? get,
    Payload.defaulted_of_find? post, Payload.defaulted_of_find? cookies,
    Payload.defaulted_of_find? environ, Payload.required_of_find? path,
    Payload.required_of_find? pathInfo, Payload.required_of_find? method,
    Payload.required_of_find? replyChannel, defaulted_body, paramsReader_dictJson,
    textReader_dictJson, Reader.text_text]
  rfl

theorem plain_toJson (payload : RequestPayload) : Json.Plain 3 payload.toMessage.toJson := by
  apply Json.plain_object payload.distinct_fields
  intro field mem
  have inAll := payload.fields_sublist.subset mem
  simp only [allFields, List.mem_cons, List.not_mem_nil, or_false] at inAll
  rcases inAll with rfl | rfl | rfl | rfl | rfl | rfl | rfl | rfl | rfl
  · exact plain_dictJson plain_texts payload.get
  · exact plain_dictJson plain_texts payload.post
  · exact plain_dictJson Json.plain_text payload.cookies
  · exact plain_dictJson Json.plain_text payload.environ
  all_goals exact Json.plain_text _

theorem has_body (payload : RequestPayload) :
    payload.toMessage.has "body" = !payload.body.isEmpty := by
  rcases payload with ⟨get, post, cookies, environ, path, pathInfo, method, replyChannel, body⟩
  cases body <;> rfl

end Courier.Http.RequestPayload
