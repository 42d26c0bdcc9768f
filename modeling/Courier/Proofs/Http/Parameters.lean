import Courier.Proofs.Http.Rebuilding
import Courier.Proofs.Text.Form

/-!
# Parameters of queries and forms

Pairs of names and values that a client writes into a query, or into the body of a form, are found
again in the payload of its request: under each name all of its values, in their order, and nothing
else. A body is a form by the first value of its content type. Other bodies have no parameters.
-/

namespace Courier.Http

/-- Parameters that hold just some pairs: under each name all of its values, in their order. -/
def Gathers (pairs : List (String × String)) (params : Params) : Prop :=
  (∀ name, name ∈ params.keys ↔ ∃ value, (name, value) ∈ pairs) ∧
    ∀ name ∈ params.keys, params.find? name = some (Dict.valuesOf name pairs)

namespace Request

/-! ## Forms -/

/-- The content type is that of forms: a text that begins with its name, maybe behind blanks. -/
def HasFormType (headers : HeaderMap) : Prop :=
  ∃ (text : String) (blanks rest : List Char),
    (headers.first? "content-type").bind readable? = some text ∧
      text.toList = blanks ++ formContentType.toList ++ rest ∧ ∀ c ∈ blanks, c = ' ' ∨ c = '\t'

theorem isBlank_iff {c : Char} : isBlank c = true ↔ c = ' ' ∨ c = '\t' := by
  rw [isBlank, Bool.or_eq_true, decide_eq_true_eq, decide_eq_true_eq]

theorem isForm_iff (headers : HeaderMap) : isForm headers = true ↔ HasFormType headers := by
  rw [isForm]
  constructor
  · intro form
    split at form
    case h_1 => cases form
    case h_2 text found =>
        rw [List.isPrefixOf_iff_prefix] at form
        rcases form with ⟨rest, split⟩
        refine ⟨text, text.toList.takeWhile isBlank, rest, found, ?_, ?_⟩
        · rw [List.append_assoc, split, List.takeWhile_append_dropWhile]
        · intro c mem
          exact isBlank_iff.mp (List.all_eq_true.mp List.all_takeWhile c mem)
  · rintro ⟨text, blanks, rest, found, split, areBlank⟩
    have passed : ∀ c ∈ blanks, isBlank c = true := fun c mem => isBlank_iff.mpr (areBlank c mem)
    have stops : (formContentType.toList ++ rest).dropWhile isBlank =
        formContentType.toList ++ rest := by
      have begins : ∃ tail, formContentType.toList = 'a' :: tail := ⟨_, rfl⟩
      rcases begins with ⟨tail, begins⟩
      rw [begins, List.cons_append, List.dropWhile_cons_of_neg (by decide)]
    rw [found]
    simp only [split, List.append_assoc, List.dropWhile_append_of_pos passed, stops]
    exact List.isPrefixOf_iff_prefix.mpr (List.prefix_append _ _)

/-! ## Parameters -/

theorem find?_params (pairs : List (String × String)) (name : String) :
    (params (Text.Form.encode pairs)).find? name =
      if Dict.valuesOf name pairs = [] then none else some (Dict.valuesOf name pairs) := by
  rw [params, Text.Form.decode_encode, Dict.find?_foldl_gather]
  rfl

theorem valuesOf_ne_nil_iff {pairs : List (String × String)} {name : String} :
    Dict.valuesOf name pairs ≠ [] ↔ ∃ value, (name, value) ∈ pairs := by
  simp [Dict.valuesOf]

theorem gathers_params (pairs : List (String × String)) :
    Gathers pairs (params (Text.Form.encode pairs)) := by
  have keys : ∀ name, name ∈ (params (Text.Form.encode pairs)).keys ↔
      Dict.valuesOf name pairs ≠ [] := by
    intro name
    rw [Dict.mem_keys, find?_params]
    split
    case isTrue nothing => simp [nothing]
    case isFalse values => simp [values]
  constructor
  · intro name
    rw [keys, valuesOf_ne_nil_iff]
  · intro name mem
    rw [find?_params, if_neg ((keys name).mp mem)]

/-! ## Main result -/

/-- A payload is what consumers read of a request. -/
structure ReadAs (request : Request) (replyChannel root : String) (payload : RequestPayload) :
    Prop where
  encoded : request.encode replyChannel root = .ok payload
  decoded : RequestPayload.ofMessage payload.toMessage = .ok payload

/-- The one request that consumers do not get to see is a form whose body is no text. -/
structure Refused (request : Request) (replyChannel root : String) : Prop where
  isForm : HasFormType request.headers
  noText : Utf8.decode? request.body = none
  refused : request.encode replyChannel root = .error (.badRequest "Form body is not UTF-8")

theorem readAs_of_not_garbled {request : Request} (clear : ¬request.Garbled)
    (replyChannel root : String) :
    request.ReadAs replyChannel root (request.payload replyChannel root) :=
  ⟨encode_of_not_garbled clear, RequestPayload.ofMessage_toMessage _⟩

theorem readAs_or_refused (request : Request) (replyChannel root : String) :
    request.ReadAs replyChannel root (request.payload replyChannel root) ∨
      request.Refused replyChannel root := by
  by_cases garbled : request.Garbled
  · exact Or.inr ⟨(isForm_iff _).mp garbled.1, garbled.2, encode_of_garbled garbled⟩
  · exact Or.inl (readAs_of_not_garbled garbled replyChannel root)

/-- Pairs that are written into a query are gathered by name, and so are pairs that are written into
the body of a form. Where the content type is not that of forms there are no parameters of a form,
whatever the body. -/
theorem parameters_are_gathered (request : Request) (replyChannel root : String)
    (pairs : List (String × String)) :
    (request.uri.query.getD "" = Text.Form.encodeText pairs →
      (∃ payload, request.ReadAs replyChannel root payload ∧ Gathers pairs payload.get) ∨
        request.Refused replyChannel root) ∧
    (HasFormType request.headers → request.body = Text.Form.encode pairs →
      ∃ payload, request.ReadAs replyChannel root payload ∧ Gathers pairs payload.post) ∧
    (¬HasFormType request.headers →
      ∃ payload, request.ReadAs replyChannel root payload ∧ payload.post = .empty) := by
  refine ⟨?_, ?_, ?_⟩
  · intro query
    apply (readAs_or_refused request replyChannel root).imp_left
    intro read
    refine ⟨_, read, ?_⟩
    rw [payload, query, Text.Form.utf8_encodeText]
    exact gathers_params pairs
  · intro form body
    have readable : Utf8.decode? request.body = some (Text.Form.encodeText pairs) := by
      rw [body, ← Text.Form.utf8_encodeText, Utf8.decode?_encode]
    have clear : ¬request.Garbled := by
      rintro ⟨-, noText⟩
      rw [readable] at noText
      cases noText
    refine ⟨_, readAs_of_not_garbled clear replyChannel root, ?_⟩
    rw [payload, if_pos ((isForm_iff _).mpr form), body]
    exact gathers_params pairs
  · intro other
    have noForm : isForm request.headers = false := by
      rw [← Bool.not_eq_true, isForm_iff]
      exact other
    have clear : ¬request.Garbled := by
      rintro ⟨form, -⟩
      rw [noForm] at form
      cases form
    refine ⟨_, readAs_of_not_garbled clear replyChannel root, ?_⟩
    rw [payload, noForm]
    rfl

/-- Pairs with a name that stands twice, with marks of the encoding in values, and with nothing. -/
def oddPairs : List (String × String) := [("tag", "a b"), ("", "é=&"), ("tag", "")]

/-- A form with parameters in its target, too. -/
def oddForm : Request :=
  { method := "POST", uri := ⟨none, none, "/", some "tag=a+b&=%C3%A9%3D%26&tag="⟩,
    headers := .ofPairs [("content-type", 32 :: Utf8.encode (formContentType ++ "; charset=utf-8"))],
    body := Text.Form.encode oddPairs }

theorem parameters_are_gathered_odd :
    Uri.ofText "/?tag=a+b&=%C3%A9%3D%26&tag=" = .ok oddForm.uri ∧
      oddForm.uri.query.getD "" = Text.Form.encodeText oddPairs ∧
      HasFormType oddForm.headers ∧ oddForm.body = Text.Form.encode oddPairs ∧
      ∃ payload, oddForm.ReadAs "r" "" payload ∧
        Gathers oddPairs payload.get ∧ Gathers oddPairs payload.post ∧
        payload.get.find? "tag" = some ["a b", ""] ∧ payload.post.find? "" = some ["é=&"] := by
  have query : oddForm.uri.query.getD "" = Text.Form.encodeText oddPairs := by decide +kernel
  have form : HasFormType oddForm.headers := by
    rw [← isForm_iff]
    decide +kernel
  rcases parameters_are_gathered oddForm "r" "" oddPairs with ⟨ofQuery, ofForm, -⟩
  rcases ofForm form rfl with ⟨payload, read, posted⟩
  have asked : Gathers oddPairs payload.get := by
    rcases ofQuery query with ⟨other, sameRead, gathers⟩ | refused
    · have same := sameRead.encoded.symm.trans read.encoded
      cases same
      exact gathers
    · have never := refused.refused
      rw [read.encoded] at never
      cases never
  refine ⟨rfl, query, form, rfl, payload, read, asked, posted, ?_, ?_⟩
  · exact asked.2 "tag" ((asked.1 "tag").mpr ⟨"", by decide⟩)
  · exact posted.2 "" ((posted.1 "").mpr ⟨"é=&", by decide⟩)

end Request

end Courier.Http
