import Courier.Proofs.Http.Rebuilding

/-!
# Encoding a rebuilt request

A rebuilt request has a payload again, with the same path, query parameters, method and body. What
is read from a header is read from its joined values now. A form is still one if all values of its
content type can be read, and the cookies are those of the joined values, so the same ones as before
if there was one value only.
-/

namespace Courier.Http

/-! ## Joined values -/

theorem commaJoined_cons (first : List UInt8) (rest : List (List UInt8)) :
    ∃ tail, commaJoined (first :: rest) = some (first ++ tail) ∧
      (tail = [] ∨ ∃ more, tail = 0x2C :: more) := by
  cases rest with
  | nil => exact ⟨[], by simp [commaJoined], Or.inl rfl⟩
  | cons next rest =>
      refine ⟨0x2C :: List.intercalate [0x2C] (next :: rest), ?_, Or.inr ⟨_, rfl⟩⟩
      simp [commaJoined, List.intercalate_cons_cons]

theorem commaJoined_of_single {values : List (List UInt8)} (single : values.length ≤ 1) :
    (commaJoined values).toList = values := by
  cases values with
  | nil => rfl
  | cons first rest =>
      cases rest with
      | nil => simp [commaJoined]
      | cons next rest => simp at single

/-- A text does not begin differently for what follows a character that it does not have. -/
theorem isPrefixOf_append_cons {text : List Char} {mark : Char} (absent : mark ∉ text)
    (front more : List Char) :
    text.isPrefixOf (front ++ mark :: more) = text.isPrefixOf front := by
  induction text generalizing front with
  | nil => rfl
  | cons c rest ih =>
      have differ : c ≠ mark := by
        rintro rfl
        exact absent List.mem_cons_self
      have restAbsent : mark ∉ rest := fun mem => absent (List.mem_cons_of_mem c mem)
      cases front with
      | nil => simp [List.isPrefixOf, differ]
      | cons first front => simp [List.isPrefixOf, ih restAbsent]

namespace Request

/-! ## Forms -/

def isReadable (value : List UInt8) : Bool := value.all isReadableByte

/-- The characters of a value that can be read. -/
def chars (value : List UInt8) : List Char := value.map fun byte => Char.ofNat byte.toNat

/-- A value is that of the content type of forms. -/
def isFormValue (value : List UInt8) : Bool :=
  isReadable value && formContentType.toList.isPrefixOf ((chars value).dropWhile isBlank)

theorem isForm_eq (headers : HeaderMap) :
    isForm headers = ((headers.values "content-type").head?.map isFormValue).getD false := by
  rw [isForm, HeaderMap.first?]
  cases (headers.values "content-type").head? with
  | none => rfl
  | some value =>
      cases readable : value.all isReadableByte <;>
        simp [readable?, isFormValue, isReadable, chars, readable]

theorem isFormValue_append_comma {value more : List UInt8} (readable : isReadable value = true)
    (moreReadable : isReadable (0x2C :: more) = true) :
    isFormValue (value ++ 0x2C :: more) = isFormValue value := by
  have whole : isReadable (value ++ 0x2C :: more) = true := by
    rw [isReadable, List.all_append, Bool.and_eq_true]
    exact ⟨readable, moreReadable⟩
  have blanks : (chars (value ++ 0x2C :: more)).dropWhile isBlank =
      (chars value).dropWhile isBlank ++ ',' :: chars more := by
    have comma : Char.ofNat (0x2C : UInt8).toNat = ',' := by decide
    have notBlank : isBlank ',' = false := by decide
    rw [chars, List.map_append, List.map_cons, comma, List.dropWhile_append]
    split
    · rename_i empty
      rw [List.isEmpty_iff] at empty
      simp [chars, empty, notBlank]
    · rfl
  rw [isFormValue, isFormValue, whole, readable, blanks, isPrefixOf_append_cons (by decide)]

theorem isFormValue_commaJoined {first joined : List UInt8} {rest : List (List UInt8)}
    (isJoined : commaJoined (first :: rest) = some joined) :
    isFormValue joined = (isFormValue first && (first :: rest).all isReadable) := by
  have readable : isReadable joined = (first :: rest).all isReadable :=
    all_commaJoined (by decide) isJoined
  rw [← readable]
  cases whole : isReadable joined with
  | false => simp [isFormValue, whole]
  | true =>
      rw [Bool.and_true]
      rcases commaJoined_cons first rest with ⟨tail, isTail, empty | ⟨more, comma⟩⟩
      · rw [isTail, empty, List.append_nil] at isJoined
        cases isJoined
        rfl
      · rw [isTail, comma] at isJoined
        cases isJoined
        rw [isReadable, List.all_append, Bool.and_eq_true] at whole
        exact isFormValue_append_comma whole.1 whole.2

/-! ## Cookies -/

/-- The cookies in some values of the header of cookies. -/
def cookiesOf (values : List (List UInt8)) : Dict String :=
  Dict.ofPairs ((values.filterMap readable?).flatMap fun value =>
    (splitAt ';' value.toList).filterMap cookie?)

/-! ## Rebuilt requests -/

variable {request rebuilt : Request}

theorem Rebuilt.values_of_travelling (same : request.Rebuilt rebuilt) {name : String}
    (travels : name ∉ hopByHop) :
    rebuilt.headers.values name = (commaJoined (request.headers.values name)).toList := by
  rw [same.values, forwarded, if_neg travels]

theorem Rebuilt.isForm (same : request.Rebuilt rebuilt) :
    isForm rebuilt.headers =
      (isForm request.headers && (request.headers.values "content-type").all isReadable) := by
  rw [isForm_eq, isForm_eq, same.values_of_travelling (by decide)]
  cases request.headers.values "content-type" with
  | nil => rfl
  | cons first rest =>
      rcases commaJoined_cons first rest with ⟨tail, isJoined, -⟩
      have form := isFormValue_commaJoined isJoined
      rw [isJoined]
      simpa using form

theorem Rebuilt.cookies (same : request.Rebuilt rebuilt) :
    cookies rebuilt.headers =
      cookiesOf (commaJoined (request.headers.values "cookie")).toList := by
  rw [← same.values_of_travelling (by decide)]
  rfl

theorem Rebuilt.not_garbled (same : request.Rebuilt rebuilt) (clear : ¬request.Garbled) :
    ¬rebuilt.Garbled := by
  rintro ⟨form, noText⟩
  rw [same.isForm, Bool.and_eq_true] at form
  rw [same.body] at noText
  exact clear ⟨form.1, noText⟩

theorem Rebuilt.query (same : request.Rebuilt rebuilt) :
    rebuilt.uri.query.getD "" = request.uri.query.getD "" := by
  rw [same.uri]
  cases request.uri.query with
  | none => rfl
  | some query => by_cases empty : query = "" <;> simp [Option.filter, empty]

/-! ## Main result -/

/-- What consumers see of a payload after the request has been rebuilt from it and encoded again. -/
structure Reencoded (request : Request) (before after : RequestPayload) : Prop where
  get : after.get = before.get
  path : after.path = before.path
  pathInfo : after.pathInfo = before.pathInfo
  method : after.method = before.method
  body : after.body = before.body
  post : after.post =
    if (request.headers.values "content-type").all isReadable then before.post else .empty
  cookies : after.cookies = cookiesOf (commaJoined (request.headers.values "cookie")).toList
  sameCookies : (request.headers.values "cookie").length ≤ 1 → after.cookies = before.cookies

theorem Rebuilt.reencoded (same : request.Rebuilt rebuilt) (replyChannel root : String) :
    request.Reencoded (request.payload replyChannel root) (rebuilt.payload replyChannel root) where
  get := by simp only [payload, same.query]
  path := by simp only [payload, same.uri]
  pathInfo := by simp only [payload, same.uri]
  method := by simp only [payload, same.method, upper_upper]
  body := same.body
  post := by
    simp only [payload, same.isForm, same.body]
    cases (request.headers.values "content-type").all isReadable <;> simp
  cookies := same.cookies
  sameCookies := by
    intro single
    have cookies := same.cookies
    rw [commaJoined_of_single single] at cookies
    exact cookies

/-- A request that is rebuilt from its payload has a payload, too, and consumers see the same in it,
but for what the joined values of the content type and of the cookies no longer tell. -/
theorem rebuilt_requests_are_encoded (native : request.Native) (nonempty : request.uri.path ≠ "")
    (plain : ∀ pair ∈ request.headers.pairs, '_' ∉ pair.1.toList) {replyChannel root : String}
    {before : RequestPayload} (accepted : request.encode replyChannel root = .ok before) :
    ∃ rebuilt after, before.toRequest = .ok rebuilt ∧
      rebuilt.encode replyChannel root = .ok after ∧ request.Reencoded before after := by
  rcases encode_eq_ok_iff.mp accepted with ⟨rfl, clear⟩
  rcases native.rebuilt nonempty plain replyChannel root with ⟨rebuilt, built, same⟩
  exact ⟨rebuilt, _, built, encode_of_not_garbled (same.not_garbled clear),
    same.reencoded replyChannel root⟩

def formType : List UInt8 := Utf8.encode formContentType

/-- A form with two content types and one cookie. -/
def twoTypes : Request :=
  { method := "POST", uri := ⟨none, none, "/", some "q"⟩,
    headers := .ofPairs [("content-type", formType), ("cookie", [97, 61, 49]),
      ("content-type", [97])],
    body := [120, 61, 49] }

theorem native_twoTypes : twoTypes.Native :=
  native_ofPairs (by decide) (show Uri.ofText "/?q" = .ok twoTypes.uri from rfl) (by decide)

theorem rebuilt_requests_are_encoded_twoTypes :
    twoTypes.Native ∧ twoTypes.uri.path ≠ "" ∧
      (∀ pair ∈ twoTypes.headers.pairs, '_' ∉ pair.1.toList) ∧
      ∃ before rebuilt after, twoTypes.encode "r" "/" = .ok before ∧
        before.toRequest = .ok rebuilt ∧ rebuilt.encode "r" "/" = .ok after ∧
        after.post = before.post ∧ after.post.entries = [("x", ["1"])] ∧
        after.cookies = before.cookies ∧ after.cookies.entries = [("a", "1")] := by
  have nonempty : twoTypes.uri.path ≠ "" := by decide
  have plain : ∀ pair ∈ twoTypes.headers.pairs, '_' ∉ pair.1.toList := by decide
  have clear : ¬twoTypes.Garbled := by
    rintro ⟨-, noText⟩
    exact absurd noText (by decide)
  have accepted := @encode_of_not_garbled twoTypes "r" "/" clear
  rcases rebuilt_requests_are_encoded native_twoTypes nonempty plain accepted with
    ⟨rebuilt, after, built, again, seen⟩
  have post : after.post = (twoTypes.payload "r" "/").post := by
    rw [seen.post]
    apply if_pos
    decide
  have cookies := seen.sameCookies (by decide)
  refine ⟨native_twoTypes, nonempty, plain, _, rebuilt, after, accepted, built, again, post, ?_,
    cookies, ?_⟩
  · rw [post]
    decide +kernel
  · rw [cookies]
    decide +kernel

/-- A form with an opaque second content type and with two headers of cookies. -/
def twoCookies : Request :=
  { method := "POST", uri := ⟨none, none, "/", none⟩,
    headers := .ofPairs [("content-type", formType), ("content-type", [255]),
      ("cookie", [97, 61, 49]), ("cookie", [98, 61, 50])],
    body := [120, 61, 49] }

theorem native_twoCookies : twoCookies.Native :=
  native_ofPairs (by decide) (show Uri.ofText "/" = .ok twoCookies.uri from rfl) (by decide)

/-- The joined cookies are read as one, and the joined content type is not read at all. -/
theorem rebuilding_joins_cookies :
    twoCookies.Native ∧ twoCookies.uri = ⟨none, none, "/", none⟩ ∧
      (∀ pair ∈ twoCookies.headers.pairs, '_' ∉ pair.1.toList) ∧
      ∃ before rebuilt after, twoCookies.encode "r" "" = .ok before ∧
        before.toRequest = .ok rebuilt ∧ rebuilt.encode "r" "" = .ok after ∧
        before.cookies.entries = [("a", "1"), ("b", "2")] ∧
        after.cookies.entries = [("a", "1,b=2")] ∧
        before.post.entries = [("x", ["1"])] ∧ after.post.entries = [] := by
  have plain : ∀ pair ∈ twoCookies.headers.pairs, '_' ∉ pair.1.toList := by decide
  have clear : ¬twoCookies.Garbled := by
    rintro ⟨-, noText⟩
    exact absurd noText (by decide)
  rcases native_twoCookies.rebuilt (by decide) plain "r" "" with ⟨rebuilt, built, same⟩
  have seen := same.reencoded "r" ""
  refine ⟨native_twoCookies, rfl, plain, _, rebuilt, _, encode_of_not_garbled clear, built,
    encode_of_not_garbled (same.not_garbled clear), ?_, ?_, ?_, ?_⟩
  · decide +kernel
  · rw [seen.cookies]
    decide +kernel
  · decide +kernel
  · rw [seen.post]
    decide +kernel

end Request

end Courier.Http
