import Courier.Http.Request
import Courier.Proofs.Http.NativeHeaders

/-!
# Headers as variables

A header becomes a variable whose name is that of the header in upper case and with underscores for
hyphens. A header name without underscores is read back from the name of its variable, and so no two
such headers share a variable, and none has one of the variables that the server sets. The value of
the variable is then that of the headers of this name, joined by commas.
-/

namespace Courier.Http

/-! ## Characters -/

theorem toNat_upperChar {c : Char} (isLower : 'a' ≤ c ∧ c ≤ 'z') :
    (upperChar c).toNat = c.toNat - 32 := by
  have bounds : 97 ≤ c.toNat ∧ c.toNat ≤ 122 := isLower
  have valid : (c.toNat - 32).isValidChar := Or.inl (by omega)
  rw [upperChar, if_pos isLower, Char.ofNat, dif_pos valid]
  rfl

theorem isUpper_upperChar {c : Char} (isLower : 'a' ≤ c ∧ c ≤ 'z') :
    'A' ≤ upperChar c ∧ upperChar c ≤ 'Z' := by
  have moved := toNat_upperChar isLower
  have bounds : 97 ≤ c.toNat ∧ c.toNat ≤ 122 := isLower
  have high : 65 ≤ (upperChar c).toNat ∧ (upperChar c).toNat ≤ 90 := by omega
  exact high

theorem upperChar_upperChar (c : Char) : upperChar (upperChar c) = upperChar c := by
  by_cases isLower : 'a' ≤ c ∧ c ≤ 'z'
  · have isUpper := isUpper_upperChar isLower
    generalize upperChar c = raised at isUpper
    apply if_neg
    intro isLower
    have high : raised.toNat ≤ 90 := isUpper.2
    have low : 97 ≤ raised.toNat := isLower.1
    omega
  · have same : upperChar c = c := if_neg isLower
    rw [same, same]

theorem lowerChar_upperChar (c : Char) : lowerChar (upperChar c) = lowerChar c := by
  by_cases isLower : 'a' ≤ c ∧ c ≤ 'z'
  · have isUpper := isUpper_upperChar isLower
    have moved := toNat_upperChar isLower
    have back := toNat_lowerChar isUpper
    have bounds : 97 ≤ c.toNat ∧ c.toNat ≤ 122 := isLower
    have notUpper : ¬('A' ≤ c ∧ c ≤ 'Z') := by
      intro isUpper
      have high : c.toNat ≤ 90 := isUpper.2
      omega
    have same : lowerChar c = c := if_neg notUpper
    rw [same]
    apply Char.toNat_inj.mp
    omega
  · have same : upperChar c = c := if_neg isLower
    rw [same]

theorem isTokenChar_upperChar {c : Char} (isToken : isTokenChar c = true) :
    isTokenChar (upperChar c) = true := by
  by_cases isLower : 'a' ≤ c ∧ c ≤ 'z'
  · have isUpper := isUpper_upperChar isLower
    simp [isTokenChar, isUpper]
  · have same : upperChar c = c := if_neg isLower
    rw [same]
    exact isToken

theorem ne_kelvin_of_isTokenChar {c : Char} (isToken : isTokenChar c = true) : c ≠ '\u212a' := by
  rintro rfl
  exact absurd isToken (by decide)

theorem upper_upper (text : String) : upper (upper text) = upper text := by
  simp [upper, Function.comp_def, upperChar_upperChar]

theorem method?_upper {method : String} (isMethod : isToken method.toList = true) :
    method? (upper method) = some (upper method) := by
  have token : isToken (upper method).toList = true := by
    simp only [upper, String.toList_ofList, isToken, Bool.and_eq_true, List.all_eq_true]
      at isMethod ⊢
    refine ⟨by simpa using isMethod.1, ?_⟩
    intro raised mem
    rcases List.mem_map.mp mem with ⟨c, isChar, rfl⟩
    exact isTokenChar_upperChar (isMethod.2 c isChar)
  rw [method?, if_pos token]

/-! ## Names -/

theorem legal_of_headerName? {name : String} (isName : headerName? name = some name) :
    isToken name.toList = true ∧ lower name = name := by
  rw [headerName?] at isName
  split at isName
  · rename_i legal
    rw [Bool.and_eq_true] at legal
    exact ⟨legal.1, Option.some.inj isName⟩
  · cases isName

/-- A character of a header name, other than an underscore, is read back from that of a variable. -/
theorem headerChar_variableChar {c : Char} (isToken : isTokenChar c = true) (plain : c ≠ '_') :
    RequestPayload.headerChar (if c = '-' then '_' else upperChar c) = lowerChar c := by
  by_cases hyphen : c = '-'
  · subst hyphen
    decide
  · rw [if_neg hyphen, RequestPayload.headerChar, if_neg, if_neg, lowerChar_upperChar]
    · exact ne_kelvin_of_isTokenChar (isTokenChar_upperChar isToken)
    · by_cases isLower : 'a' ≤ c ∧ c ≤ 'z'
      · have isUpper := isUpper_upperChar isLower
        intro same
        rw [same] at isUpper
        exact absurd isUpper (by decide)
      · have same : upperChar c = c := if_neg isLower
        rw [same]
        exact plain

theorem headerOfVariable?_http (raised : List Char) :
    RequestPayload.headerOfVariable? ("HTTP_" ++ String.ofList raised) =
      headerName? (String.ofList (raised.map RequestPayload.headerChar)) := by
  have front : ("HTTP_" ++ String.ofList raised).toList =
      'H' :: 'T' :: 'T' :: 'P' :: '_' :: raised := by
    simp
  have differ : ∀ other : String, other.toList.head? = some 'C' →
      "HTTP_" ++ String.ofList raised ≠ other := by
    rintro other first rfl
    rw [front] at first
    cases first
  rw [RequestPayload.headerOfVariable?, if_neg (differ _ rfl), if_neg (differ _ rfl), front]
  rfl

/-- A name with hyphens for its underscores. -/
def hyphenated (name : String) : String :=
  String.ofList (name.toList.map fun c => if c = '_' then '-' else c)

theorem hyphenated_of_plain {name : String} (plain : '_' ∉ name.toList) :
    hyphenated name = name := by
  have each : ∀ c ∈ name.toList, (if c = '_' then '-' else c) = id c := by
    intro c mem
    apply if_neg
    rintro rfl
    exact plain mem
  rw [hyphenated, List.map_congr_left each, List.map_id, String.ofList_toList]

theorem lowerChar_of_lower {name : String} (lowered : lower name = name) {c : Char}
    (mem : c ∈ name.toList) : lowerChar c = c := by
  have same : name.toList.map lowerChar = name.toList.map id := by
    rw [List.map_id]
    have lists := congrArg String.toList lowered
    rwa [lower, String.toList_ofList] at lists
  exact List.map_inj_left.mp same c mem

theorem headerName?_hyphenated {name : String} (isName : headerName? name = some name) :
    headerName? (hyphenated name) = some (hyphenated name) := by
  rcases legal_of_headerName? isName with ⟨token, lowered⟩
  have short : name.toList.length ≤ headerNameLimit := by
    rw [headerName?] at isName
    split at isName
    · rename_i legal
      exact of_decide_eq_true (Bool.and_eq_true_iff.mp legal).2
    · cases isName
  have chars : (hyphenated name).toList = name.toList.map fun c => if c = '_' then '-' else c :=
    String.toList_ofList
  have isToken : isToken (hyphenated name).toList = true := by
    rw [isToken, Bool.and_eq_true, List.all_eq_true] at token ⊢
    refine ⟨by simpa [chars] using token.1, ?_⟩
    rw [chars]
    intro other mem
    rcases List.mem_map.mp mem with ⟨c, isChar, rfl⟩
    split
    · decide
    · exact token.2 c isChar
  have isLower : lower (hyphenated name) = hyphenated name := by
    rw [lower, chars, List.map_map, hyphenated]
    congr 1
    apply List.map_congr_left
    intro c mem
    rw [Function.comp_apply]
    split
    · decide
    · exact lowerChar_of_lower lowered mem
  rw [headerName?, isToken, chars, List.length_map, decide_eq_true short, isLower]
  rfl

/-- A header name is read back from that of its variable with hyphens for its underscores. -/
theorem headerOfVariable?_variableName_hyphenated {name : String}
    (isName : headerName? name = some name) :
    RequestPayload.headerOfVariable? (Request.variableName name) = some (hyphenated name) := by
  rcases legal_of_headerName? isName with ⟨token, lowered⟩
  by_cases length : name = "content-length"
  · subst length
    decide
  by_cases type : name = "content-type"
  · subst type
    decide
  rw [isToken, Bool.and_eq_true, List.all_eq_true] at token
  have chars : (name.toList.map fun c => if c = '-' then '_' else upperChar c).map
      RequestPayload.headerChar = name.toList.map fun c => if c = '_' then '-' else c := by
    rw [List.map_map]
    apply List.map_congr_left
    intro c mem
    by_cases underscore : c = '_'
    · subst underscore
      decide
    · have back := headerChar_variableChar (token.2 c mem) underscore
      rw [Function.comp_apply, back, if_neg underscore, lowerChar_of_lower lowered mem]
  rw [Request.variableName, if_neg length, if_neg type, headerOfVariable?_http, chars]
  exact headerName?_hyphenated isName

theorem headerOfVariable?_variableName {name : String} (isName : headerName? name = some name)
    (plain : '_' ∉ name.toList) :
    RequestPayload.headerOfVariable? (Request.variableName name) = some name := by
  rw [headerOfVariable?_variableName_hyphenated isName, hyphenated_of_plain plain]

/-! ## Values -/

/-- The values of a name joined by commas, if there are any. -/
def commaJoined (values : List (List UInt8)) : Option (List UInt8) :=
  if values = [] then none else some (List.intercalate [0x2C] values)

theorem latin1_append (front rest : List UInt8) :
    Latin1.decode (front ++ rest) = Latin1.decode front ++ Latin1.decode rest := by
  simp [Latin1.decode]

/-- The text of a variable once another text has joined it. -/
def joinText (found : Option String) (text : String) : Option String :=
  some ((found.map fun old => old ++ "," ++ text).getD text)

theorem foldl_joinText_some (first : List UInt8) (rest : List (List UInt8)) :
    (rest.map Latin1.decode).foldl joinText (some (Latin1.decode first)) =
      some (Latin1.decode (List.intercalate [0x2C] (first :: rest))) := by
  induction rest generalizing first with
  | nil => simp
  | cons next rest ih =>
      have comma : Latin1.decode [0x2C] = "," := by decide
      have step : joinText (some (Latin1.decode first)) (Latin1.decode next) =
          some (Latin1.decode (first ++ [0x2C] ++ next)) := by
        rw [latin1_append, latin1_append, comma]
        rfl
      rw [List.map_cons, List.foldl_cons, step, ih]
      cases rest with
      | nil => simp
      | cons other rest => simp [List.intercalate_cons_cons]

theorem foldl_joinText (values : List (List UInt8)) :
    (values.map Latin1.decode).foldl joinText none = (commaJoined values).map Latin1.decode := by
  cases values with
  | nil => rfl
  | cons first rest =>
      have joined := foldl_joinText_some first rest
      simpa [commaJoined, joinText] using joined

/-- A test that a comma passes is passed by joined values if each of them passes it. -/
theorem all_commaJoined {test : UInt8 → Bool} (comma : test 0x2C = true)
    {values : List (List UInt8)} {joined : List UInt8}
    (isJoined : commaJoined values = some joined) :
    joined.all test = values.all fun value => value.all test := by
  have all : ∀ values : List (List UInt8), (List.intercalate [0x2C] values).all test =
      values.all fun value => value.all test := by
    intro values
    induction values with
    | nil => rfl
    | cons first rest ih =>
        cases rest with
        | nil => simp
        | cons next rest =>
            rw [List.intercalate_cons_cons, List.all_append, List.all_append, ih]
            simp [comma]
  rw [commaJoined] at isJoined
  split at isJoined
  · cases isJoined
  · cases isJoined
    exact all values

theorem headerValue?_commaJoined {values : List (List UInt8)} {joined : List UInt8}
    (isJoined : commaJoined values = some joined)
    (isValues : ∀ value ∈ values, headerValue? value = some value) :
    headerValue? joined = some joined := by
  rw [headerValue?, if_pos]
  rw [all_commaJoined (by decide) isJoined, List.all_eq_true]
  intro value mem
  have isValue := isValues value mem
  rw [headerValue?] at isValue
  split at isValue
  · assumption
  · cases isValue

/-! ## The variables of the server -/

namespace Request

variable {request : Request} {replyChannel root pathInfo method key name : String}

/-- The variables that the server sets for every request. -/
def ownVariables : List String :=
  ["REQUEST_METHOD", "QUERY_STRING", "SCRIPT_NAME", "PATH_INFO", "SERVER_NAME", "SERVER_PORT"]

/-- The variables that the server sets where it knows the client's address. -/
def remoteVariables : List String := ["REMOTE_ADDR", "REMOTE_HOST", "REMOTE_PORT"]

theorem mem_keys_serverVariables :
    key ∈ (serverVariables request root pathInfo method).keys ↔
      key ∈ ownVariables ∨ request.remote.isSome = true ∧ key ∈ remoteVariables := by
  rw [serverVariables, Dict.mem_keys_ofPairs]
  cases request.remote with
  | none => simp [ownVariables]
  | some address => simp [ownVariables, remoteVariables, or_assoc]

theorem headerOfVariable?_of_server {text : String}
    (found : (serverVariables request root pathInfo method).find? key = some text) :
    RequestPayload.headerOfVariable? key = none := by
  have unread : ∀ server ∈ ownVariables ++ remoteVariables,
      RequestPayload.headerOfVariable? server = none := by decide
  apply unread key
  rw [List.mem_append]
  exact (mem_keys_serverVariables.mp (Dict.mem_keys.mpr ⟨text, found⟩)).imp_right And.right

theorem find?_server_queryString :
    (serverVariables request root pathInfo method).find? "QUERY_STRING" =
      some (request.uri.query.getD "") := by
  simp only [serverVariables, Dict.find?_ofPairs]
  cases request.remote with
  | none => simp
  | some address => simp

/-! ## The variables of a request -/

/-- The values of a header that travel with a request: none, if it concerns one connection only. -/
def forwarded (request : Request) (name : String) : List (List UInt8) :=
  if name ∈ hopByHop then [] else request.headers.values name

/-- The texts of the headers that have a variable in common. -/
def textsOf (key : String) (pairs : List (String × List UInt8)) : List String :=
  (pairs.filter fun pair => pair.1 ∉ hopByHop ∧ variableName pair.1 = key).map fun pair =>
    Latin1.decode pair.2

theorem find?_foldl_addHeader (pairs : List (String × List UInt8)) (environ : Dict String)
    (key : String) :
    (pairs.foldl addHeader environ).find? key =
      (textsOf key pairs).foldl joinText (environ.find? key) := by
  induction pairs generalizing environ with
  | nil => rfl
  | cons pair rest ih =>
      rw [List.foldl_cons, ih]
      by_cases hop : pair.1 ∈ hopByHop
      · simp [addHeader, textsOf, hop]
      · by_cases same : variableName pair.1 = key
        · subst same
          simp [addHeader, textsOf, hop, Dict.find?_combine_self, joinText]
        · simp [addHeader, textsOf, hop, same, Dict.find?_combine_of_ne _ (Ne.symm same)]

/-- The variables that stand for a request in its payload. -/
def allVariables (request : Request) (root pathInfo method : String) : Dict String :=
  request.headers.pairs.foldl addHeader (serverVariables request root pathInfo method)

/-- The headers of a request are native ones, and their names have no underscores. -/
structure Plain (request : Request) : Prop where
  legal : request.headers.Legal
  plain : ∀ pair ∈ request.headers.pairs, '_' ∉ pair.1.toList

theorem Plain.headerOfVariable? (plain : request.Plain) {pair : String × List UInt8}
    (mem : pair ∈ request.headers.pairs) :
    RequestPayload.headerOfVariable? (variableName pair.1) = some pair.1 :=
  headerOfVariable?_variableName (plain.legal.headers pair mem).name (plain.plain pair mem)

theorem Plain.textsOf (plain : request.Plain)
    (isOwn : RequestPayload.headerOfVariable? (variableName name) = some name) :
    textsOf (variableName name) request.headers.pairs =
      (request.forwarded name).map Latin1.decode := by
  have same : ∀ pair ∈ request.headers.pairs,
      decide (pair.1 ∉ hopByHop ∧ variableName pair.1 = variableName name) =
        decide (name ∉ hopByHop ∧ pair.1 = name) := by
    intro pair mem
    by_cases named : pair.1 = name
    · simp [named]
    · have differ : variableName pair.1 ≠ variableName name := by
        intro shared
        have read := plain.headerOfVariable? mem
        rw [shared, isOwn] at read
        exact named (Option.some.inj read).symm
      simp [named, differ]
  rw [Request.textsOf, List.filter_congr same, forwarded,
    ← HeaderMap.values_of_distinct plain.legal.distinct name]
  by_cases hop : name ∈ hopByHop <;> simp [hop]

theorem find?_server_variableName
    (isOwn : RequestPayload.headerOfVariable? (variableName name) = some name) :
    (serverVariables request root pathInfo method).find? (variableName name) = none := by
  cases found : (serverVariables request root pathInfo method).find? (variableName name) with
  | none => rfl
  | some text =>
      have unread := headerOfVariable?_of_server found
      rw [isOwn] at unread
      cases unread

/-- The variable of a header holds the values of the header that travel. -/
theorem Plain.find?_allVariables (plain : request.Plain)
    (isOwn : RequestPayload.headerOfVariable? (variableName name) = some name) :
    (allVariables request root pathInfo method).find? (variableName name) =
      (commaJoined (request.forwarded name)).map Latin1.decode := by
  rw [allVariables, find?_foldl_addHeader, plain.textsOf isOwn, find?_server_variableName isOwn,
    foldl_joinText]

/-- A variable from which a header is read back is that of a header of the request. -/
theorem exists_pair_of_read {text : String}
    (found : (allVariables request root pathInfo method).find? key = some text)
    (read : RequestPayload.headerOfVariable? key = some name) :
    ∃ pair ∈ request.headers.pairs, pair.1 ∉ hopByHop ∧ variableName pair.1 = key := by
  rw [allVariables, find?_foldl_addHeader] at found
  cases texts : Request.textsOf key request.headers.pairs with
  | nil =>
      rw [texts] at found
      rw [headerOfVariable?_of_server found] at read
      cases read
  | cons first rest =>
      have mem : first ∈ Request.textsOf key request.headers.pairs := by simp [texts]
      rcases List.mem_map.mp mem with ⟨pair, inFilter, -⟩
      rcases List.mem_filter.mp inFilter with ⟨inPairs, test⟩
      exact ⟨pair, inPairs, of_decide_eq_true test⟩

theorem Plain.variableName_of_read (plain : request.Plain) {text : String}
    (found : (allVariables request root pathInfo method).find? key = some text)
    (read : RequestPayload.headerOfVariable? key = some name) : variableName name = key := by
  rcases exists_pair_of_read found read with ⟨pair, inPairs, -, isKey⟩
  have own := plain.headerOfVariable? inPairs
  rw [isKey, read] at own
  cases own
  exact isKey

/-- Whether a variable can stand for a header. -/
def IsHeaderVariable (key : String) : Prop :=
  key = "CONTENT_TYPE" ∨ key = "CONTENT_LENGTH" ∨ "HTTP_".toList <+: key.toList

instance : DecidablePred IsHeaderVariable := fun _ => inferInstanceAs (Decidable (_ ∨ _ ∨ _))

theorem isHeaderVariable_variableName (header : String) :
    IsHeaderVariable (variableName header) := by
  rw [variableName]
  split
  · exact Or.inr (Or.inl rfl)
  · split
    · exact Or.inl rfl
    · right
      right
      rw [String.toList_append]
      exact List.prefix_append _ _

/-- No header adds to a variable that stands for none: it is as the server has set it. -/
theorem find?_allVariables_of_server (server : ¬IsHeaderVariable key) :
    (allVariables request root pathInfo method).find? key =
      (serverVariables request root pathInfo method).find? key := by
  have nothing : Request.textsOf key request.headers.pairs = [] := by
    rw [Request.textsOf, List.map_eq_nil_iff, List.filter_eq_nil_iff]
    intro pair mem test
    simp only [decide_eq_true_eq] at test
    exact server (test.2 ▸ isHeaderVariable_variableName pair.1)
  rw [allVariables, find?_foldl_addHeader, nothing, List.foldl_nil]

theorem find?_queryString :
    (allVariables request root pathInfo method).find? "QUERY_STRING" =
      some (request.uri.query.getD "") := by
  rw [find?_allVariables_of_server (by decide), find?_server_queryString]

/-! ## The headers that are read back -/

theorem mem_pairs_of_mem_forwarded {value : List UInt8} (mem : value ∈ request.forwarded name) :
    (name, value) ∈ request.headers.pairs := by
  rw [forwarded] at mem
  split at mem
  · cases mem
  · exact HeaderMap.mem_pairs_of_mem_values mem

theorem Plain.isOwn_of_forwarded (plain : request.Plain) (travels : request.forwarded name ≠ []) :
    RequestPayload.headerOfVariable? (variableName name) = some name := by
  rcases List.exists_mem_of_ne_nil _ travels with ⟨value, mem⟩
  exact plain.headerOfVariable? (mem_pairs_of_mem_forwarded mem)

theorem Plain.headerValue?_joined (plain : request.Plain) {joined : List UInt8}
    (isJoined : commaJoined (request.forwarded name) = some joined) :
    headerValue? joined = some joined := by
  apply headerValue?_commaJoined isJoined
  intro value mem
  exact (plain.legal.headers _ (mem_pairs_of_mem_forwarded mem)).value

end Request

namespace RequestPayload

open Request (variableName allVariables)

theorem isHeader_of_headerOf? {entry : String × String} {pair : String × List UInt8}
    (read : headerOf? entry = some pair) : IsHeader pair := by
  have legal : ∀ name, headerOfVariable? entry.1 = some name → headerName? name = some name := by
    intro name isName
    rw [headerOfVariable?] at isName
    split at isName
    · cases isName
      decide
    · split at isName
      · cases isName
        decide
      · split at isName
        · exact headerName?_of_eq_some isName
        · cases isName
  simp only [headerOf?, Option.bind_eq_bind, Option.bind_eq_some_iff, Option.pure_def,
    Option.some.injEq] at read
  rcases read with ⟨name, isName, bytes, -, value, isValue, rfl⟩
  exact ⟨legal name isName, headerValue?_of_eq_some isValue⟩

theorem legal_headers (payload : RequestPayload) : payload.headers.Legal := by
  apply HeaderMap.legal_ofPairs
  intro pair mem
  rcases List.mem_filterMap.mp mem with ⟨entry, -, read⟩
  exact isHeader_of_headerOf? read

/-- The value of a header, where an entry stands for this header. -/
def valueOf? (name : String) (entry : String × String) : Option (List UInt8) :=
  if headerOfVariable? entry.1 = some name then (Latin1.encode? entry.2).bind headerValue? else none

theorem values_headers (payload : RequestPayload) (name : String) :
    payload.headers.values name = payload.environ.entries.filterMap (valueOf? name) := by
  have value : (fun entry => ((headerOf? entry).filter fun pair => pair.1 = name).map Prod.snd) =
      valueOf? name := by
    funext entry
    rw [headerOf?, valueOf?]
    cases headerOfVariable? entry.1 with
    | none => rfl
    | some other =>
        cases Latin1.encode? entry.2 with
        | none => simp
        | some bytes =>
            by_cases same : other = name <;> cases found : headerValue? bytes <;>
              simp [found, same]
  rw [headers, HeaderMap.values_ofPairs, List.filter_filterMap, List.map_filterMap, value]

/-- Where a header is read back from its own variable only, its value is that of the variable. -/
theorem values_of_only {payload : RequestPayload} {name : String}
    (only : ∀ key text, payload.environ.find? key = some text →
      headerOfVariable? key = some name → variableName name = key) :
    payload.headers.values name =
      ((payload.environ.find? (variableName name)).bind fun text =>
        valueOf? name (variableName name, text)).toList := by
  rw [values_headers]
  apply Assoc.filterMap_of_only payload.environ.distinct
  intro entry mem other
  apply if_neg
  intro isName
  exact other (only entry.1 entry.2 (Dict.find?_of_mem mem) isName).symm

theorem valueOf?_decode {name key : String} (isName : headerOfVariable? key = some name)
    {value : List UInt8} (isValue : headerValue? value = some value) :
    valueOf? name (key, Latin1.decode value) = some value := by
  simp [valueOf?, isName, Latin1.encode?_decode, isValue]

/-- The headers of a payload that stands for a request are those that travel with the request, each
with its values joined. -/
theorem values_headers_of_variables {request : Request} (plain : request.Plain)
    {payload : RequestPayload} {root pathInfo method : String}
    (isEnviron : payload.environ = allVariables request root pathInfo method) (name : String) :
    payload.headers.values name = (commaJoined (request.forwarded name)).toList := by
  have values := @values_of_only payload name (by
    rw [isEnviron]
    exact fun _ _ => plain.variableName_of_read)
  rw [isEnviron] at values
  rw [values]
  -- A name that is not read back from its own variable is that of no header of the request.
  by_cases isOwn : headerOfVariable? (variableName name) = some name
  · rw [plain.find?_allVariables isOwn]
    cases isJoined : commaJoined (request.forwarded name) with
    | none => rfl
    | some joined =>
        rw [Option.map_some, Option.bind_some,
          valueOf?_decode isOwn (plain.headerValue?_joined isJoined)]
  · have nothing : request.forwarded name = [] :=
      Decidable.byContradiction fun travels => isOwn (plain.isOwn_of_forwarded travels)
    have unread : (fun text => valueOf? name (variableName name, text)) = fun _ => none := by
      funext text
      exact if_neg isOwn
    rw [nothing, unread]
    simp [commaJoined]

end RequestPayload

end Courier.Http
