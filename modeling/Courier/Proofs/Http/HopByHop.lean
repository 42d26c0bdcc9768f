import Courier.Proofs.Http.Rebuilding

/-!
# Headers that concern one connection only

Such a header is left out of the variables of a request by its name. Its variable is there even so
if another header of the request has the same one, which is a header whose name has underscores where
this name has hyphens: it travels in disguise, and where the request is rebuilt it has become the
header that was to be left out. There is no other way for such a header to travel.
-/

namespace Courier.Http

namespace Request

variable {request : Request} {payload : RequestPayload} {replyChannel root : String}

/-! ## Disguised headers -/

theorem hyphenated_of_hopByHop : ∀ hop ∈ hopByHop, hyphenated hop = hop := by decide

theorem headerName?_of_hopByHop : ∀ hop ∈ hopByHop, headerName? hop = some hop := by decide

theorem headerOfVariable?_of_hopByHop {hop : String} (isHop : hop ∈ hopByHop) :
    RequestPayload.headerOfVariable? (variableName hop) = some hop := by
  rw [headerOfVariable?_variableName_hyphenated (headerName?_of_hopByHop hop isHop),
    hyphenated_of_hopByHop hop isHop]

/-- Underscores become hyphens of a name and underscores of its variable, so that they make no
difference to the variable. -/
theorem variableName_hyphenated {name : String} (length : hyphenated name ≠ "content-length")
    (type : hyphenated name ≠ "content-type") :
    variableName (hyphenated name) = variableName name := by
  have differ : ∀ other, hyphenated other = other → hyphenated name ≠ other → name ≠ other := by
    rintro other own notOther rfl
    exact notOther own
  have chars : (hyphenated name).toList = name.toList.map fun c => if c = '_' then '-' else c :=
    String.toList_ofList
  rw [variableName, variableName, if_neg length, if_neg type,
    if_neg (differ "content-length" (by decide) length),
    if_neg (differ "content-type" (by decide) type), chars, List.map_map]
  congr 2
  apply List.map_congr_left
  intro c _
  by_cases underscore : c = '_'
  · subst underscore
    decide
  · rw [Function.comp_apply, if_neg underscore]

/-- The variable of a header that concerns one connection only is that of all headers whose names
differ from it in underscores only. -/
theorem variableName_eq_iff {name hop : String} (isName : headerName? name = some name)
    (isHop : hop ∈ hopByHop) :
    variableName name = variableName hop ↔ hyphenated name = hop := by
  constructor
  · intro same
    have read := headerOfVariable?_variableName_hyphenated isName
    rw [same, headerOfVariable?_of_hopByHop isHop] at read
    exact (Option.some.inj read).symm
  · rintro rfl
    have plain : ∀ hop ∈ hopByHop, hop ≠ "content-length" ∧ hop ≠ "content-type" := by decide
    rcases plain _ isHop with ⟨length, type⟩
    exact (variableName_hyphenated length type).symm

/-- The values of the headers that travel in the place of one that concerns one connection only. -/
def disguised (request : Request) (hop : String) : List (List UInt8) :=
  (request.headers.pairs.filter fun pair => pair.1 ∉ hopByHop ∧ hyphenated pair.1 = hop).map
    Prod.snd

theorem mem_disguised {hop : String} {value : List UInt8} :
    value ∈ request.disguised hop ↔ ∃ name, (name, value) ∈ request.headers.pairs ∧
      name ∉ hopByHop ∧ hyphenated name = hop := by
  simp [disguised]

theorem disguised_eq_nil_iff {hop : String} (isHop : hop ∈ hopByHop) :
    request.disguised hop = [] ↔
      ∀ pair ∈ request.headers.pairs, hyphenated pair.1 = hop → pair.1 = hop := by
  rw [List.eq_nil_iff_forall_not_mem]
  constructor
  · rintro none ⟨name, value⟩ mem same
    apply Decidable.byContradiction
    intro differ
    refine none value (mem_disguised.mpr ⟨name, mem, ?_, same⟩)
    intro isOther
    rw [hyphenated_of_hopByHop name isOther] at same
    exact differ same
  · intro same value isDisguised
    rcases mem_disguised.mp isDisguised with ⟨name, mem, travels, isHop'⟩
    have isOwn : name = hop := same _ mem isHop'
    exact travels (isOwn ▸ isHop)

/-- A name without hyphens has no disguise. -/
theorem disguised_of_unhyphenated {hop : String} (isHop : hop ∈ hopByHop)
    (plain : '-' ∉ hop.toList) : request.disguised hop = [] := by
  rw [disguised_eq_nil_iff isHop]
  rintro ⟨name, value⟩ - same
  have noUnderscore : '_' ∉ name.toList := by
    intro underscore
    apply plain
    rw [← same, hyphenated, String.toList_ofList]
    exact List.mem_map.mpr ⟨'_', underscore, rfl⟩
  rwa [hyphenated_of_plain noUnderscore] at same

/-! ## Variables -/

theorem textsOf_of_hopByHop (legal : request.headers.Legal) {hop : String}
    (isHop : hop ∈ hopByHop) :
    textsOf (variableName hop) request.headers.pairs =
      (request.disguised hop).map Latin1.decode := by
  have same : ∀ pair ∈ request.headers.pairs,
      decide (pair.1 ∉ hopByHop ∧ variableName pair.1 = variableName hop) =
        decide (pair.1 ∉ hopByHop ∧ hyphenated pair.1 = hop) := by
    intro pair mem
    simp only [variableName_eq_iff (legal.headers pair mem).name isHop]
  rw [textsOf, List.filter_congr same, disguised, List.map_map]
  rfl

theorem find?_of_hopByHop (legal : request.headers.Legal) {hop : String} (isHop : hop ∈ hopByHop)
    (root pathInfo method : String) :
    (allVariables request root pathInfo method).find? (variableName hop) =
      (commaJoined (request.disguised hop)).map Latin1.decode := by
  rw [allVariables, find?_foldl_addHeader, textsOf_of_hopByHop legal isHop,
    find?_server_variableName (headerOfVariable?_of_hopByHop isHop), foldl_joinText]

/-- Only from its own variable is a header that concerns one connection read back. -/
theorem variableName_of_hopByHop (legal : request.headers.Legal) {hop : String}
    (isHop : hop ∈ hopByHop) {root pathInfo method key text : String}
    (found : (allVariables request root pathInfo method).find? key = some text)
    (read : RequestPayload.headerOfVariable? key = some hop) : variableName hop = key := by
  rcases exists_pair_of_read found read with ⟨pair, inPairs, -, isKey⟩
  have isName := (legal.headers pair inPairs).name
  have back := headerOfVariable?_variableName_hyphenated isName
  rw [isKey, read] at back
  rw [← isKey, (variableName_eq_iff isName isHop).mpr (Option.some.inj back).symm]

/-! ## Headers that are read back -/

theorem headerValue?_disguised (legal : request.headers.Legal) {hop : String}
    {joined : List UInt8} (isJoined : commaJoined (request.disguised hop) = some joined) :
    headerValue? joined = some joined := by
  apply headerValue?_commaJoined isJoined
  intro value mem
  rcases mem_disguised.mp mem with ⟨name, inPairs, -, -⟩
  exact (legal.headers _ inPairs).value

theorem values_of_hopByHop (legal : request.headers.Legal) {hop : String}
    (isHop : hop ∈ hopByHop) (replyChannel root : String) :
    (request.payload replyChannel root).headers.values hop =
      (commaJoined (request.disguised hop)).toList := by
  have isText : (request.payload replyChannel root).environ.find? (variableName hop) =
      (commaJoined (request.disguised hop)).map Latin1.decode :=
    find?_of_hopByHop legal isHop _ _ _
  rw [RequestPayload.values_of_only fun _ _ => variableName_of_hopByHop legal isHop, isText]
  cases isJoined : commaJoined (request.disguised hop) with
  | none => rfl
  | some joined =>
      rw [Option.map_some, Option.bind_some,
        RequestPayload.valueOf?_decode (headerOfVariable?_of_hopByHop isHop)
          (headerValue?_disguised legal isJoined)]

theorem headers_of_toRequest {rebuilt : Request} (built : payload.toRequest = .ok rebuilt) :
    rebuilt.headers = payload.headers := by
  simp only [RequestPayload.toRequest] at built
  split at built
  · cases built
  · split at built
    · cases built
    · cases built
      rfl

/-! ## Main result -/

/-- Of the headers that concern one connection only, a payload has the values of those headers that
have the same name but for underscores. So it has none if no header of the request is so named, and
in particular none of those whose names have no hyphens. -/
theorem hop_by_hop_headers_travel_in_disguise (legal : request.headers.Legal)
    (accepted : request.encode replyChannel root = .ok payload) :
    RequestPayload.ofMessage payload.toMessage = .ok payload ∧
    (∀ rebuilt, payload.toRequest = .ok rebuilt → rebuilt.headers = payload.headers) ∧
    ∀ hop ∈ hopByHop,
      payload.environ.find? (variableName hop) =
        (commaJoined (request.disguised hop)).map Latin1.decode ∧
      payload.headers.values hop = (commaJoined (request.disguised hop)).toList ∧
      (request.disguised hop = [] ↔
        ∀ pair ∈ request.headers.pairs, hyphenated pair.1 = hop → pair.1 = hop) ∧
      ('-' ∉ hop.toList → request.disguised hop = []) := by
  rcases encode_eq_ok_iff.mp accepted with ⟨rfl, -⟩
  refine ⟨RequestPayload.ofMessage_toMessage _, fun _ => headers_of_toRequest, ?_⟩
  intro hop isHop
  exact ⟨find?_of_hopByHop legal isHop _ _ _, values_of_hopByHop legal isHop _ _,
    disguised_eq_nil_iff isHop, disguised_of_unhyphenated isHop⟩

/-- A request with a header that is named like one for a connection, but for an underscore. -/
def veiled : Request :=
  { method := "GET", uri := ⟨none, none, "/", none⟩,
    headers := .ofPairs [("keep_alive", [120]), ("te", [116]), ("keep_alive", [121])],
    body := [] }

theorem native_veiled : veiled.Native :=
  native_ofPairs (by decide) (show Uri.ofText "/" = .ok veiled.uri from rfl) (by decide)

theorem hop_by_hop_headers_travel_in_disguise_veiled :
    ∃ payload, veiled.headers.Legal ∧ veiled.encode "r" "" = .ok payload ∧
      payload.environ.find? "HTTP_KEEP_ALIVE" = some "x,y" ∧
      payload.environ.find? "HTTP_TE" = none ∧
      payload.headers.values "keep-alive" = [[120, 44, 121]] := by
  have clear : ¬veiled.Garbled := by
    rintro ⟨form, -⟩
    exact absurd form (by decide)
  have accepted := @encode_of_not_garbled veiled "r" "" clear
  rcases hop_by_hop_headers_travel_in_disguise native_veiled.headers accepted with ⟨-, -, each⟩
  have alive : veiled.disguised "keep-alive" = [[120], [121]] := by decide
  rcases each "keep-alive" (by decide) with ⟨kept, values, -⟩
  rcases each "te" (by decide) with ⟨leftOut, -, -, unhyphenated⟩
  rw [alive] at kept values
  rw [unhyphenated (by decide)] at leftOut
  exact ⟨_, native_veiled.headers, accepted, kept, leftOut, values⟩

/-- The payload of this request has the variable of a header for one connection, and so has the
request that is rebuilt from it. -/
theorem keep_alive_travels_in_disguise :
    veiled.Native ∧ "keep-alive" ∈ hopByHop ∧
      ∃ payload rebuilt, veiled.encode "r" "" = .ok payload ∧
        payload.environ.find? (variableName "keep-alive") = some "x,y" ∧
        payload.toRequest = .ok rebuilt ∧
        rebuilt.headers.values "keep-alive" = [[120, 44, 121]] := by
  have clear : ¬veiled.Garbled := by
    rintro ⟨form, -⟩
    exact absurd form (by decide)
  refine ⟨native_veiled, by decide, _, _, encode_of_not_garbled clear, ?_, rfl, ?_⟩
  · decide +kernel
  · decide +kernel

end Request

end Courier.Http
