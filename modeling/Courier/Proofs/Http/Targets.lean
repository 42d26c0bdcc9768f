import Courier.Http.Uri
import Courier.Proofs.Payload.Reader

/-!
# Reading targets again

A path and a query that were read from some target are read again from the text that is made up of
them, which is no longer than the target was. Only what stood in front of the path is lost, and a
query that is empty.
-/

namespace Courier

namespace Utf8

theorem length_encodeChars_append (front rest : List Char) :
    (encodeChars (front ++ rest)).length =
      (encodeChars front).length + (encodeChars rest).length := by
  simp [encodeChars]

theorem length_encodeChars_le {front whole : List Char} (isFront : front <+: whole) :
    (encodeChars front).length ≤ (encodeChars whole).length := by
  rcases isFront with ⟨rest, rfl⟩
  rw [length_encodeChars_append]
  omega

end Utf8

namespace Http.Uri

/-! ## Cutting -/

theorem cut_append {stops front : List Char} (clear : ∀ c ∈ front, c ∉ stops)
    (rest : List Char) :
    cut stops (front ++ rest) = (front ++ (cut stops rest).1, (cut stops rest).2) := by
  have passed : ∀ c ∈ front, (!stops.contains c) = true := by simpa using clear
  simp only [cut, List.takeWhile_append_of_pos passed, List.dropWhile_append_of_pos passed]

theorem cut_of_clear {stops front : List Char} (clear : ∀ c ∈ front, c ∉ stops) :
    cut stops front = (front, []) := by
  simpa [cut] using cut_append clear []

theorem cut_append_cons {stops front : List Char} {stop : Char} (clear : ∀ c ∈ front, c ∉ stops)
    (isStop : stop ∈ stops) (rest : List Char) :
    cut stops (front ++ stop :: rest) = (front, stop :: rest) := by
  rw [cut_append clear]
  simp [cut, isStop]

theorem append_of_cut {stops input front rest : List Char}
    (divided : cut stops input = (front, rest)) : front ++ rest = input := by
  cases divided
  exact List.takeWhile_append_dropWhile

theorem mem_stops_of_cut {stops input front rest : List Char} {stop : Char}
    (divided : cut stops input = (front, stop :: rest)) : stop ∈ stops := by
  simp only [cut, Prod.mk.injEq] at divided
  have stopped := List.head?_dropWhile_not (fun c => !stops.contains c) input
  rw [divided.2] at stopped
  simpa using stopped

/-! ## Paths and queries -/

theorem notMem_of_isPathChar {c : Char} (isChar : isPathChar c = true) : c ∉ ['?', '#'] := by
  intro mem
  simp only [List.mem_cons, List.not_mem_nil, or_false] at mem
  rcases mem with rfl | rfl
  · exact absurd isChar (by decide)
  · exact absurd isChar (by decide)

theorem notMem_of_isQueryChar {c : Char} (isChar : isQueryChar c = true) : c ∉ ['#'] := by
  intro mem
  rw [List.mem_singleton] at mem
  subst mem
  exact absurd isChar (by decide)

theorem pathAndQuery_path {path : List Char} (isPath : path.all isPathChar = true) :
    pathAndQuery path = .ok (String.ofList path, none) := by
  have divided : cut ['?', '#'] path = (path, []) := by
    apply cut_of_clear
    intro c mem
    exact notMem_of_isPathChar (List.all_eq_true.mp isPath c mem)
  simp [pathAndQuery, divided, isPath]

theorem pathAndQuery_query {path query : List Char} (isPath : path.all isPathChar = true)
    (isQuery : query.all isQueryChar = true) :
    pathAndQuery (path ++ '?' :: query) =
      .ok (String.ofList path, some (String.ofList query)) := by
  have divided : cut ['?', '#'] (path ++ '?' :: query) = (path, '?' :: query) := by
    apply cut_append_cons _ (by simp)
    intro c mem
    exact notMem_of_isPathChar (List.all_eq_true.mp isPath c mem)
  have undivided : cut ['#'] query = (query, []) := by
    apply cut_of_clear
    intro c mem
    exact notMem_of_isQueryChar (List.all_eq_true.mp isQuery c mem)
  simp [pathAndQuery, divided, undivided, isPath, isQuery]

/-- The text of a path and a query. An empty query is left out, with its question mark. -/
def targetText (path query : String) : String :=
  if query = "" then path else path ++ "?" ++ query

/-- A path and a query at the front of what was read, up to a stop. -/
structure Leads (input : List Char) (pathText : String) (queryText : Option String) : Prop where
  path : pathText.toList.all isPathChar = true
  query : ∀ text, queryText = some text → text.toList.all isQueryChar = true
  front : (targetText pathText (queryText.getD "")).toList <+: input
  divided : ∃ rest, cut ['?', '#'] input = (pathText.toList, rest)

theorem leads_of_pathAndQuery {input : List Char} {pathText : String}
    {queryText : Option String} (read : pathAndQuery input = .ok (pathText, queryText)) :
    Leads input pathText queryText := by
  rw [pathAndQuery] at read
  rcases divided : cut ['?', '#'] input with ⟨front, rest⟩
  have whole := append_of_cut divided
  simp only [divided] at read
  split at read
  · cases read
  · rename_i allowed
    have isPath : front.all isPathChar = true := by simpa using allowed
    split at read
    · rename_i behind
      rcases dividedQuery : cut ['#'] behind with ⟨text, fragment⟩
      have wholeQuery := append_of_cut dividedQuery
      simp only [dividedQuery] at read
      split at read
      · rename_i isQuery
        cases read
        refine ⟨by simpa using isPath, ?_, ?_, by simp [divided]⟩
        · intro text same
          cases same
          simpa using isQuery
        · subst whole
          subst wholeQuery
          by_cases empty : text = []
          · simp [targetText, empty]
          · simp [targetText, empty]
      · cases read
    · cases read
      refine ⟨by simpa using isPath, ?_, ?_, by simp [divided]⟩
      · intro text same
        cases same
      · subst whole
        simp [targetText]

/-! ## Whole targets -/

/-- What is known of a target that was read: its path begins with a slash, unless it is a star or
there is none, and its path and query are short enough to be read again. -/
structure Legal (uri : Uri) : Prop where
  path : uri.path = "" ∨ uri.path = "*" ∧ uri.query = none ∨
    ∃ rest, uri.path.toList = '/' :: rest ∧ uri.path.toList.all isPathChar = true
  query : ∀ text, uri.query = some text → text.toList.all isQueryChar = true
  short : Utf8.length (targetText uri.path (uri.query.getD "")) ≤ lengthLimit

theorem eq_append_of_schemePart? {input scheme rest : List Char}
    (read : schemePart? input = .ok (some (scheme, rest))) :
    input = scheme ++ ':' :: '/' :: '/' :: rest := by
  have whole := @List.takeWhile_append_dropWhile _ isSchemeChar input
  rw [schemePart?] at read
  generalize input.takeWhile isSchemeChar = front at read whole
  split at read
  · rename_i behind left
    split at read
    · cases read
    · cases read
      rw [← whole, left]
  · cases read

theorem cut_of_authorityPart {input front rest : List Char}
    (read : authorityPart input = .ok (front, rest)) :
    cut ['/', '?', '#'] input = (front, rest) := by
  rw [authorityPart] at read
  rcases divided : cut ['/', '?', '#'] input with ⟨first, second⟩
  simp only [divided] at read
  split at read
  · cases read
  · split at read
    · cases read
      rfl
    · cases read

theorem legal_of_authority (scheme authority : Option String) :
    Legal ⟨scheme, authority, "", none⟩ := by
  refine ⟨Or.inl rfl, ?_, ?_⟩
  · intro text same
    cases same
  · exact Nat.zero_le lengthLimit

theorem length_targetText (path query : String) :
    Utf8.length (targetText path query) = Utf8.length path + Utf8.length (targetText "" query) := by
  by_cases empty : query = ""
  · simp [targetText, empty, Utf8.length, Utf8.encode, Utf8.encodeChars]
  · simp [targetText, empty, Utf8.length, Utf8.encode, Utf8.encodeChars]

/-- A path that is not empty and that stands where an authority has ended begins with a slash. -/
theorem Leads.legal_of_path {input : List Char} {pathText : String} {queryText : Option String}
    (leads : Leads input pathText queryText) (nonempty : pathText ≠ "")
    (opens : ∀ c rest, input = c :: rest → c ∈ ['/', '?', '#'])
    (short : (Utf8.encodeChars input).length ≤ lengthLimit) (scheme authority : Option String) :
    Legal ⟨scheme, authority, pathText, queryText⟩ := by
  have front := Utf8.length_encodeChars_le leads.front
  refine ⟨Or.inr (Or.inr ?_), leads.query, Nat.le_trans front short⟩
  rcases leads.divided with ⟨rest, divided⟩
  have whole := append_of_cut divided
  cases begins : pathText.toList with
  | nil =>
      apply absurd _ nonempty
      simpa using begins
  | cons c tail =>
      rw [begins] at whole
      have isOpening := opens c (tail ++ rest) whole.symm
      have isChar : isPathChar c = true := by
        apply List.all_eq_true.mp leads.path
        simp [begins]
      have notStop := notMem_of_isPathChar isChar
      simp only [List.mem_cons, List.not_mem_nil, or_false, not_or] at isOpening notStop
      have isSlash : c = '/' := by
        rcases isOpening with slash | mark | hash
        · exact slash
        · exact absurd mark notStop.1
        · exact absurd hash notStop.2
      subst isSlash
      exact ⟨tail, rfl, begins ▸ leads.path⟩

/-- An empty path is made a slash, for which there is room in what stood in front of it. -/
theorem Leads.legal_of_empty {input : List Char} {queryText : Option String}
    (leads : Leads input "" queryText)
    (short : (Utf8.encodeChars input).length + 1 ≤ lengthLimit) (scheme authority : Option String) :
    Legal ⟨scheme, authority, "/", queryText⟩ := by
  have front : Utf8.length (targetText "" (queryText.getD "")) ≤ (Utf8.encodeChars input).length :=
    Utf8.length_encodeChars_le leads.front
  have slash : Utf8.length "/" = 1 := by decide
  refine ⟨Or.inr (Or.inr ⟨[], by simp, by simp; decide⟩), leads.query, ?_⟩
  rw [length_targetText]
  dsimp only
  omega

theorem legal_of_full {text : String} (short : Utf8.length text ≤ lengthLimit) {uri : Uri}
    (read : full text.toList = .ok uri) : uri.Legal := by
  rcases eq_ok_of_bind read with ⟨schemed, scheme, read⟩
  cases schemed with
  | none =>
      rcases eq_ok_of_bind read with ⟨⟨authority, rest⟩, -, read⟩
      dsimp only at read
      split at read
      · cases read
        exact legal_of_authority _ _
      · cases read
  | some parts =>
      rcases parts with ⟨name, behind⟩
      rcases eq_ok_of_bind read with ⟨⟨authority, rest⟩, authorised, read⟩
      have divided := cut_of_authorityPart authorised
      have opens : ∀ c tail, rest = c :: tail → c ∈ ['/', '?', '#'] := by
        rintro c tail rfl
        exact mem_stops_of_cut divided
      have room : (Utf8.encodeChars rest).length + 1 ≤ lengthLimit := by
        have whole := eq_append_of_schemePart? scheme
        rw [← append_of_cut divided] at whole
        simp only [Utf8.length, Utf8.encode, whole, Utf8.encodeChars, List.flatMap_append,
          List.flatMap_cons, List.length_append] at short
        have slash : (Utf8.encodeChar '/').length = 1 := by decide
        simp only [Utf8.encodeChars]
        omega
      dsimp only at read
      split at read
      · cases read
      · rcases eq_ok_of_bind read with ⟨⟨pathText, queryText⟩, located, read⟩
        have leads := leads_of_pathAndQuery located
        cases read
        by_cases empty : pathText = ""
        · subst empty
          exact leads.legal_of_empty room _ _
        · simp only [empty, if_false]
          exact leads.legal_of_path empty opens (Nat.le_of_succ_le room) _ _

theorem legal_of_ofText {text : String} {uri : Uri} (read : ofText text = .ok uri) :
    uri.Legal := by
  rw [ofText] at read
  split at read
  · cases read
  · rename_i notLong
    have short : Utf8.length text ≤ lengthLimit := Nat.le_of_not_lt notLong
    split at read
    · cases read
    · cases read
      refine ⟨Or.inr (Or.inl ⟨rfl, rfl⟩), ?_, by decide⟩
      intro text same
      cases same
    · cases read
    · cases read
    · rename_i rest begins
      rcases eq_ok_of_bind read with ⟨⟨pathText, queryText⟩, located, read⟩
      have leads := leads_of_pathAndQuery located
      cases read
      apply leads.legal_of_path
      · rintro rfl
        rcases leads.divided with ⟨_, divided⟩
        simp [cut] at divided
      · rintro c tail same
        cases same
        simp
      · rw [← begins]
        exact short
    · exact legal_of_full short read

theorem ofText_of_slash {text : String} (short : Utf8.length text ≤ lengthLimit)
    {rest : List Char} (begins : text.toList = '/' :: rest) {pathText : String}
    {queryText : Option String} (read : pathAndQuery text.toList = .ok (pathText, queryText)) :
    ofText text = .ok ⟨none, none, pathText, queryText⟩ := by
  rw [begins] at read
  rw [ofText, if_neg (Nat.not_lt.mpr short), begins]
  split
  case h_5 same =>
    cases same
    rw [read]
    rfl
  case h_6 notSlash => exact absurd rfl (notSlash rest)
  all_goals rename_i same; cases same

/-- A path and a query that were read are read again from their text. -/
theorem ofText_targetText {uri : Uri} (legal : uri.Legal) (nonempty : uri.path ≠ "") :
    ofText (targetText uri.path (uri.query.getD "")) =
      .ok ⟨none, none, uri.path, uri.query.filter (· ≠ "")⟩ := by
  rcases legal.path with empty | ⟨star, noQuery⟩ | ⟨rest, begins, isPath⟩
  · exact absurd empty nonempty
  · rw [star, noQuery]
    rfl
  · have short := legal.short
    have read := pathAndQuery_path isPath
    rw [String.ofList_toList] at read
    cases present : uri.query with
    | none =>
        rw [present] at short
        exact ofText_of_slash short begins read
    | some text =>
        rw [present] at short
        by_cases empty : text = ""
        · subst empty
          exact ofText_of_slash short begins read
        · have whole : (targetText uri.path text).toList =
              uri.path.toList ++ '?' :: text.toList := by
            simp [targetText, empty]
          have readQuery := pathAndQuery_query isPath (legal.query text present)
          simp only [String.ofList_toList, ← whole] at readQuery
          have kept : (some text).filter (· ≠ "") = some text := by simp [empty]
          rw [kept]
          have front : (targetText uri.path text).toList = '/' :: (rest ++ '?' :: text.toList) := by
            rw [whole, begins, List.cons_append]
          exact ofText_of_slash short front readQuery

end Http.Uri

end Courier
