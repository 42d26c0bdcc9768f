import Courier.Proofs.Data.Dict
import Courier.Proofs.Http.Parameters
import Courier.Proofs.Text.Parts
import Mathlib.Data.List.DropRight

/-!
# Cookies

Cookies that a client writes into the headers of its request are found again in the payload of the
request. They may be spread over several headers, with blanks wherever these are allowed, and with
quotation marks around any of the values. The last value of a name wins. Segments that are no cookies
do not count, nor do headers that cannot be read.
-/

namespace Courier.Http

open Request

namespace Cookies

/-! ## Ends of a text -/

section Ends

variable {drops : Char → Bool}

/-- A text that neither begins nor ends with a character of some kind. -/
def Tight (drops : Char → Bool) (text : List Char) : Prop :=
  (∀ c ∈ text.head?, drops c = false) ∧ ∀ c ∈ text.getLast?, drops c = false

theorem tight_iff {text : List Char} :
    (text.head?.all (!drops ·) = true ∧ text.getLast?.all (!drops ·) = true) ↔
      Tight drops text := by
  simp [Tight, Option.all_eq_true]

instance (text : List Char) : Decidable (Tight drops text) := decidable_of_iff _ tight_iff

theorem dropWhile_append_of_head? {front text : List Char} (dropped : ∀ c ∈ front, drops c = true)
    (stays : ∀ c ∈ text.head?, drops c = false) : (front ++ text).dropWhile drops = text := by
  rw [List.dropWhile_append_of_pos dropped]
  cases text with
  | nil => rfl
  | cons first rest => exact List.dropWhile_cons_of_neg (by simp [stays first rfl])

theorem rdropWhile_append_of_getLast? {text back : List Char} (dropped : ∀ c ∈ back, drops c = true)
    (stays : ∀ c ∈ text.getLast?, drops c = false) : (text ++ back).rdropWhile drops = text := by
  rw [List.rdropWhile, List.reverse_append, dropWhile_append_of_head?, List.reverse_reverse]
  · simpa using dropped
  · simpa using stays

theorem rdropWhile_append (left right : List Char) :
    (left ++ right).rdropWhile drops =
      if right.rdropWhile drops = [] then left.rdropWhile drops
      else left ++ right.rdropWhile drops := by
  simp only [List.rdropWhile, List.reverse_append, List.dropWhile_append, List.isEmpty_iff,
    List.reverse_eq_nil_iff]
  split <;> simp

/-- Where a character stays, what stands in front of it is changed at its front only. -/
theorem dropWhile_append_cons {c : Char} (stays : drops c = false) (left right : List Char) :
    (left ++ c :: right).dropWhile drops = left.dropWhile drops ++ c :: right := by
  rw [List.dropWhile_append, List.dropWhile_cons_of_neg (by simp [stays])]
  split
  case isTrue nothing => rw [List.isEmpty_iff.mp nothing, List.nil_append]
  case isFalse => rfl

theorem rdropWhile_append_cons {c : Char} (stays : drops c = false) (left right : List Char) :
    (left ++ c :: right).rdropWhile drops = left ++ c :: right.rdropWhile drops := by
  rw [List.rdropWhile, List.reverse_append, List.reverse_cons, List.append_assoc,
    List.singleton_append, dropWhile_append_cons stays]
  simp [List.rdropWhile]

/-- Dropping at one end and at the other may be done in either order. -/
theorem dropWhile_rdropWhile_comm (text : List Char) :
    (text.dropWhile drops).rdropWhile drops = (text.rdropWhile drops).dropWhile drops := by
  induction text with
  | nil => rfl
  | cons first rest ih =>
      cases dropped : drops first with
      | true =>
          -- the first character goes at the front, unless all of the text goes at the back
          rw [List.dropWhile_cons_of_pos dropped, ih, ← List.singleton_append, rdropWhile_append]
          split
          case isTrue nothing => rw [nothing, List.rdropWhile_singleton, if_pos dropped]
          case isFalse =>
              rw [List.singleton_append, List.dropWhile_cons_of_pos dropped]
      | false =>
          have noDrop : ¬drops first = true := by simp [dropped]
          have kept := rdropWhile_append_cons dropped [] rest
          rw [List.nil_append, List.nil_append] at kept
          rw [List.dropWhile_cons_of_neg noDrop, kept, List.dropWhile_cons_of_neg noDrop]

/-- What stands between characters of a kind is left when these are dropped at both ends. -/
theorem dropWhile_rdropWhile_of_tight {front text back : List Char}
    (inFront : ∀ c ∈ front, drops c = true) (inBack : ∀ c ∈ back, drops c = true)
    (tight : Tight drops text) :
    ((front ++ text ++ back).dropWhile drops).rdropWhile drops = text := by
  cases text with
  | nil =>
      have all : ∀ c ∈ front ++ [] ++ back, drops c = true := by
        intro c mem
        rw [List.append_nil, List.mem_append] at mem
        exact mem.elim (inFront c) (inBack c)
      rw [List.dropWhile_eq_nil_iff.mpr all, List.rdropWhile_nil]
  | cons first rest =>
      have atFront : (front ++ (first :: rest ++ back)).dropWhile drops = first :: rest ++ back :=
        dropWhile_append_of_head? inFront tight.1
      rw [List.append_assoc, atFront]
      exact rdropWhile_append_of_getLast? inBack tight.2

end Ends

/-! ## Cutting a segment -/

theorem trim_eq (text : List Char) : trim text = (text.dropWhile isBlank).rdropWhile isBlank := rfl

theorem strip_eq (mark : Char) (text : List Char) :
    strip mark text = (text.dropWhile (· == mark)).rdropWhile (· == mark) := rfl

theorem mem_of_mem_trim {c : Char} {text : List Char} (mem : c ∈ trim text) : c ∈ text :=
  (List.dropWhile_sublist isBlank).subset ((List.rdropWhile_prefix isBlank _).subset mem)

/-- A segment is cut at its first equals sign, and blanks around both of its parts are dropped. -/
theorem cookie?_cut {left : List Char} (first : '=' ∉ left) (right : List Char) :
    cookie? (left ++ '=' :: right) =
      if trim left = [] then none
      else some (String.ofList (trim left), String.ofList (strip '"' (trim right))) := by
  have noBlank : isBlank '=' = false := by decide
  have cut : trim (left ++ '=' :: right) =
      left.dropWhile isBlank ++ '=' :: right.rdropWhile isBlank := by
    rw [trim_eq, dropWhile_append_cons noBlank, rdropWhile_append_cons noBlank]
  have inLeft : ∀ c ∈ left.dropWhile isBlank, (c != '=') = true := by
    intro c mem
    have differ : c ≠ '=' := by
      rintro rfl
      exact first ((List.dropWhile_sublist isBlank).subset mem)
    simpa using differ
  have name : (trim (left ++ '=' :: right)).takeWhile (· != '=') = left.dropWhile isBlank := by
    rw [cut, List.takeWhile_append_of_pos inLeft]
    simp
  have value : (trim (left ++ '=' :: right)).dropWhile (· != '=') =
      '=' :: right.rdropWhile isBlank := by
    rw [cut, List.dropWhile_append_of_pos inLeft]
    simp
  -- the name is trimmed at its front twice, and the value at its back
  have sameName : trim (left.dropWhile isBlank) = trim left := by
    rw [trim_eq, List.dropWhile_idempotent, ← trim_eq]
  have sameValue : trim (right.rdropWhile isBlank) = trim right := by
    rw [trim_eq, ← dropWhile_rdropWhile_comm, List.rdropWhile_idempotent, ← trim_eq]
  simp only [cookie?, name, value, sameName, sameValue, List.isEmpty_iff]

/-- A segment without an equals sign is no cookie. -/
theorem cookie?_of_notMem {text : List Char} (absent : '=' ∉ text) : cookie? text = none := by
  have others : ∀ c ∈ trim text, (c != '=') = true := by
    intro c mem
    have differ : c ≠ '=' := by
      rintro rfl
      exact absent (mem_of_mem_trim mem)
    simpa using differ
  simp only [cookie?, List.dropWhile_eq_nil_iff.mpr others]

/-! ## What clients write -/

/-- A character that may stand in a header that can be read. -/
def IsReadable (c : Char) : Prop := (32 ≤ c.toNat ∧ c.toNat < 127) ∨ c = '\t'

instance : DecidablePred IsReadable := fun c =>
  inferInstanceAs (Decidable ((32 ≤ c.toNat ∧ c.toNat < 127) ∨ c = '\t'))

/-- Text that fits between two separators of cookies. -/
structure Legible (text : List Char) : Prop where
  readable : ∀ c ∈ text, IsReadable c
  undivided : ';' ∉ text

theorem legible_iff {text : List Char} :
    (text.all fun c => IsReadable c && c != ';') = true ↔ Legible text := by
  rw [List.all_eq_true]
  constructor
  · intro all
    refine ⟨fun c mem => ?_, fun mem => ?_⟩
    · exact of_decide_eq_true (Bool.and_eq_true_iff.mp (all c mem)).1
    · exact absurd (Bool.and_eq_true_iff.mp (all _ mem)).2 (by decide)
  · intro legible c mem
    have differs : c ≠ ';' := by
      rintro rfl
      exact legible.undivided mem
    simp [legible.readable c mem, differs]

instance : DecidablePred Legible := fun _ => decidable_of_iff _ legible_iff

/-- Blanks, as many as a client likes. -/
abbrev Blanks := { text : List Char // ∀ c ∈ text, isBlank c = true }

/-- A cookie that can be written down. Blanks and, in a value, quotation marks may stand inside but
not at the ends. -/
structure Cookie where
  name : String
  value : String
  name_ne_empty : name ≠ "" := by decide
  name_legible : Legible name.toList := by decide
  name_undivided : '=' ∉ name.toList := by decide
  name_tight : Tight isBlank name.toList := by decide
  value_legible : Legible value.toList := by decide
  value_tight : Tight isBlank value.toList := by decide
  value_unquoted : Tight (· == '"') value.toList := by decide

/-- How a client writes a cookie. -/
structure Layout where
  front : Blanks
  beforeEquals : Blanks
  afterEquals : Blanks
  back : Blanks
  isQuoted : Bool

namespace Cookie

def pair (cookie : Cookie) : String × String := (cookie.name, cookie.value)

def writtenValue (cookie : Cookie) (isQuoted : Bool) : List Char :=
  if isQuoted then '"' :: cookie.value.toList ++ ['"'] else cookie.value.toList

def text (cookie : Cookie) (layout : Layout) : List Char :=
  (layout.front ++ cookie.name.toList ++ layout.beforeEquals) ++
    '=' :: (layout.afterEquals ++ cookie.writtenValue layout.isQuoted ++ layout.back)

end Cookie

/-- What stands between two separators: a cookie, or something that is none since it has no equals
sign, or no name in front of it. -/
inductive Segment where
  | cookie (written : Cookie) (layout : Layout)
  | bare (text : List Char) (legible : Legible text) (undivided : '=' ∉ text)
  | nameless (blanks : Blanks) (rest : List Char) (legible : Legible rest)

namespace Segment

def text : Segment → List Char
  | .cookie written layout => written.text layout
  | .bare text _ _ => text
  | .nameless blanks rest _ => blanks ++ '=' :: rest

def cookies : Segment → List Cookie
  | .cookie written _ => [written]
  | .bare .. | .nameless .. => []

end Segment

/-- The bytes of ASCII characters. -/
def bytesOf (text : List Char) : List UInt8 := text.map fun c => UInt8.ofNat c.toNat

/-- The value of a header of cookies: segments with separators between them, or bytes that cannot be
read as text. -/
inductive Line where
  | segments (written : List Segment)
  | unreadable (bytes : List UInt8) (odd : ∃ byte ∈ bytes, isReadableByte byte = false)

namespace Line

def bytes : Line → List UInt8
  | .segments written => bytesOf (List.intercalate [';'] (written.map Segment.text))
  | .unreadable bytes _ => bytes

def cookies : Line → List Cookie
  | .segments written => written.flatMap Segment.cookies
  | .unreadable .. => []

end Line

/-! ## Reading a segment -/

theorem isReadable_of_isBlank {c : Char} (blank : isBlank c = true) : IsReadable c ∧ c ≠ ';' := by
  rcases isBlank_iff.mp blank with rfl | rfl <;> exact ⟨by decide, by decide⟩

theorem Legible.append {left right : List Char} (leftLegible : Legible left)
    (rightLegible : Legible right) : Legible (left ++ right) where
  readable c mem :=
    (List.mem_append.mp mem).elim (leftLegible.readable c) (rightLegible.readable c)
  undivided mem :=
    (List.mem_append.mp mem).elim leftLegible.undivided rightLegible.undivided

theorem Blanks.legible (blanks : Blanks) : Legible blanks.val where
  readable c mem := (isReadable_of_isBlank (blanks.property c mem)).1
  undivided mem := (isReadable_of_isBlank (blanks.property _ mem)).2 rfl

theorem legible_singleton {c : Char} (readable : IsReadable c) (differs : c ≠ ';') :
    Legible [c] where
  readable other mem := by
    cases List.mem_singleton.mp mem
    exact readable
  undivided mem := differs (List.mem_singleton.mp mem).symm

namespace Cookie

variable (cookie : Cookie)

theorem legible_writtenValue (isQuoted : Bool) : Legible (cookie.writtenValue isQuoted) := by
  have mark : Legible ['"'] := legible_singleton (by decide) (by decide)
  cases isQuoted with
  | false => exact cookie.value_legible
  | true => exact mark.append (cookie.value_legible.append mark)

theorem tight_writtenValue (isQuoted : Bool) :
    Tight isBlank (cookie.writtenValue isQuoted) := by
  cases isQuoted with
  | false => exact cookie.value_tight
  | true =>
      have noBlank : isBlank '"' = false := by decide
      constructor
      · rintro _ ⟨⟩
        exact noBlank
      · intro c isLast
        rw [writtenValue, if_pos rfl, List.getLast?_concat] at isLast
        cases isLast
        exact noBlank

theorem strip_writtenValue (isQuoted : Bool) :
    strip '"' (cookie.writtenValue isQuoted) = cookie.value.toList := by
  cases isQuoted with
  | false =>
      have same : [] ++ cookie.value.toList ++ [] = cookie.writtenValue false :=
        List.append_nil _
      rw [strip_eq, ← same]
      exact dropWhile_rdropWhile_of_tight nofun nofun cookie.value_unquoted
  | true =>
      have same : ['"'] ++ cookie.value.toList ++ ['"'] = cookie.writtenValue true := rfl
      rw [strip_eq, ← same]
      exact dropWhile_rdropWhile_of_tight (by simp) (by simp) cookie.value_unquoted

theorem legible_text (layout : Layout) : Legible (cookie.text layout) := by
  have equals : Legible ['='] := legible_singleton (by decide) (by decide)
  have left := (layout.front.legible.append cookie.name_legible).append layout.beforeEquals.legible
  have right := (layout.afterEquals.legible.append
    (cookie.legible_writtenValue layout.isQuoted)).append layout.back.legible
  exact left.append (equals.append right)

theorem cookie?_text (layout : Layout) : cookie? (cookie.text layout) = some cookie.pair := by
  have first : '=' ∉ layout.front ++ cookie.name.toList ++ layout.beforeEquals := by
    have noBlank : ¬isBlank '=' = true := by decide
    simp only [List.mem_append]
    rintro ((inFront | inName) | before)
    · exact noBlank (layout.front.property _ inFront)
    · exact cookie.name_undivided inName
    · exact noBlank (layout.beforeEquals.property _ before)
  have name : trim (layout.front ++ cookie.name.toList ++ layout.beforeEquals) =
      cookie.name.toList :=
    dropWhile_rdropWhile_of_tight layout.front.property layout.beforeEquals.property
      cookie.name_tight
  have value : trim (layout.afterEquals ++ cookie.writtenValue layout.isQuoted ++ layout.back) =
      cookie.writtenValue layout.isQuoted :=
    dropWhile_rdropWhile_of_tight layout.afterEquals.property layout.back.property
      (cookie.tight_writtenValue layout.isQuoted)
  have named : cookie.name.toList ≠ [] := by
    rw [ne_eq, String.toList_eq_nil_iff]
    exact cookie.name_ne_empty
  rw [text, cookie?_cut first, name, value, if_neg named, strip_writtenValue, String.ofList_toList,
    String.ofList_toList]
  rfl

end Cookie

namespace Segment

theorem legible_text (segment : Segment) : Legible segment.text := by
  cases segment with
  | cookie written layout => exact written.legible_text layout
  | bare text legible undivided => exact legible
  | nameless blanks rest legible =>
      have equals : Legible ['='] := legible_singleton (by decide) (by decide)
      exact blanks.legible.append (equals.append legible)

theorem cookie?_text (segment : Segment) :
    (cookie? segment.text).toList = segment.cookies.map Cookie.pair := by
  cases segment with
  | cookie written layout =>
      rw [text, written.cookie?_text]
      rfl
  | bare written legible undivided =>
      rw [text, cookie?_of_notMem undivided]
      rfl
  | nameless blanks rest legible =>
      have first : '=' ∉ blanks.val := by
        intro mem
        exact absurd (blanks.property _ mem) (by decide)
      have name : trim blanks.val = [] := by
        rw [trim_eq, List.dropWhile_eq_nil_iff.mpr blanks.property, List.rdropWhile_nil]
      rw [text, cookie?_cut first, if_pos name]
      rfl

end Segment

/-! ## Reading a header -/

theorem splitAt_eq_splitOn (mark : Char) (text : List Char) :
    splitAt mark text = text.splitOn mark := by
  apply eq_splitOn
  · rfl
  · intro rest
    rw [splitAt, if_pos rfl]
  · intro first rest part parts differ divided
    rw [splitAt, if_neg differ, divided]

theorem readable?_bytesOf {text : List Char} (readable : ∀ c ∈ text, IsReadable c) :
    readable? (bytesOf text) = some (String.ofList text) := by
  have each : ∀ c ∈ text, isReadableByte (UInt8.ofNat c.toNat) = true ∧
      Char.ofNat (UInt8.ofNat c.toNat).toNat = c := by
    intro c mem
    have all : ∀ value < 127, 32 ≤ value ∨ value = 9 →
        isReadableByte (UInt8.ofNat value) = true ∧ (UInt8.ofNat value).toNat = value := by
      decide +kernel
    have bounds : c.toNat < 127 ∧ (32 ≤ c.toNat ∨ c.toNat = 9) := by
      rcases readable c mem with ⟨above, below⟩ | rfl
      · exact ⟨below, Or.inl above⟩
      · decide
    rcases all c.toNat bounds.1 bounds.2 with ⟨passes, same⟩
    exact ⟨passes, by rw [same, Char.ofNat_toNat]⟩
  have passes : (bytesOf text).all isReadableByte = true := by
    rw [bytesOf, List.all_map, List.all_eq_true]
    exact fun c mem => (each c mem).1
  have same : (bytesOf text).map (fun byte => Char.ofNat byte.toNat) = text := by
    rw [bytesOf, List.map_map]
    exact (List.map_congr_left fun c mem => (each c mem).2).trans (List.map_id text)
  rw [readable?, if_pos passes, same]

theorem readable?_of_odd {bytes : List UInt8} (odd : ∃ byte ∈ bytes, isReadableByte byte = false) :
    readable? bytes = none := by
  rw [readable?, if_neg]
  rw [List.all_eq_true]
  rintro all
  rcases odd with ⟨byte, mem, unreadable⟩
  rw [all byte mem] at unreadable
  cases unreadable

/-- The segments that were joined are read one by one. -/
theorem filterMap_splitAt_intercalate {parts : List (List Char)}
    (legible : ∀ part ∈ parts, Legible part) :
    (splitAt ';' (List.intercalate [';'] parts)).filterMap cookie? = parts.filterMap cookie? := by
  cases parts with
  | nil => rfl
  | cons first rest =>
      rw [splitAt_eq_splitOn, List.splitOn_intercalate _ _ (List.cons_ne_nil _ _)]
      exact fun part mem => (legible part mem).undivided

/-- The pairs that are read from the value of a header. -/
theorem pairs_of_bytes (line : Line) :
    ((readable? line.bytes).toList.flatMap fun value =>
      (splitAt ';' value.toList).filterMap cookie?) = line.cookies.map Cookie.pair := by
  cases line with
  | unreadable written odd =>
      rw [Line.bytes, readable?_of_odd odd]
      rfl
  | segments written =>
      have legible : ∀ part ∈ written.map Segment.text, Legible part := by
        intro part mem
        rcases List.mem_map.mp mem with ⟨segment, -, rfl⟩
        exact segment.legible_text
      have readable : ∀ c ∈ List.intercalate [';'] (written.map Segment.text), IsReadable c :=
        forall_mem_intercalate (List.forall_mem_singleton.mpr (by decide)) fun part mem => (legible part mem).readable
      calc
        _ = (written.map Segment.text).filterMap cookie? := by
          rw [Line.bytes, readable?_bytesOf readable, Option.toList_some, List.flatMap_singleton,
            String.toList_ofList, filterMap_splitAt_intercalate legible]
        _ = written.flatMap fun segment => segment.cookies.map Cookie.pair := by
          rw [List.filterMap_map, List.filterMap_eq_flatMap_toList]
          simp only [Function.comp_apply, Segment.cookie?_text]
        _ = (written.flatMap Segment.cookies).map Cookie.pair := by
          rw [List.map_flatMap]

theorem cookies_of_values {headers : HeaderMap} {lines : List Line}
    (sent : headers.values "cookie" = lines.map Line.bytes) :
    cookies headers = Dict.ofPairs ((lines.flatMap Line.cookies).map Cookie.pair) := by
  rw [Request.cookies, sent, List.filterMap_map, List.filterMap_eq_flatMap_toList,
    List.flatMap_assoc, List.map_flatMap]
  simp only [Function.comp_apply, pairs_of_bytes]

/-! ## Main result -/

/-- The cookies that a client has written are found in the payload of its request, under each name
the value that was written last, and no other names are. -/
theorem last_value_wins (request : Request) (replyChannel root : String) (lines : List Line)
    (sent : request.headers.values "cookie" = lines.map Line.bytes) :
    (∃ payload, request.ReadAs replyChannel root payload ∧
      (∀ name, name ∈ payload.cookies.keys ↔
        ∃ cookie ∈ lines.flatMap Line.cookies, cookie.name = name) ∧
      ∀ name, payload.cookie? name =
        (Dict.valuesOf name ((lines.flatMap Line.cookies).map Cookie.pair)).getLast?) ∨
    request.Refused replyChannel root := by
  have cookies : (request.payload replyChannel root).cookies =
      Dict.ofPairs ((lines.flatMap Line.cookies).map Cookie.pair) := cookies_of_values sent
  apply (readAs_or_refused request replyChannel root).imp_left
  intro read
  refine ⟨_, read, ?_, ?_⟩
  · intro name
    rw [cookies, Dict.mem_keys_ofPairs, List.map_map, List.mem_map]
    rfl
  · intro name
    rw [RequestPayload.cookie?, cookies]
    exact Dict.find?_ofPairs _ name

/-! ### Cookies that are spread over headers -/

def theme : Cookie := { name := "theme", value := "a=b" }

def greeting : Cookie := { name := "x", value := "say \"hi\" twice" }

def emptyTheme : Cookie := { name := "theme", value := "" }

def noBlanks : Blanks := ⟨[], nofun⟩

def oneBlank : Blanks := ⟨[' '], List.forall_mem_singleton.mpr rfl⟩

def spreadLines : List Line :=
  [.segments
      [.cookie theme ⟨noBlanks, noBlanks, noBlanks, noBlanks, true⟩,
        .cookie greeting ⟨oneBlank, oneBlank, oneBlank, oneBlank, true⟩,
        .bare [] (by decide) (by decide),
        .nameless oneBlank ['z'] (by decide)],
    .unreadable (Utf8.encode "x=\u00e9") (by decide +kernel),
    .segments [.cookie emptyTheme ⟨noBlanks, noBlanks, noBlanks, noBlanks, false⟩]]

def spread : Request :=
  { method := "GET", uri := ⟨none, none, "/", none⟩
    headers := .ofPairs
      [("cookie", Utf8.encode "theme=\"a=b\"; x = \"say \"hi\" twice\" ;; =z"),
        ("accept", []), ("cookie", Utf8.encode "x=\u00e9"), ("cookie", Utf8.encode "theme=")]
    body := [] }

theorem last_value_wins_spread :
    spread.headers.values "cookie" = spreadLines.map Line.bytes ∧
      ∃ payload, spread.ReadAs "r" "" payload ∧
        (∀ name, name ∈ payload.cookies.keys ↔ name = "theme" ∨ name = "x") ∧
        payload.cookie? "theme" = some "" ∧ payload.cookie? "x" = some "say \"hi\" twice" := by
  have sent : spread.headers.values "cookie" = spreadLines.map Line.bytes := by decide +kernel
  refine ⟨sent, ?_⟩
  rcases last_value_wins spread "r" "" spreadLines sent with ⟨payload, read, keys, values⟩ | refused
  · refine ⟨payload, read, ?_, values "theme", values "x"⟩
    intro name
    have written : spreadLines.flatMap Line.cookies = [theme, greeting, emptyTheme] := rfl
    rw [keys, written]
    simp [theme, greeting, emptyTheme, eq_comm, or_comm]
  · have form := (isForm_iff _).mpr refused.isForm
    exact absurd form (by decide +kernel)

end Cookies

end Courier.Http
