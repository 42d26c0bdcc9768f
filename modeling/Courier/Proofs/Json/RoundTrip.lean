import Courier.Message
import Courier.Proofs.Json.Tokens

/-!
# Reading back values

A well-formed value without doubles that nests no deeper than the limit is read back from its text.
The reader is given fuel: twice the length of the text is enough, because on the way from a value to
the first value in it the text loses a bracket or a name.

A value is read back field by field, so the reader keeps the fields as they were. `Json.parse` then
collapses repeated fields, of which a well-formed value has none.
-/

namespace Courier.Json

mutual

/-- No number in a value is a double. -/
def exact : Json → Bool
  | .float _ => false
  | .array items => exactItems items
  | .object fields => exactFields fields
  | _ => true

/-- No number in the items of an array is a double. -/
def exactItems : List Json → Bool
  | [] => true
  | item :: rest => item.exact && exactItems rest

/-- No number in the values of fields is a double. -/
def exactFields : List (String × Json) → Bool
  | [] => true
  | (_, value) :: rest => value.exact && exactFields rest

end

theorem exactItems_of_forall {items : List Json} (all : ∀ item ∈ items, item.exact = true) :
    exactItems items = true := by
  induction items with
  | nil => rfl
  | cons item rest ih =>
      rw [exactItems, Bool.and_eq_true]
      refine ⟨all item List.mem_cons_self, ih ?_⟩
      intro other mem
      exact all other (List.mem_cons_of_mem item mem)

theorem wellFormedItems_of_forall {items : List Json}
    (all : ∀ item ∈ items, item.wellFormed = true) : wellFormedItems items = true := by
  induction items with
  | nil => rfl
  | cons item rest ih =>
      rw [wellFormedItems, Bool.and_eq_true]
      refine ⟨all item List.mem_cons_self, ih ?_⟩
      intro other mem
      exact all other (List.mem_cons_of_mem item mem)

theorem depthItems_le_of_forall {items : List Json} {bound : Nat}
    (all : ∀ item ∈ items, item.depth ≤ bound) : depthItems items ≤ bound := by
  induction items with
  | nil => exact Nat.zero_le bound
  | cons item rest ih =>
      rw [depthItems]
      apply Nat.max_le.mpr
      refine ⟨all item List.mem_cons_self, ih ?_⟩
      intro other mem
      exact all other (List.mem_cons_of_mem item mem)

/-! ## How texts begin -/

/-- A text that begins like a value. -/
def Opens (input : List Char) : Prop :=
  ∃ c tail, input = c :: tail ∧ isBlank c = false ∧ c ≠ ']'

theorem Opens.append {input : List Char} (opens : Opens input) (rest : List Char) :
    Opens (input ++ rest) := by
  rcases opens with ⟨c, tail, rfl, notBlank, notBracket⟩
  exact ⟨c, tail ++ rest, rfl, notBlank, notBracket⟩

theorem skipBlanks_cons {c : Char} (notBlank : isBlank c = false) (rest : List Char) :
    skipBlanks (c :: rest) = c :: rest := by
  simp [skipBlanks, notBlank]

theorem ne_of_isDigit {c other : Char} (figure : isDigit c = true)
    (notFigure : isDigit other = false) : c ≠ other := by
  rintro rfl
  rw [figure] at notFigure
  exact Bool.noConfusion notFigure

theorem isBlank_of_isDigit {c : Char} (figure : isDigit c = true) : isBlank c = false := by
  have notSpace := ne_of_isDigit figure (show isDigit ' ' = false by decide)
  have notNewline := ne_of_isDigit figure (show isDigit '\n' = false by decide)
  have notTab := ne_of_isDigit figure (show isDigit '\t' = false by decide)
  have notReturn := ne_of_isDigit figure (show isDigit '\r' = false by decide)
  simp [isBlank, notSpace, notNewline, notTab, notReturn]

theorem exists_digits (value : Nat) :
    ∃ c figures, digits value = c :: figures ∧ isDigit c = true := by
  cases front : digits value with
  | nil => exact absurd front Nat.toDigits_ne_nil
  | cons c figures => exact ⟨c, figures, rfl, isDigit_of_mem_digits (front ▸ List.mem_cons_self)⟩

theorem opens_chars {json : Json} (isExact : json.exact = true) : Opens json.chars := by
  cases json with
  | null => exact ⟨'n', _, rfl, by decide, by decide⟩
  | bool value =>
      cases value with
      | true => exact ⟨'t', _, rfl, by decide, by decide⟩
      | false => exact ⟨'f', _, rfl, by decide, by decide⟩
  | integer value =>
      cases value with
      | ofNat value =>
          rcases exists_digits value with ⟨c, figures, front, figure⟩
          exact ⟨c, figures, front, isBlank_of_isDigit figure, ne_of_isDigit figure (by decide)⟩
      | negSucc value => exact ⟨'-', _, rfl, by decide, by decide⟩
  | float value => simp [exact] at isExact
  | text value => exact ⟨'"', _, rfl, by decide, by decide⟩
  | array items => exact ⟨'[', _, rfl, by decide, by decide⟩
  | object fields => exact ⟨'\x7b', _, rfl, by decide, by decide⟩

/-- A value that begins with a digit is a number. -/
theorem value_of_isDigit (fuel depth : Nat) {c : Char} (figure : isDigit c = true)
    (rest : List Char) : value (fuel + 1) depth (c :: rest) = unsignedNumber false (c :: rest) := by
  rw [value, skipBlanks_cons (isBlank_of_isDigit figure)]
  split <;> rename_i same <;> cases same
  case h_9 => simp [figure]
  all_goals exact absurd figure (by decide)

/-! ## Scalars -/

theorem value_integerChars (fuel depth : Nat) {number : Int} (inRange : integral number = true)
    {rest : List Char} (closes : Closes rest) :
    value (fuel + 1) depth (integerChars number ++ rest) = .ok (.integer number, rest) := by
  rcases integral_iff.mp inRange with ⟨lower, upper⟩
  cases number with
  | ofNat number =>
      have bounded : number < significandBound := by
        rw [Int.ofNat_eq_natCast] at upper
        rw [significandBound_eq]
        omega
      rcases exists_digits number with ⟨c, figures, front, figure⟩
      have whole := unsignedNumber_digits closes false bounded
      simp only [integerChars, front, List.cons_append] at whole ⊢
      rw [value_of_isDigit fuel depth figure, whole]
      rfl
  | negSucc number =>
      have bounded : number + 1 < significandBound := by
        rw [significandBound_eq]
        omega
      have whole := unsignedNumber_digits closes true bounded
      rw [integer?_negative (Nat.succ_pos number) (by omega)] at whole
      simp only [integerChars, List.cons_append, value, @skipBlanks_cons '-' rfl]
      exact whole

theorem value_textChars (fuel depth : Nat) (string : String) (rest : List Char) :
    value (fuel + 1) depth (textChars string ++ rest) = .ok (.text string, rest) := by
  simp only [textChars, List.cons_append, List.append_assoc, List.nil_append, value,
    @skipBlanks_cons '"' rfl, stringBody_escapeAll]
  simp

/-! ## Arrays and objects -/

/-- Reading skips no blanks in front of what opens a value, and sees no closing bracket. -/
theorem value_array (fuel depth : Nat) {input : List Char} (opens : Opens input) :
    value (fuel + 1) (depth + 1) ('[' :: input) =
      match items fuel depth input with
      | .error error => .error error
      | .ok (items, rest) => .ok (.array items, rest) := by
  rcases opens with ⟨c, tail, rfl, notBlank, notBracket⟩
  simp only [value, @skipBlanks_cons '[' rfl, skipBlanks_cons notBlank]
  split
  · rename_i same
    cases same
    exact absurd rfl notBracket
  · rfl

theorem value_object (fuel depth : Nat) (input : List Char) :
    value (fuel + 1) (depth + 1) ('\x7b' :: '"' :: input) =
      match fields fuel depth ('"' :: input) with
      | .error error => .error error
      | .ok (fields, rest) => .ok (.object fields, rest) := by
  simp only [value, @skipBlanks_cons '\x7b' rfl,
    @skipBlanks_cons '"' rfl]
  rfl

theorem opens_charsItems {item : Json} (isExact : item.exact = true) (others : List Json) :
    Opens (charsItems (item :: others)) := by
  cases others with
  | nil => exact opens_chars isExact
  | cons next rest => exact (opens_chars isExact).append _

theorem charsFields_cons (field : String × Json) (others : List (String × Json)) :
    ∃ tail, charsFields (field :: others) = '"' :: tail := by
  cases others with
  | nil => exact ⟨_, rfl⟩
  | cons next rest => exact ⟨_, rfl⟩

/-- The last field of an object: its name is read back, and its value is in front of a brace. -/
theorem fields_last {fuel depth : Nat} {name : String} {json : Json} {input rest : List Char}
    (read : value fuel depth input = .ok (json, '\x7d' :: rest)) :
    fields (fuel + 1) depth (textChars name ++ ':' :: input) = .ok ([(name, json)], rest) := by
  simp only [textChars, List.cons_append, List.append_assoc, List.nil_append, fields,
    @skipBlanks_cons '"' rfl, stringBody_escapeAll, @skipBlanks_cons ':' rfl, read,
    @skipBlanks_cons '\x7d' rfl, String.ofList_toList]

theorem fields_more {fuel depth : Nat} {name : String} {json : Json}
    {others : List (String × Json)} {input next rest : List Char}
    (read : value fuel depth input = .ok (json, ',' :: next))
    (readOthers : fields fuel depth next = .ok (others, rest)) :
    fields (fuel + 1) depth (textChars name ++ ':' :: input) =
      .ok ((name, json) :: others, rest) := by
  simp only [textChars, List.cons_append, List.append_assoc, List.nil_append, fields,
    @skipBlanks_cons '"' rfl, stringBody_escapeAll, @skipBlanks_cons ':' rfl, read,
    @skipBlanks_cons ',' rfl, readOthers, String.ofList_toList]

/-- With enough fuel and depth a value is read back, whatever closes it. -/
def ReadsBack (json : Json) : Prop :=
  ∀ fuel depth rest, 2 * json.chars.length ≤ fuel → json.depth ≤ depth → Closes rest →
    value fuel depth (json.chars ++ rest) = .ok (json, rest)

/-- With enough fuel and depth the items of an array are read back up to behind its bracket. -/
def ItemsReadBack (list : List Json) : Prop :=
  ∀ fuel depth rest, 2 * (charsItems list).length + 1 ≤ fuel → depthItems list ≤ depth →
    items fuel depth (charsItems list ++ ']' :: rest) = .ok (list, rest)

/-- With enough fuel and depth the fields of an object are read back up to behind its brace. -/
def FieldsReadBack (list : List (String × Json)) : Prop :=
  ∀ fuel depth rest, 2 * (charsFields list).length + 1 ≤ fuel → depthFields list ≤ depth →
    fields fuel depth (charsFields list ++ '\x7d' :: rest) = .ok (list, rest)

/-- A scalar is read back if it is with any fuel. -/
theorem readsBack_of_value {json : Json} (nonempty : json.chars ≠ [])
    (back : ∀ fuel depth rest, Closes rest →
      value (fuel + 1) depth (json.chars ++ rest) = .ok (json, rest)) : ReadsBack json := by
  intro fuel depth rest enough _ closes
  have length := List.length_pos_iff.mpr nonempty
  rcases Nat.exists_eq_succ_of_ne_zero (show fuel ≠ 0 by omega) with ⟨fuel, rfl⟩
  exact back fuel depth rest closes

/-- An array or an object is read back if what it holds is, with less fuel and depth. -/
theorem readsBack_of_nested {json : Json} (nonempty : json.chars ≠ []) (nested : json.depth ≠ 0)
    (back : ∀ fuel depth rest, 2 * json.chars.length ≤ fuel + 1 → json.depth ≤ depth + 1 →
      value (fuel + 1) (depth + 1) (json.chars ++ rest) = .ok (json, rest)) : ReadsBack json := by
  intro fuel depth rest enough nests _
  have length := List.length_pos_iff.mpr nonempty
  rcases Nat.exists_eq_succ_of_ne_zero (show fuel ≠ 0 by omega) with ⟨fuel, rfl⟩
  rcases Nat.exists_eq_succ_of_ne_zero (show depth ≠ 0 by omega) with ⟨depth, rfl⟩
  exact back fuel depth rest enough nests

theorem ItemsReadBack.array {item : Json} {others : List Json} (isExact : item.exact = true)
    (back : ItemsReadBack (item :: others)) : ReadsBack (.array (item :: others)) := by
  apply readsBack_of_nested (by simp [chars]) (by simp [Json.depth])
  intro fuel depth rest enough nests
  simp only [chars, List.length_cons, List.length_append, List.length_nil] at enough
  simp only [Json.depth] at nests
  have whole := back fuel depth rest (by omega) (by omega)
  simp only [chars, List.cons_append, List.append_assoc, List.nil_append]
  rw [value_array fuel depth ((opens_charsItems isExact others).append _), whole]

theorem FieldsReadBack.object {field : String × Json} {others : List (String × Json)}
    (back : FieldsReadBack (field :: others)) : ReadsBack (.object (field :: others)) := by
  apply readsBack_of_nested (by simp [chars]) (by simp [Json.depth])
  intro fuel depth rest enough nests
  simp only [chars, List.length_cons, List.length_append, List.length_nil] at enough
  simp only [Json.depth] at nests
  have whole := back fuel depth rest (by omega) (by omega)
  rcases charsFields_cons field others with ⟨tail, front⟩
  simp only [chars, front, List.cons_append, List.append_assoc, List.nil_append] at whole ⊢
  rw [value_object, whole]

theorem ReadsBack.item {item : Json} (back : ReadsBack item) : ItemsReadBack [item] := by
  intro fuel depth rest enough nests
  simp only [charsItems] at enough ⊢
  simp only [depthItems] at nests
  rcases Nat.exists_eq_succ_of_ne_zero (show fuel ≠ 0 by omega) with ⟨fuel, rfl⟩
  have first := back fuel depth (']' :: rest) (by omega) (by omega) (Closes.bracket rest)
  simp only [items, first, @skipBlanks_cons ']' rfl]

theorem ItemsReadBack.cons {item next : Json} {others : List Json} (first : ReadsBack item)
    (back : ItemsReadBack (next :: others)) : ItemsReadBack (item :: next :: others) := by
  intro fuel depth rest enough nests
  rw [charsItems, List.length_append, List.length_cons] at enough
  rw [depthItems] at nests
  rcases Nat.exists_eq_succ_of_ne_zero (show fuel ≠ 0 by omega) with ⟨fuel, rfl⟩
  have head := first fuel depth (',' :: (charsItems (next :: others) ++ ']' :: rest)) (by omega)
    (by omega) (Closes.comma _)
  have whole := back fuel depth rest (by omega) (by omega)
  simp only [charsItems, List.append_assoc, List.cons_append] at head whole ⊢
  simp only [items, head, @skipBlanks_cons ',' rfl, whole]

theorem ReadsBack.field {json : Json} (back : ReadsBack json) (name : String) :
    FieldsReadBack [(name, json)] := by
  intro fuel depth rest enough nests
  simp only [charsFields, List.length_append, List.length_cons] at enough
  simp only [depthFields] at nests
  rcases Nat.exists_eq_succ_of_ne_zero (show fuel ≠ 0 by omega) with ⟨fuel, rfl⟩
  have first := back fuel depth ('\x7d' :: rest) (by omega) (by omega) (Closes.brace rest)
  simp only [charsFields, List.append_assoc, List.cons_append]
  exact fields_last first

theorem FieldsReadBack.cons {name : String} {json : Json} {next : String × Json}
    {others : List (String × Json)} (first : ReadsBack json)
    (back : FieldsReadBack (next :: others)) :
    FieldsReadBack ((name, json) :: next :: others) := by
  intro fuel depth rest enough nests
  rw [charsFields, List.length_append, List.length_cons, List.length_append,
    List.length_cons] at enough
  rw [depthFields] at nests
  rcases Nat.exists_eq_succ_of_ne_zero (show fuel ≠ 0 by omega) with ⟨fuel, rfl⟩
  have head := first fuel depth (',' :: (charsFields (next :: others) ++ '\x7d' :: rest))
    (by omega) (by omega) (Closes.comma _)
  have whole := back fuel depth rest (by omega) (by omega)
  rw [charsFields, List.append_assoc, List.cons_append, List.append_assoc, List.cons_append]
  exact fields_more head whole

mutual

/-- A value without doubles is read back from its text. -/
theorem readsBack : (json : Json) → json.exact = true → json.wellFormed = true → ReadsBack json
  | .null, _, _ => readsBack_of_value (by simp [chars]) fun _ _ _ _ => rfl
  | .bool true, _, _ => readsBack_of_value (by simp [chars]) fun _ _ _ _ => rfl
  | .bool false, _, _ => readsBack_of_value (by simp [chars]) fun _ _ _ _ => rfl
  | .integer number, isExact, inRange => by
      apply readsBack_of_value
      · rcases opens_chars isExact with ⟨_, _, front, -⟩
        simp [front]
      · intro fuel depth rest closes
        exact value_integerChars fuel depth inRange closes
  | .text string, _, _ => by
      apply readsBack_of_value
      · simp [chars, textChars]
      · intro fuel depth rest _
        exact value_textChars fuel depth string rest
  | .array [], _, _ =>
      readsBack_of_nested (by simp [chars]) (by simp [Json.depth]) fun _ _ _ _ _ => rfl
  | .array (item :: others), isExact, formed => by
      rw [exact] at isExact
      rw [wellFormed] at formed
      apply ItemsReadBack.array
      · rw [exactItems, Bool.and_eq_true] at isExact
        exact isExact.1
      · exact itemsReadBack (item :: others) isExact formed (List.cons_ne_nil item others)
  | .object [], _, _ =>
      readsBack_of_nested (by simp [chars]) (by simp [Json.depth]) fun _ _ _ _ _ => rfl
  | .object (field :: others), isExact, formed => by
      rw [exact] at isExact
      rw [wellFormed, Bool.and_eq_true] at formed
      apply FieldsReadBack.object
      exact fieldsReadBack (field :: others) isExact formed.2 (List.cons_ne_nil field others)

theorem itemsReadBack : (list : List Json) → exactItems list = true →
    wellFormedItems list = true → list ≠ [] → ItemsReadBack list
  | [], _, _, nonempty => absurd rfl nonempty
  | [item], isExact, formed, _ => by
      simp only [exactItems, Bool.and_true] at isExact
      simp only [wellFormedItems, Bool.and_true] at formed
      exact (readsBack item isExact formed).item
  | item :: next :: others, isExact, formed, _ => by
      rw [exactItems, Bool.and_eq_true] at isExact
      rw [wellFormedItems, Bool.and_eq_true] at formed
      apply ItemsReadBack.cons
      · exact readsBack item isExact.1 formed.1
      · exact itemsReadBack (next :: others) isExact.2 formed.2 (List.cons_ne_nil next others)

theorem fieldsReadBack : (list : List (String × Json)) → exactFields list = true →
    wellFormedFields list = true → list ≠ [] → FieldsReadBack list
  | [], _, _, nonempty => absurd rfl nonempty
  | [(name, json)], isExact, formed, _ => by
      simp only [exactFields, Bool.and_true] at isExact
      simp only [wellFormedFields, Bool.and_true] at formed
      exact (readsBack json isExact formed).field name
  | (_, json) :: next :: others, isExact, formed, _ => by
      rw [exactFields, Bool.and_eq_true] at isExact
      rw [wellFormedFields, Bool.and_eq_true] at formed
      apply FieldsReadBack.cons
      · exact readsBack json isExact.1 formed.1
      · exact fieldsReadBack (next :: others) isExact.2 formed.2 (List.cons_ne_nil next others)

end

/-! ## Whole texts -/

/-- A value that nests no deeper than the limit is read back from its text. -/
theorem parseChars_chars {json : Json} (isExact : json.exact = true)
    (formed : json.wellFormed = true) (nests : json.depth ≤ depthLimit) :
    parseChars json.chars = .ok json := by
  have whole := readsBack json isExact formed (2 * json.chars.length + 2) depthLimit [] (by omega)
    nests Closes.nil
  rw [List.append_nil] at whole
  rw [parseChars, whole]
  rfl

end Courier.Json

/-! ## Repeated fields -/

namespace Courier.Assoc

variable {α : Type}

theorem insert_of_notMem {entries : Assoc α} {name : String} (fresh : name ∉ keys entries)
    (value : α) : insert entries name value = entries ++ [(name, value)] := by
  induction entries with
  | nil => rfl
  | cons entry rest ih =>
      rcases entry with ⟨key, old⟩
      simp only [keys, List.map_cons, List.mem_cons, not_or] at fresh
      rw [insert, if_neg (Ne.symm fresh.1), ih fresh.2]
      rfl

theorem foldl_insert_of_distinct (pairs : List (String × α)) (entries : Assoc α)
    (distinct : Distinct (entries ++ pairs)) :
    pairs.foldl (fun entries entry => insert entries entry.1 entry.2) entries =
      entries ++ pairs := by
  induction pairs generalizing entries with
  | nil => exact (List.append_nil entries).symm
  | cons pair rest ih =>
      have fresh : pair.1 ∉ keys entries := by
        have disjoint := distinct
        rw [Distinct, keys, List.map_append, List.nodup_append] at disjoint
        intro mem
        exact disjoint.2.2 _ mem _ (List.mem_map_of_mem List.mem_cons_self) rfl
      rw [List.foldl_cons, insert_of_notMem fresh, ih]
      · simp
      · simpa using distinct

/-- Entries with different names are stored as they are. -/
theorem ofPairs_of_distinct {pairs : List (String × α)} (distinct : Distinct pairs) :
    ofPairs pairs = pairs :=
  foldl_insert_of_distinct pairs [] distinct

end Courier.Assoc

namespace Courier.Json

mutual

/-- A well-formed value has no repeated fields to collapse. -/
theorem collapse_of_wellFormed : (json : Json) → json.wellFormed = true → json.collapse = json
  | .null, _ => rfl
  | .bool _, _ => rfl
  | .integer _, _ => rfl
  | .float _, _ => rfl
  | .text _, _ => rfl
  | .array items, formed => by
      rw [wellFormed] at formed
      rw [collapse, collapseItems_of_wellFormed items formed]
  | .object fields, formed => by
      rw [wellFormed, Bool.and_eq_true, decide_eq_true_eq] at formed
      rw [collapse, collapseFields_of_wellFormed fields formed.2,
        Assoc.ofPairs_of_distinct formed.1]

theorem collapseItems_of_wellFormed : (items : List Json) → wellFormedItems items = true →
    collapseItems items = items
  | [], _ => rfl
  | item :: rest, formed => by
      rw [wellFormedItems, Bool.and_eq_true] at formed
      rw [collapseItems, collapse_of_wellFormed item formed.1,
        collapseItems_of_wellFormed rest formed.2]

theorem collapseFields_of_wellFormed : (fields : List (String × Json)) →
    wellFormedFields fields = true → collapseFields fields = fields
  | [], _ => rfl
  | (name, value) :: rest, formed => by
      rw [wellFormedFields, Bool.and_eq_true] at formed
      rw [collapseFields, collapse_of_wellFormed value formed.1,
        collapseFields_of_wellFormed rest formed.2]

end

/-- A well-formed value without doubles that nests no deeper than the limit is the value of its
text. -/
theorem parse_render {json : Json} (isExact : json.exact = true) (formed : json.wellFormed = true)
    (nests : json.depth ≤ depthLimit) : parse json.render = .ok json := by
  rw [parse, parseAll, render, String.toList_ofList, parseChars_chars isExact formed nests]
  exact congrArg Except.ok (collapse_of_wellFormed json formed)

end Courier.Json

/-- A message is read back from its text. -/
theorem Courier.Message.ofText_text {message : Message} (isExact : message.toJson.exact = true)
    (formed : message.toJson.wellFormed = true)
    (nests : message.toJson.depth ≤ Json.depthLimit) :
    ofText message.text = .ok message := by
  rw [ofText, text, Json.parse_render isExact formed nests]
  rfl
