import Courier.Proofs.Json.Plain

/-!
# How deep values may nest

Arrays and objects are read as long as the depth that is left allows for one more. So a value that
nests too deep is refused where its first branch passes the limit: whatever stands in front of that
branch is read back as usual, and what stands behind it is never looked at. Together with reading
back this says which texts of messages can be read at all.
-/

namespace Courier.Json

/-- With enough fuel a value that nests deeper than is allowed is refused for that. -/
def Refused (json : Json) : Prop :=
  ∀ fuel depth rest, 2 * json.chars.length ≤ fuel → depth < json.depth →
    value fuel depth (json.chars ++ rest) = .error .tooDeep

/-- With enough fuel the items of an array are refused if one of them nests too deep. -/
def ItemsRefused (list : List Json) : Prop :=
  ∀ fuel depth rest, 2 * (charsItems list).length + 1 ≤ fuel → depth < depthItems list →
    items fuel depth (charsItems list ++ ']' :: rest) = .error .tooDeep

/-- With enough fuel the fields of an object are refused if one of them nests too deep. -/
def FieldsRefused (list : List (String × Json)) : Prop :=
  ∀ fuel depth rest, 2 * (charsFields list).length + 1 ≤ fuel → depth < depthFields list →
    fields fuel depth (charsFields list ++ '\x7d' :: rest) = .error .tooDeep

/-! ## Arrays and objects -/

theorem refused_of_scalar {json : Json} (flat : json.depth = 0) : Refused json := by
  intro fuel depth rest _ deep
  omega

theorem value_bracket_atLimit (fuel : Nat) (rest : List Char) :
    value (fuel + 1) 0 ('[' :: rest) = .error .tooDeep := by
  simp only [value, @skipBlanks_cons '[' rfl]

theorem value_brace_atLimit (fuel : Nat) (rest : List Char) :
    value (fuel + 1) 0 ('\x7b' :: rest) = .error .tooDeep := by
  simp only [value, @skipBlanks_cons '\x7b' rfl]

theorem refused_of_bracket {json : Json} {opening : Char} {tail : List Char}
    (front : json.chars = opening :: tail)
    (atLimit : ∀ fuel rest, value (fuel + 1) 0 (opening :: rest) = .error .tooDeep)
    (inside : ∀ fuel depth rest, 2 * tail.length + 1 ≤ fuel → depth + 1 < json.depth →
      value (fuel + 1) (depth + 1) (opening :: tail ++ rest) = .error .tooDeep) :
    Refused json := by
  intro fuel depth rest enough deep
  simp only [front, List.length_cons] at enough ⊢
  rcases Nat.exists_eq_succ_of_ne_zero (show fuel ≠ 0 by omega) with ⟨fuel, rfl⟩
  cases depth with
  | zero => exact atLimit fuel (tail ++ rest)
  | succ depth =>
      apply inside
      · omega
      · exact deep

theorem ItemsRefused.array {item : Json} {others : List Json} (isExact : item.exact = true)
    (refused : ItemsRefused (item :: others)) : Refused (.array (item :: others)) := by
  apply refused_of_bracket (by rw [chars]) value_bracket_atLimit
  intro fuel depth rest enough deep
  simp only [List.length_append, List.length_singleton] at enough
  simp only [Json.depth] at deep
  have whole := refused fuel depth rest (by omega) (by omega)
  simp only [List.cons_append, List.append_assoc, List.nil_append]
  rw [value_array fuel depth ((opens_charsItems isExact others).append _), whole]

theorem FieldsRefused.object {field : String × Json} {others : List (String × Json)}
    (refused : FieldsRefused (field :: others)) : Refused (.object (field :: others)) := by
  apply refused_of_bracket (by rw [chars]) value_brace_atLimit
  intro fuel depth rest enough deep
  simp only [List.length_append, List.length_singleton] at enough
  simp only [Json.depth] at deep
  have whole := refused fuel depth rest (by omega) (by omega)
  rcases charsFields_cons field others with ⟨tail, front⟩
  simp only [front, List.cons_append, List.append_assoc, List.nil_append] at whole ⊢
  rw [value_object, whole]

theorem refused_emptyArray : Refused (.array []) := by
  apply refused_of_bracket (by rw [chars]) value_bracket_atLimit
  intro fuel depth rest _ deep
  simp only [Json.depth, depthItems] at deep
  omega

theorem refused_emptyObject : Refused (.object []) := by
  apply refused_of_bracket (by rw [chars]) value_brace_atLimit
  intro fuel depth rest _ deep
  simp only [Json.depth, depthFields] at deep
  omega

/-! ## Items and fields -/

theorem items_refused {fuel depth : Nat} {input : List Char}
    (refused : value fuel depth input = .error .tooDeep) :
    items (fuel + 1) depth input = .error .tooDeep := by
  simp only [items, refused]

theorem fields_refused {fuel depth : Nat} {name : String} {input : List Char}
    (refused : value fuel depth input = .error .tooDeep) :
    fields (fuel + 1) depth (textChars name ++ ':' :: input) = .error .tooDeep := by
  simp only [textChars, List.cons_append, List.append_assoc, List.nil_append, fields,
    @skipBlanks_cons '"' rfl, stringBody_escapeAll, @skipBlanks_cons ':' rfl, refused]

theorem Refused.item {item : Json} (refused : Refused item) : ItemsRefused [item] := by
  intro fuel depth rest enough deep
  simp only [charsItems] at enough ⊢
  simp only [depthItems] at deep
  rcases Nat.exists_eq_succ_of_ne_zero (show fuel ≠ 0 by omega) with ⟨fuel, rfl⟩
  apply items_refused
  apply refused
  · omega
  · omega

theorem ItemsRefused.cons {item next : Json} {others : List Json} (first : ReadsBack item)
    (firstRefused : Refused item) (refused : ItemsRefused (next :: others)) :
    ItemsRefused (item :: next :: others) := by
  intro fuel depth rest enough deep
  rw [charsItems, List.length_append, List.length_cons] at enough
  rw [depthItems] at deep
  rcases Nat.exists_eq_succ_of_ne_zero (show fuel ≠ 0 by omega) with ⟨fuel, rfl⟩
  simp only [charsItems, List.append_assoc, List.cons_append]
  by_cases nests : item.depth ≤ depth
  · -- the first item is read back, so it is one of the others that nests too deep
    have head := first fuel depth (',' :: (charsItems (next :: others) ++ ']' :: rest)) (by omega)
      nests (Closes.comma _)
    have whole := refused fuel depth rest (by omega) (by omega)
    simp only [items, head, @skipBlanks_cons ',' rfl, whole]
  · apply items_refused
    apply firstRefused
    · omega
    · omega

theorem Refused.field {json : Json} (refused : Refused json) (name : String) :
    FieldsRefused [(name, json)] := by
  intro fuel depth rest enough deep
  simp only [charsFields, List.length_append, List.length_cons] at enough
  simp only [depthFields] at deep
  rcases Nat.exists_eq_succ_of_ne_zero (show fuel ≠ 0 by omega) with ⟨fuel, rfl⟩
  simp only [charsFields, List.append_assoc, List.cons_append]
  apply fields_refused
  apply refused
  · omega
  · omega

theorem FieldsRefused.cons {name : String} {json : Json} {next : String × Json}
    {others : List (String × Json)} (first : ReadsBack json) (firstRefused : Refused json)
    (refused : FieldsRefused (next :: others)) :
    FieldsRefused ((name, json) :: next :: others) := by
  intro fuel depth rest enough deep
  rw [charsFields, List.length_append, List.length_cons, List.length_append,
    List.length_cons] at enough
  rw [depthFields] at deep
  rcases Nat.exists_eq_succ_of_ne_zero (show fuel ≠ 0 by omega) with ⟨fuel, rfl⟩
  rw [charsFields, List.append_assoc, List.cons_append, List.append_assoc, List.cons_append]
  by_cases nests : json.depth ≤ depth
  · have head := first fuel depth (',' :: (charsFields (next :: others) ++ '\x7d' :: rest))
      (by omega) nests (Closes.comma _)
    have whole := refused fuel depth rest (by omega) (by omega)
    simp only [textChars, List.cons_append, List.append_assoc, List.nil_append, fields,
      @skipBlanks_cons '"' rfl, stringBody_escapeAll, @skipBlanks_cons ':' rfl, head,
      @skipBlanks_cons ',' rfl, whole]
  · apply fields_refused
    apply firstRefused
    · omega
    · omega

mutual

/-- A value without doubles is refused where it nests deeper than is allowed. -/
theorem refused : (json : Json) → json.exact = true → json.wellFormed = true → Refused json
  | .null, _, _ => refused_of_scalar rfl
  | .bool _, _, _ => refused_of_scalar rfl
  | .integer _, _, _ => refused_of_scalar rfl
  | .float _, _, _ => refused_of_scalar rfl
  | .text _, _, _ => refused_of_scalar rfl
  | .array [], _, _ => refused_emptyArray
  | .array (item :: others), isExact, formed => by
      rw [exact] at isExact
      rw [wellFormed] at formed
      apply ItemsRefused.array
      · rw [exactItems, Bool.and_eq_true] at isExact
        exact isExact.1
      · exact itemsRefused (item :: others) isExact formed (List.cons_ne_nil item others)
  | .object [], _, _ => refused_emptyObject
  | .object (field :: others), isExact, formed => by
      rw [exact] at isExact
      rw [wellFormed, Bool.and_eq_true] at formed
      apply FieldsRefused.object
      exact fieldsRefused (field :: others) isExact formed.2 (List.cons_ne_nil field others)

theorem itemsRefused : (list : List Json) → exactItems list = true →
    wellFormedItems list = true → list ≠ [] → ItemsRefused list
  | [], _, _, nonempty => absurd rfl nonempty
  | [item], isExact, formed, _ => by
      simp only [exactItems, Bool.and_true] at isExact
      simp only [wellFormedItems, Bool.and_true] at formed
      exact (refused item isExact formed).item
  | item :: next :: others, isExact, formed, _ => by
      rw [exactItems, Bool.and_eq_true] at isExact
      rw [wellFormedItems, Bool.and_eq_true] at formed
      apply ItemsRefused.cons
      · exact readsBack item isExact.1 formed.1
      · exact refused item isExact.1 formed.1
      · exact itemsRefused (next :: others) isExact.2 formed.2 (List.cons_ne_nil next others)

theorem fieldsRefused : (list : List (String × Json)) → exactFields list = true →
    wellFormedFields list = true → list ≠ [] → FieldsRefused list
  | [], _, _, nonempty => absurd rfl nonempty
  | [(name, json)], isExact, formed, _ => by
      simp only [exactFields, Bool.and_true] at isExact
      simp only [wellFormedFields, Bool.and_true] at formed
      exact (refused json isExact formed).field name
  | (_, json) :: next :: others, isExact, formed, _ => by
      rw [exactFields, Bool.and_eq_true] at isExact
      rw [wellFormedFields, Bool.and_eq_true] at formed
      apply FieldsRefused.cons
      · exact readsBack json isExact.1 formed.1
      · exact refused json isExact.1 formed.1
      · exact fieldsRefused (next :: others) isExact.2 formed.2 (List.cons_ne_nil next others)

end

/-! ## Whole texts -/

theorem parse_render_tooDeep {json : Json} (isExact : json.exact = true)
    (formed : json.wellFormed = true) (deep : depthLimit < json.depth) :
    parse json.render = .error .tooDeep := by
  have whole := refused json isExact formed (2 * json.chars.length + 2) depthLimit [] (by omega)
    deep
  simp only [List.append_nil] at whole
  simp only [parse, parseAll, render, String.toList_ofList, parseChars, whole]
  rfl

end Courier.Json

namespace Courier.Message

/-- The text of a message whose numbers are integers in range can be read exactly if its arrays and
objects, the message itself among them, nest at most 127 deep; and what is read is then the message,
with the fields of every object in their order. -/
theorem text_lossless_iff_nests {message : Message} (isExact : message.toJson.exact = true)
    (formed : message.toJson.wellFormed = true) :
    ((∃ read, ofText message.text = .ok read) ↔ message.toJson.depth ≤ 127) ∧
      ∀ read, ofText message.text = .ok read → read = message := by
  by_cases nests : message.toJson.depth ≤ Json.depthLimit
  · have back := ofText_text isExact formed nests
    refine ⟨⟨fun _ => nests, fun _ => ⟨message, back⟩⟩, ?_⟩
    intro read isRead
    rw [back] at isRead
    exact (Except.ok.inj isRead).symm
  · have refused := Json.parse_render_tooDeep isExact formed (Nat.lt_of_not_le nests)
    have unread : ∀ read, ofText message.text ≠ .ok read := by
      intro read isRead
      simp only [ofText, text, refused] at isRead
      cases isRead
    refine ⟨⟨?_, fun nested => absurd nested nests⟩, ?_⟩
    · rintro ⟨read, isRead⟩
      exact absurd isRead (unread read)
    · intro read isRead
      exact absurd isRead (unread read)

/-- Arrays within one another, so many besides the outermost. -/
def brackets : Nat → Json
  | 0 => .array []
  | inner + 1 => .array [brackets inner]

theorem plain_brackets (inner : Nat) : Json.Plain (inner + 1) (brackets inner) := by
  induction inner with
  | zero => exact ⟨rfl, rfl, Nat.le_refl 1⟩
  | succ inner ih =>
      apply Json.plain_array
      intro item mem
      rw [List.mem_singleton.mp mem]
      exact ih

theorem depth_brackets (inner : Nat) : (brackets inner).depth = inner + 1 := by
  induction inner with
  | zero => rfl
  | succ inner ih => simp [brackets, Json.depth, Json.depthItems, ih]

/-- A message with its names out of order, the greatest and the least number, and brackets. -/
def bracketed (inner : Nat) : Message :=
  ⟨[("zeta", .integer 18446744073709551615), ("alpha", .integer (-9223372036854775808)),
    ("mid \"☃\"\n", brackets inner)]⟩

theorem text_lossless_iff_nests_bracketed :
    (bracketed 125).toJson.exact = true ∧ (bracketed 125).toJson.wellFormed = true ∧
      (bracketed 126).toJson.exact = true ∧ (bracketed 126).toJson.wellFormed = true ∧
      ofText (bracketed 125).text = .ok (bracketed 125) ∧
      ∀ read, ofText (bracketed 126).text ≠ .ok read := by
  have isExact : ∀ inner, (bracketed inner).toJson.exact = true := by
    intro inner
    simp [bracketed, toJson, Json.exact, Json.exactFields, (plain_brackets inner).exact]
  have formed : ∀ inner, (bracketed inner).toJson.wellFormed = true := by
    intro inner
    simp [bracketed, toJson, Json.wellFormed, Json.wellFormedFields, Json.integral_iff,
      Assoc.Distinct, Assoc.keys, (plain_brackets inner).formed]
  have depth : ∀ inner, (bracketed inner).toJson.depth = inner + 2 := by
    intro inner
    simp [bracketed, toJson, Json.depth, Json.depthFields, depth_brackets]
  refine ⟨isExact 125, formed 125, isExact 126, formed 126, ?_, ?_⟩
  · have lossless := text_lossless_iff_nests (isExact 125) (formed 125)
    rcases lossless.1.mpr (by simp [depth]) with ⟨read, isRead⟩
    rw [isRead, lossless.2 read isRead]
  · intro read isRead
    have nests := (text_lossless_iff_nests (isExact 126) (formed 126)).1.mp ⟨read, isRead⟩
    simp [depth] at nests

end Courier.Message
