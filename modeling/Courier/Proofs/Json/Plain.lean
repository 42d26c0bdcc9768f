import Courier.Proofs.Json.RoundTrip

/-!
# Plain values

What payloads are written as: no doubles, no repeated fields, integers in range, and only a few
levels deep. A message of plain values is read back from its text.
-/

namespace Courier

namespace Json

/-- A value that is read back from its text, with a bound on how deep it nests. -/
structure Plain (bound : Nat) (json : Json) : Prop where
  exact : json.exact = true
  formed : json.wellFormed = true
  nests : json.depth ≤ bound

variable {bound : Nat}

theorem Plain.mono {json : Json} (plain : Plain bound json) {larger : Nat} (le : bound ≤ larger) :
    Plain larger json :=
  ⟨plain.exact, plain.formed, Nat.le_trans plain.nests le⟩

theorem plain_text (value : String) : Plain bound (.text value) :=
  ⟨rfl, rfl, Nat.zero_le bound⟩

theorem plain_bool (value : Bool) : Plain bound (.bool value) :=
  ⟨rfl, rfl, Nat.zero_le bound⟩

/-- Numbers of sixty-four bits are plain. -/
theorem plain_word {value : Nat} (small : value < Nat.pow 2 64) : Plain bound (.natural value) := by
  refine ⟨rfl, ?_, Nat.zero_le bound⟩
  have inRange : integral (value : Int) = true := by
    rw [integral_iff]
    exact ⟨by omega, Int.ofNat_lt.mpr small⟩
  simpa [natural, wellFormed] using inRange

theorem plain_natural {value : Nat} (small : value < 65536) : Plain bound (.natural value) :=
  plain_word (Nat.lt_trans small (by decide))

theorem plain_array {items : List Json} (plain : ∀ item ∈ items, Plain bound item) :
    Plain (bound + 1) (.array items) := by
  refine ⟨?_, ?_, ?_⟩
  · apply exactItems_of_forall
    intro item mem
    exact (plain item mem).exact
  · apply wellFormedItems_of_forall
    intro item mem
    exact (plain item mem).formed
  · apply Nat.succ_le_succ
    apply depthItems_le_of_forall
    intro item mem
    exact (plain item mem).nests

theorem plain_object {fields : List (String × Json)} (distinct : Assoc.Distinct fields)
    (plain : ∀ field ∈ fields, Plain bound field.2) : Plain (bound + 1) (.object fields) := by
  have inside : exactFields fields = true ∧ wellFormedFields fields = true ∧
      depthFields fields ≤ bound := by
    clear distinct
    induction fields with
    | nil => exact ⟨rfl, rfl, Nat.zero_le bound⟩
    | cons field rest ih =>
        rcases field with ⟨name, value⟩
        rcases ih fun other mem => plain other (List.mem_cons_of_mem _ mem) with
          ⟨isExact, formed, nests⟩
        have first := plain (name, value) List.mem_cons_self
        refine ⟨?_, ?_, ?_⟩
        · simp [exactFields, first.exact, isExact]
        · simp [wellFormedFields, first.formed, formed]
        · exact Nat.max_le.mpr ⟨first.nests, nests⟩
  refine ⟨?_, ?_, ?_⟩
  · exact inside.1
  · simp [wellFormed, distinct, inside.2.1]
  · exact Nat.succ_le_succ inside.2.2

/-- A plain value is read back from its text. -/
theorem parseAll_render {json : Json} (plain : Plain depthLimit json) :
    parseAll json.render = .ok json := by
  rw [parseAll, render, String.toList_ofList]
  exact parseChars_chars plain.exact plain.formed plain.nests

end Json

theorem Message.ofText_text_of_plain {message : Message}
    (plain : Json.Plain Json.depthLimit message.toJson) : ofText message.text = .ok message :=
  ofText_text plain.exact plain.formed plain.nests

end Courier
