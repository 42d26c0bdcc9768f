import Courier.Proofs.Socket.Multiplex
import Mathlib.Data.List.Perm.Subperm

/-!
# Entries by number and by key

Lists in which an entry is replaced in its place, lists that have grown by a last entry, and lists of
entries with keys of which one knows the parts under each key.
-/

namespace Courier

open Socket (under)

/-! ## Entries that are replaced -/

section Replaced

variable {α β : Type} {entries : List α} {number : Nat} {old new : α}

theorem getElem?_set_cases {other : Nat} {found : α}
    (there : (entries.set number new)[other]? = some found) :
    other = number ∧ found = new ∨ other ≠ number ∧ entries[other]? = some found := by
  by_cases same : number = other
  · subst same
    rw [List.getElem?_set_self'] at there
    rcases Option.map_eq_some_iff.mp there with ⟨_, _, rfl⟩
    exact Or.inl ⟨rfl, rfl⟩
  · rw [List.getElem?_set_ne same] at there
    exact Or.inr ⟨Ne.symm same, there⟩

theorem filterMap_set (found : entries[number]? = some old) {part : α → Option β}
    (same : part new = part old) :
    (entries.set number new).filterMap part = entries.filterMap part := by
  induction entries generalizing number with
  | nil => rfl
  | cons entry rest ih =>
      cases number with
      | zero =>
          cases found
          simp [List.filterMap_cons, same]
      | succ number =>
          rw [List.getElem?_cons_succ] at found
          simp [List.filterMap_cons, ih found]

theorem countP_set_add (found : entries[number]? = some old) (test : α → Bool) :
    (entries.set number new).countP test + (if test old then 1 else 0) =
      entries.countP test + if test new then 1 else 0 := by
  rcases List.getElem?_eq_some_iff.mp found with ⟨bound, isOld⟩
  have counted := @List.boole_getElem_le_countP _ test entries number bound
  rw [isOld] at counted
  rw [List.countP_set bound, isOld]
  omega

end Replaced

/-! ## Lists with a last entry -/

/-- A list with a last entry is split before the last entry or at it. -/
theorem concat_eq_append_cons_cases {α : Type} {entries earlier later : List α} {last entry : α}
    (split : entries ++ [last] = earlier ++ entry :: later) :
    later = [] ∧ entry = last ∨
      ∃ rest, later = rest ++ [last] ∧ entries = earlier ++ entry :: rest := by
  rcases List.eq_nil_or_concat' later with rfl | ⟨rest, final, rfl⟩
  · exact Or.inl ⟨rfl, (List.singleton_inj.mp (List.append_inj' split rfl).2).symm⟩
  · rw [← List.cons_append, ← List.append_assoc] at split
    rcases List.append_inj' split rfl with ⟨same, isLast⟩
    rw [List.singleton_inj.mp isLast]
    exact Or.inr ⟨rest, rfl, same⟩

/-! ## Entries by number and by key -/

theorem filterMap_range {α : Type} (entries : List α) :
    (List.range entries.length).filterMap (fun number => entries[number]?) = entries := by
  induction entries with
  | nil => rfl
  | cons entry rest ih =>
      rw [List.length_cons, List.range_succ_eq_map, List.filterMap_cons]
      simpa [List.filterMap_map, Function.comp_def] using ih

/-- Lists that are sublists under every key are so altogether, up to the order. -/
theorem subperm_of_under {κ α : Type} [DecidableEq κ] {first second : List (κ × α)}
    (parts : ∀ key, (under key first).Sublist (under key second)) : first.Subperm second := by
  classical
  have counted : ∀ (entries : List (κ × α)) key value,
      entries.count (key, value) = (under key entries).count value := by
    intro entries key value
    induction entries with
    | nil => rfl
    | cons entry rest ih =>
        rcases entry with ⟨other, held⟩
        by_cases same : other = key
        · subst same
          simp_all [under, List.count_cons]
        · simp_all [under]
  rw [List.subperm_ext_iff]
  rintro ⟨key, value⟩ _
  rw [counted, counted]
  exact (parts key).count_le value

end Courier
