/-!
# Results that depend on others

A result that is computed from another one is there only if the other one is.
-/

namespace Courier

variable {ε α β : Type} {first : Except ε α} {next : α → Except ε β} {result : β}

theorem bind_eq_ok_iff :
    (first >>= next) = .ok result ↔ ∃ value, first = .ok value ∧ next value = .ok result := by
  cases first with
  | error error => exact iff_of_false nofun nofun
  | ok value =>
      constructor
      · intro bound
        exact ⟨value, rfl, bound⟩
      · rintro ⟨_, ⟨⟩, bound⟩
        exact bound

theorem map_eq_ok_iff {f : α → β} :
    first.map f = .ok result ↔ ∃ value, first = .ok value ∧ f value = result := by
  cases first <;> simp [Except.map]

/-- Where one result leads to another one that is there, it is there itself. -/
theorem eq_ok_of_bind (bound : (first >>= next) = .ok result) :
    ∃ value, first = .ok value ∧ next value = .ok result :=
  bind_eq_ok_iff.mp bound

end Courier
