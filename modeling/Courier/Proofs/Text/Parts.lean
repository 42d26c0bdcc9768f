/-!
# Parts between separators

A list is cut at its separators one element after another. What is joined from parts without
separators is cut into these parts again.
-/

namespace Courier

variable {α : Type}

/-- A function that begins a new part at each separator, and puts any other element to the front of
the first part, cuts at the separators. -/
theorem eq_splitOn [BEq α] [LawfulBEq α] {separator : α} {cut : List α → List (List α)}
    (ends : cut [] = [[]]) (stops : ∀ rest, cut (separator :: rest) = [] :: cut rest)
    (goesOn : ∀ {first rest part parts}, first ≠ separator → cut rest = part :: parts →
      cut (first :: rest) = (first :: part) :: parts)
    (input : List α) : cut input = input.splitOn separator := by
  induction input with
  | nil => exact ends
  | cons first rest ih =>
      rw [List.splitOn_cons_eq_if_modifyHead]
      split
      case isTrue same =>
          rw [eq_of_beq same, stops, ih]
      case isFalse differ =>
          cases divided : rest.splitOn separator with
          | nil => exact absurd divided (List.splitOn_ne_nil separator rest)
          | cons part parts =>
              rw [divided] at ih
              exact goesOn (fun same => differ (beq_iff_eq.mpr same)) ih

/-- What holds of the separators and of all elements of the parts holds of what is joined. -/
theorem forall_mem_intercalate {separator : List α} {parts : List (List α)} {holds : α → Prop}
    (separates : ∀ element ∈ separator, holds element)
    (inParts : ∀ part ∈ parts, ∀ element ∈ part, holds element) :
    ∀ element ∈ List.intercalate separator parts, holds element := by
  induction parts with
  | nil => exact nofun
  | cons first rest ih =>
      have others := ih fun part mem => inParts part (List.mem_cons_of_mem first mem)
      have inFirst := inParts first List.mem_cons_self
      cases rest with
      | nil => simpa using inFirst
      | cons next rest =>
          rw [List.intercalate_cons_cons]
          intro element mem
          rcases List.mem_append.mp mem with early | late
          · rcases List.mem_append.mp early with inFront | between
            · exact inFirst element inFront
            · exact separates element between
          · exact others element late

end Courier
