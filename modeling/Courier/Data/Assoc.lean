/-!
# Ordered associations

A list of named entries that keeps the order in which names first appeared. Storing under a name
that is present replaces its entry in place; `swapRemove` moves the last entry into the gap it
leaves, while `erase` closes the gap.
-/

namespace Courier

universe u

/-- Named entries, in the order in which their names were first stored. -/
abbrev Assoc (α : Type u) := List (String × α)

namespace Assoc

variable {α : Type u}

/-- The names, in order. -/
def keys (entries : Assoc α) : List String :=
  entries.map Prod.fst

def Distinct (entries : Assoc α) : Prop :=
  entries.keys.Nodup

instance (entries : Assoc α) : Decidable entries.Distinct :=
  inferInstanceAs (Decidable (List.Nodup _))

def find? (entries : Assoc α) (name : String) : Option α :=
  match entries with
  | [] => none
  | (key, value) :: rest => if key = name then some value else find? rest name

def has (entries : Assoc α) (name : String) : Bool :=
  (entries.find? name).isSome

/-- Stores a value: in the place of the entry of that name if there is one, else at the end. -/
def insert (entries : Assoc α) (name : String) (value : α) : Assoc α :=
  match entries with
  | [] => [(name, value)]
  | (key, old) :: rest =>
      if key = name then (key, value) :: rest else (key, old) :: insert rest name value

/-- Removes the entry of a name; the entries behind it keep their order. -/
def erase (entries : Assoc α) (name : String) : Assoc α :=
  entries.filter fun entry => entry.1 ≠ name

/-- Removes the entry of a name; the last entry takes its place. -/
def swapRemove (entries : Assoc α) (name : String) : Assoc α :=
  match entries with
  | [] => []
  | (key, value) :: rest =>
      if key = name then
        match rest.getLast? with
        | none => []
        | some last => last :: rest.dropLast
      else (key, value) :: swapRemove rest name

/-- Stores entries one after another, so that a repeated name keeps its first place and its last
value. -/
def ofPairs (pairs : List (String × α)) : Assoc α :=
  pairs.foldl (fun entries entry => insert entries entry.1 entry.2) []

@[simp] theorem find?_nil (name : String) : find? ([] : Assoc α) name = none := rfl

theorem find?_cons (key name : String) (value : α) (rest : Assoc α) :
    find? ((key, value) :: rest) name = if key = name then some value else find? rest name := rfl

theorem mem_of_find? {entries : Assoc α} {name : String} {value : α}
    (found : entries.find? name = some value) : (name, value) ∈ entries := by
  induction entries with
  | nil => cases found
  | cons entry rest ih =>
    obtain ⟨key, stored⟩ := entry
    rw [find?_cons] at found
    split at found
    · rename_i same
      cases found
      rw [same]
      exact List.mem_cons_self
    · exact List.mem_cons_of_mem _ (ih found)

@[simp] theorem find?_insert_self (entries : Assoc α) (name : String) (value : α) :
    (entries.insert name value).find? name = some value := by
  induction entries with
  | nil => simp [insert, find?]
  | cons entry rest ih =>
    obtain ⟨key, old⟩ := entry
    by_cases same : key = name <;> simp [insert, find?, same, ih]

theorem find?_insert_of_ne {name other : String} (entries : Assoc α) (value : α)
    (differ : other ≠ name) : (entries.insert name value).find? other = entries.find? other := by
  induction entries with
  | nil => simp [insert, find?, Ne.symm differ]
  | cons entry rest ih =>
    obtain ⟨key, old⟩ := entry
    by_cases same : key = name
    · simp [insert, find?, same, Ne.symm differ]
    · simp [insert, find?, same, ih]

/-- After a name is erased it is not found. -/
@[simp] theorem find?_erase_self (entries : Assoc α) (name : String) :
    (entries.erase name).find? name = none := by
  induction entries with
  | nil => rfl
  | cons entry rest ih =>
    obtain ⟨key, old⟩ := entry
    by_cases same : key = name
    · simpa [erase, same] using ih
    · simpa [erase, same, find?] using ih

theorem find?_erase_of_ne {name other : String} (entries : Assoc α) (differ : other ≠ name) :
    (entries.erase name).find? other = entries.find? other := by
  induction entries with
  | nil => rfl
  | cons entry rest ih =>
    obtain ⟨key, old⟩ := entry
    by_cases same : key = name
    · subst same
      simpa [erase, find?, Ne.symm differ] using ih
    · by_cases hit : key = other
      · simp [erase, find?, hit, differ]
      · simpa [erase, find?, same, hit] using ih

/-- What is found after storing was stored just now, or before under another name. -/
theorem find?_insert_cases {entries : Assoc α} {name other : String} {value stored : α}
    (found : (entries.insert name value).find? other = some stored) :
    (other = name ∧ stored = value) ∨ (other ≠ name ∧ entries.find? other = some stored) := by
  by_cases same : other = name
  · subst same
    rw [find?_insert_self] at found
    exact Or.inl ⟨rfl, (Option.some.inj found).symm⟩
  · rw [find?_insert_of_ne _ _ same] at found
    exact Or.inr ⟨same, found⟩

theorem find?_of_find?_erase {entries : Assoc α} {name other : String} {stored : α}
    (found : (entries.erase name).find? other = some stored) :
    other ≠ name ∧ entries.find? other = some stored := by
  by_cases same : other = name
  · subst same
    rw [find?_erase_self] at found
    cases found
  · rw [find?_erase_of_ne _ same] at found
    exact ⟨same, found⟩

end Assoc

end Courier
