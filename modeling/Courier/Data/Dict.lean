import Courier.Data.Assoc

/-!
# Sorted dictionaries

A finite map from names to values with its entries in strictly increasing order of name, so that
two dictionaries with the same entries are equal.
-/

namespace Courier

/-- A map from names to values, its entries sorted by name. -/
structure Dict (α : Type) where
  entries : Assoc α
  sorted : entries.Pairwise (fun left right => left.1 < right.1)

namespace Dict

variable {α : Type}

/-- Dictionaries with the same entries are equal. -/
@[ext] theorem ext {left right : Dict α} (same : left.entries = right.entries) : left = right := by
  cases left; cases right; cases same; rfl

instance [DecidableEq α] : DecidableEq (Dict α) := fun left right =>
  decidable_of_iff (left.entries = right.entries) ⟨ext, fun same => same ▸ rfl⟩

/-- The dictionary without entries. -/
def empty : Dict α := ⟨[], .nil⟩

instance : Inhabited (Dict α) := ⟨empty⟩

/-- Puts an entry in its place among sorted entries, replacing one of the same name. -/
def place (name : String) (value : α) : Assoc α → Assoc α
  | [] => [(name, value)]
  | (key, old) :: rest =>
      if name < key then (name, value) :: (key, old) :: rest
      else if key = name then (name, value) :: rest
      else (key, old) :: place name value rest

theorem mem_place {name : String} {value : α} {entries : Assoc α} {entry : String × α}
    (member : entry ∈ place name value entries) : entry = (name, value) ∨ entry ∈ entries := by
  induction entries with
  | nil => simpa [place] using member
  | cons head rest ih =>
    obtain ⟨key, old⟩ := head
    by_cases below : name < key
    · simpa [place, below] using member
    · by_cases same : key = name
      · rw [place, if_neg below, if_pos same] at member
        rcases List.mem_cons.1 member with rfl | member
        · exact .inl rfl
        · exact .inr (List.mem_cons_of_mem _ member)
      · rw [place, if_neg below, if_neg same] at member
        rw [List.mem_cons] at member ⊢
        rcases member with rfl | member
        · exact .inr (.inl rfl)
        · rcases ih member with found | found
          · exact .inl found
          · exact .inr (.inr found)

theorem sorted_place {name : String} {value : α} {entries : Assoc α}
    (sorted : entries.Pairwise (fun left right => left.1 < right.1)) :
    (place name value entries).Pairwise (fun left right => left.1 < right.1) := by
  induction entries with
  | nil => simp [place]
  | cons head rest ih =>
    obtain ⟨key, old⟩ := head
    obtain ⟨above, sortedRest⟩ := List.pairwise_cons.1 sorted
    by_cases below : name < key
    · rw [place, if_pos below]
      refine List.pairwise_cons.2 ⟨?_, sorted⟩
      intro entry member
      rcases List.mem_cons.1 member with rfl | member
      · exact below
      · exact String.lt_trans below (above entry member)
    · by_cases same : key = name
      · rw [place, if_neg below, if_pos same]
        exact List.pairwise_cons.2 ⟨same ▸ above, sortedRest⟩
      · rw [place, if_neg below, if_neg same]
        refine List.pairwise_cons.2 ⟨?_, ih sortedRest⟩
        intro entry member
        rcases mem_place member with rfl | member
        · rcases String.le_total key name with before | after
          · exact String.not_le.1 fun after => same (String.le_antisymm before after)
          · have above := String.not_le.1 fun before => same (String.le_antisymm before after)
            exact absurd above below
        · exact above entry member

def insert (dict : Dict α) (name : String) (value : α) : Dict α :=
  ⟨place name value dict.entries, sorted_place dict.sorted⟩

def find? (dict : Dict α) (name : String) : Option α :=
  dict.entries.find? name

def has (dict : Dict α) (name : String) : Bool :=
  (dict.find? name).isSome

/-- The names, in increasing order. -/
def keys (dict : Dict α) : List String :=
  dict.entries.keys

/-- Stores entries one after another; the last value of a name wins. -/
def ofPairs (pairs : List (String × α)) : Dict α :=
  pairs.foldl (fun dict entry => dict.insert entry.1 entry.2) empty

def filter (dict : Dict α) (test : String → α → Bool) : Dict α :=
  ⟨dict.entries.filter fun entry => test entry.1 entry.2, dict.sorted.filter _⟩

def erase (dict : Dict α) (name : String) : Dict α := dict.filter fun key _ => key != name

/-- Whether there are no entries. -/
def isEmpty (dict : Dict α) : Bool := dict.entries.isEmpty

def size (dict : Dict α) : Nat := dict.entries.length

/-- Combines the value of a name, if it has one, with a new one. -/
def combine (dict : Dict α) (name : String) (value : α) (merge : α → α → α) : Dict α :=
  match dict.find? name with
  | none => dict.insert name value
  | some old => dict.insert name (merge old value)

end Dict

end Courier
