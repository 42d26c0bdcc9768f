import Courier.Data.Dict

/-!
# Looking up in dictionaries

What is found under a name after entries have been stored or combined. The entries of a dictionary
are sorted by name, so they are found again one by one, no name stands twice, and storing them anew
in their order gives the same dictionary.
-/

namespace Courier

namespace Assoc

variable {α : Type} {entries : Assoc α} {name : String} {value : α}

theorem mem_keys : name ∈ entries.keys ↔ ∃ value, entries.find? name = some value := by
  induction entries with
  | nil => simp [keys]
  | cons entry rest ih =>
      rcases entry with ⟨key, stored⟩
      by_cases same : key = name
      · simp [keys, find?, same]
      · simpa [keys, find?, same, Ne.symm same] using ih

theorem find?_eq_none_of_notMem (absent : name ∉ entries.keys) : entries.find? name = none := by
  cases found : entries.find? name with
  | none => rfl
  | some value => exact absurd (mem_keys.mpr ⟨value, found⟩) absent

theorem find?_of_mem (distinct : entries.Distinct) (mem : (name, value) ∈ entries) :
    entries.find? name = some value := by
  induction entries with
  | nil => cases mem
  | cons entry rest ih =>
      rcases entry with ⟨key, stored⟩
      rcases List.nodup_cons.mp distinct with ⟨fresh, restDistinct⟩
      rcases List.mem_cons.mp mem with first | inRest
      · cases first
        simp [find?]
      · have differ : key ≠ name := by
          rintro rfl
          exact fresh (List.mem_map.mpr ⟨_, inRest, rfl⟩)
        simpa [find?, differ] using ih restDistinct inRest

theorem mem_insert {entry : String × α} (mem : entry ∈ entries.insert name value) :
    entry = (name, value) ∨ entry ∈ entries := by
  induction entries with
  | nil => exact Or.inl (List.mem_singleton.mp mem)
  | cons first rest ih =>
      rcases first with ⟨key, old⟩
      by_cases same : key = name
      · rw [insert, if_pos same, same] at mem
        rcases List.mem_cons.mp mem with rfl | inRest
        · exact Or.inl rfl
        · exact Or.inr (List.mem_cons_of_mem _ inRest)
      · rw [insert, if_neg same] at mem
        rcases List.mem_cons.mp mem with rfl | inRest
        · exact Or.inr List.mem_cons_self
        · rcases ih inRest with new | old
          · exact Or.inl new
          · exact Or.inr (List.mem_cons_of_mem _ old)

theorem distinct_insert (distinct : entries.Distinct) : (entries.insert name value).Distinct := by
  induction entries with
  | nil => simp [insert, Distinct, keys]
  | cons first rest ih =>
      rcases first with ⟨key, old⟩
      rcases List.nodup_cons.mp distinct with ⟨fresh, restDistinct⟩
      by_cases same : key = name
      · rw [insert, if_pos same]
        exact distinct
      · rw [insert, if_neg same]
        refine List.nodup_cons.mpr ⟨?_, ih restDistinct⟩
        intro mem
        rcases List.mem_map.mp mem with ⟨entry, inserted, isKey⟩
        rcases mem_insert inserted with rfl | old
        · exact same isKey.symm
        · exact fresh (List.mem_map.mpr ⟨entry, old, isKey⟩)

theorem keys_insert (present : name ∈ entries.keys) :
    (entries.insert name value).keys = entries.keys := by
  induction entries with
  | nil => cases present
  | cons entry rest ih =>
      rcases entry with ⟨key, old⟩
      rw [insert]
      split
      · rfl
      · rename_i differ
        have behind : name ∈ keys rest := by
          rcases List.mem_cons.mp present with same | behind
          · exact absurd same.symm differ
          · exact behind
        exact congrArg (key :: ·) (ih behind)

/-- Storing what is stored already changes nothing. -/
theorem insert_of_find? (found : entries.find? name = some value) :
    entries.insert name value = entries := by
  induction entries with
  | nil => cases found
  | cons entry rest ih =>
      rcases entry with ⟨key, old⟩
      rw [find?_cons] at found
      rw [insert]
      split at found
      · rename_i same
        cases found
        rw [if_pos same]
      · rename_i differ
        rw [if_neg differ, ih found]

/-! ## Entries of which some are left out -/

theorem distinct_filter (distinct : entries.Distinct) (test : String × α → Bool) :
    Distinct (entries.filter test) :=
  List.Nodup.sublist (List.Sublist.map Prod.fst List.filter_sublist) distinct

theorem find?_filter (distinct : entries.Distinct) (test : α → Bool) (name : String) :
    find? (entries.filter fun entry => test entry.2) name = (entries.find? name).filter test := by
  apply Option.ext
  intro value
  rw [Option.filter_eq_some_iff]
  constructor
  · intro found
    rcases List.mem_filter.mp (mem_of_find? found) with ⟨mem, passes⟩
    exact ⟨find?_of_mem distinct mem, passes⟩
  · rintro ⟨found, passes⟩
    apply find?_of_mem (distinct_filter distinct _)
    exact List.mem_filter.mpr ⟨mem_of_find? found, passes⟩

theorem swapRemove_of_find?_none (absent : entries.find? name = none) :
    entries.swapRemove name = entries := by
  induction entries with
  | nil => rfl
  | cons entry rest ih =>
      rcases entry with ⟨key, value⟩
      rw [find?_cons] at absent
      split at absent
      case isTrue => cases absent
      case isFalse differ => rw [swapRemove, if_neg differ, ih absent]

/-- Where only the entry of one name gives a result, this is the only result. -/
theorem filterMap_of_only {β : Type} (distinct : entries.Distinct) {f : String × α → Option β}
    (only : ∀ entry ∈ entries, entry.1 ≠ name → f entry = none) :
    entries.filterMap f = ((entries.find? name).bind fun value => f (name, value)).toList := by
  induction entries with
  | nil => rfl
  | cons entry rest ih =>
      rcases entry with ⟨key, stored⟩
      rcases List.nodup_cons.mp distinct with ⟨fresh, restDistinct⟩
      have others := ih restDistinct fun other mem => only other (List.mem_cons_of_mem _ mem)
      by_cases same : key = name
      · subst same
        rw [find?_eq_none_of_notMem fresh] at others
        cases result : f (key, stored) <;> simp [find?, result, others]
      · have nothing : f (key, stored) = none := only _ List.mem_cons_self same
        simp [find?, same, nothing, others]

end Assoc

namespace Dict

variable {α : Type}

theorem find?_place_self (name : String) (value : α) (entries : Assoc α) :
    Assoc.find? (place name value entries) name = some value := by
  induction entries with
  | nil => simp [place, Assoc.find?]
  | cons entry rest ih =>
      rcases entry with ⟨key, old⟩
      by_cases below : name < key
      · simp [place, below, Assoc.find?]
      · by_cases same : key = name
        · simp [place, same, Assoc.find?]
        · simp [place, below, same, Assoc.find?, ih]

theorem find?_place_of_ne {name other : String} (differ : other ≠ name) (value : α)
    (entries : Assoc α) :
    Assoc.find? (place name value entries) other = Assoc.find? entries other := by
  induction entries with
  | nil => simp [place, Assoc.find?, differ.symm]
  | cons entry rest ih =>
      rcases entry with ⟨key, old⟩
      by_cases below : name < key
      · simp [place, below, Assoc.find?, differ.symm]
      · by_cases same : key = name
        · subst same
          simp [place, Assoc.find?, differ.symm]
        · simp [place, below, same, Assoc.find?, ih]

@[simp]
theorem find?_insert_self (dict : Dict α) (name : String) (value : α) :
    (dict.insert name value).find? name = some value :=
  find?_place_self name value dict.entries

theorem find?_insert_of_ne {name other : String} (dict : Dict α) (differ : other ≠ name)
    (value : α) : (dict.insert name value).find? other = dict.find? other :=
  find?_place_of_ne differ value dict.entries

theorem find?_foldl_insert (dict : Dict α) (pairs : List (String × α)) (name : String) :
    (pairs.foldl (fun dict entry => dict.insert entry.1 entry.2) dict).find? name =
      ((pairs.filter fun pair => pair.1 = name).map Prod.snd).getLast?.or (dict.find? name) := by
  induction pairs generalizing dict with
  | nil => rfl
  | cons pair rest ih =>
      rcases pair with ⟨key, value⟩
      rw [List.foldl_cons, ih]
      by_cases same : key = name
      · subst same
        simp [List.getLast?_cons]
      · simp [same, find?_insert_of_ne dict (Ne.symm same)]

/-- The last value of a name is found. -/
theorem find?_ofPairs (pairs : List (String × α)) (name : String) :
    (ofPairs pairs).find? name =
      ((pairs.filter fun pair => pair.1 = name).map Prod.snd).getLast? := by
  have found := find?_foldl_insert empty pairs name
  have nothing : (empty : Dict α).find? name = none := rfl
  rw [nothing, Option.or_none] at found
  exact found

theorem find?_combine_self (dict : Dict α) (name : String) (value : α) (merge : α → α → α) :
    (dict.combine name value merge).find? name =
      some (((dict.find? name).map fun old => merge old value).getD value) := by
  cases found : dict.find? name with
  | none => simp [combine, found]
  | some old => simp [combine, found]

theorem find?_combine_of_ne {name other : String} (dict : Dict α) (differ : other ≠ name)
    (value : α) (merge : α → α → α) :
    (dict.combine name value merge).find? other = dict.find? other := by
  cases found : dict.find? name with
  | none => simp [combine, found, find?_insert_of_ne dict differ]
  | some old => simp [combine, found, find?_insert_of_ne dict differ]

/-- The values of a name among some entries, in order. -/
def valuesOf (name : String) (pairs : List (String × α)) : List α :=
  (pairs.filter fun pair => pair.1 = name).map Prod.snd

theorem valuesOf_cons (key name : String) (value : α) (rest : List (String × α)) :
    valuesOf name ((key, value) :: rest) =
      if key = name then value :: valuesOf name rest else valuesOf name rest := by
  by_cases same : key = name
  · simp [valuesOf, same]
  · simp [valuesOf, same]

theorem valuesOf_append (name : String) (first second : List (String × α)) :
    valuesOf name (first ++ second) = valuesOf name first ++ valuesOf name second := by
  rw [valuesOf, List.filter_append, List.map_append]
  rfl

theorem valuesOf_of_notMem {name : String} {pairs : List (String × α)}
    (absent : name ∉ Assoc.keys pairs) : valuesOf name pairs = [] := by
  rw [valuesOf, List.map_eq_nil_iff, List.filter_eq_nil_iff]
  intro pair mem same
  rw [decide_eq_true_eq] at same
  exact absent (List.mem_map.mpr ⟨pair, mem, same⟩)

theorem valuesOf_of_distinct {pairs : List (String × α)} (distinct : Assoc.Distinct pairs)
    (name : String) : valuesOf name pairs = (Assoc.find? pairs name).toList := by
  induction pairs with
  | nil => rfl
  | cons pair rest ih =>
      rcases pair with ⟨key, value⟩
      rcases List.nodup_cons.mp distinct with ⟨fresh, restDistinct⟩
      rw [valuesOf_cons, Assoc.find?_cons]
      split
      · rename_i same
        subst same
        rw [valuesOf_of_notMem fresh]
        rfl
      · exact ih restDistinct

/-- What is gathered under a name are its values, if it has any. -/
theorem find?_foldl_gather (dict : Dict (List α)) (pairs : List (String × α)) (name : String) :
    (pairs.foldl (fun dict pair => dict.combine pair.1 [pair.2] fun old new => old ++ new)
        dict).find? name =
      if valuesOf name pairs = [] then dict.find? name
      else some ((dict.find? name).getD [] ++ valuesOf name pairs) := by
  induction pairs generalizing dict with
  | nil => rfl
  | cons pair rest ih =>
      rw [List.foldl_cons, ih]
      by_cases same : pair.1 = name
      · have first : valuesOf name (pair :: rest) = pair.2 :: valuesOf name rest := by
          rw [valuesOf_cons, if_pos same]
        subst same
        rw [first, find?_combine_self]
        cases dict.find? pair.1 with
        | none => simp +contextual
        | some values => simp +contextual
      · have skipped : valuesOf name (pair :: rest) = valuesOf name rest := by
          rw [valuesOf_cons, if_neg same]
        rw [skipped, find?_combine_of_ne dict (Ne.symm same)]

/-! ## Entries -/

theorem distinct (dict : Dict α) : dict.entries.Distinct := by
  simp only [Assoc.Distinct, Assoc.keys, List.Nodup, List.pairwise_map]
  apply dict.sorted.imp
  intro left right below same
  rw [same] at below
  exact String.lt_irrefl _ below

theorem find?_of_mem {dict : Dict α} {name : String} {value : α}
    (mem : (name, value) ∈ dict.entries) : dict.find? name = some value :=
  Assoc.find?_of_mem dict.distinct mem

theorem find?_eq_some_iff {dict : Dict α} {name : String} {value : α} :
    dict.find? name = some value ↔ (name, value) ∈ dict.entries :=
  ⟨Assoc.mem_of_find?, find?_of_mem⟩

theorem mem_keys {dict : Dict α} {name : String} :
    name ∈ dict.keys ↔ ∃ value, dict.find? name = some value :=
  Assoc.mem_keys

theorem mem_keys_ofPairs {pairs : List (String × α)} {name : String} :
    name ∈ (ofPairs pairs).keys ↔ name ∈ pairs.map Prod.fst := by
  rw [mem_keys, ← Option.isSome_iff_exists, find?_ofPairs, List.getLast?_isSome, ne_eq,
    List.map_eq_nil_iff, List.filter_eq_nil_iff]
  simp

theorem sorted_keys (dict : Dict α) : dict.keys.Pairwise (· < ·) := by
  rw [keys, Assoc.keys, List.pairwise_map]
  exact dict.sorted

theorem find?_filter (dict : Dict α) (test : String → α → Bool) (name : String) :
    (dict.filter test).find? name = (dict.find? name).filter (test name) := by
  apply Option.ext
  intro value
  rw [find?_eq_some_iff, Option.filter_eq_some_iff, find?_eq_some_iff]
  exact List.mem_filter

theorem find?_erase_self (dict : Dict α) (name : String) : (dict.erase name).find? name = none := by
  rw [erase, find?_filter]
  cases dict.find? name with
  | none => rfl
  | some value => simp

theorem find?_erase_of_ne {name other : String} (dict : Dict α) (differ : other ≠ name) :
    (dict.erase name).find? other = dict.find? other := by
  rw [erase, find?_filter]
  cases dict.find? other with
  | none => rfl
  | some value => simp [differ]

theorem eq_empty_of_isEmpty {dict : Dict α} (isEmpty : dict.isEmpty = true) : dict = empty :=
  ext (List.isEmpty_iff.mp isEmpty)

theorem place_of_above {entries : Assoc α} {name : String} (value : α)
    (above : ∀ entry ∈ entries, entry.1 < name) :
    place name value entries = entries ++ [(name, value)] := by
  induction entries with
  | nil => rfl
  | cons entry rest ih =>
      rcases entry with ⟨key, old⟩
      have below : key < name := above (key, old) List.mem_cons_self
      have notAbove : ¬name < key := String.lt_asymm below
      have differ : key ≠ name := by
        rintro rfl
        exact String.lt_irrefl _ below
      simp only [place, notAbove, differ, if_false, List.cons_append]
      rw [ih fun other mem => above other (List.mem_cons_of_mem _ mem)]

theorem entries_foldl_insert (dict : Dict α) (later : Assoc α)
    (sorted : (dict.entries ++ later).Pairwise fun left right => left.1 < right.1) :
    (later.foldl (fun dict entry => dict.insert entry.1 entry.2) dict).entries =
      dict.entries ++ later := by
  induction later generalizing dict with
  | nil => simp
  | cons entry rest ih =>
      have above : ∀ other ∈ dict.entries, other.1 < entry.1 := by
        intro other mem
        exact (List.pairwise_append.mp sorted).2.2 other mem entry List.mem_cons_self
      have placed : (dict.insert entry.1 entry.2).entries = dict.entries ++ [entry] :=
        place_of_above entry.2 above
      have split : dict.entries ++ entry :: rest = dict.entries ++ [entry] ++ rest := by simp
      rw [split] at sorted ⊢
      rw [List.foldl_cons, ih, placed]
      rw [placed]
      exact sorted

theorem ofPairs_entries (dict : Dict α) : ofPairs dict.entries = dict := by
  apply ext
  have kept := entries_foldl_insert empty dict.entries dict.sorted
  simpa [ofPairs, empty] using kept

end Dict

end Courier
