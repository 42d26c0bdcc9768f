import Courier.Http.Interface

/-!
# The headers that a client receives

A client receives the pairs of a start that stand for headers, and each of the others is reported.
A header map puts the values of a name together, so what can be found again of the order of the
pairs is the order of the values of each name.
-/

namespace Courier.Http

namespace HeaderMap

theorem values_append_self (headers : HeaderMap) (name : String) (value : List UInt8) :
    (headers.append name value).values name = headers.values name ++ [value] := by
  simp [append, values]

theorem values_append_of_ne (headers : HeaderMap) {name other : String} (differ : other ≠ name)
    (value : List UInt8) : (headers.append name value).values other = headers.values other := by
  simp [append, values, Assoc.find?_insert_of_ne _ _ differ]

theorem values_foldl_append (headers : HeaderMap) (pairs : List (String × List UInt8))
    (name : String) :
    (pairs.foldl (fun headers pair => headers.append pair.1 pair.2) headers).values name =
      headers.values name ++ (pairs.filter fun pair => pair.1 = name).map Prod.snd := by
  induction pairs generalizing headers with
  | nil => exact (List.append_nil _).symm
  | cons pair rest ih =>
      rcases pair with ⟨key, value⟩
      rw [List.foldl_cons, ih]
      by_cases same : key = name
      · subst same
        rw [values_append_self, List.filter_cons_of_pos (by simp), List.map_cons,
          List.append_assoc, List.singleton_append]
      · rw [values_append_of_ne headers (Ne.symm same),
          List.filter_cons_of_neg (by simpa using same)]

/-- The values of a name are those of the pairs with this name, in their order. -/
theorem values_ofPairs (pairs : List (String × List UInt8)) (name : String) :
    (ofPairs pairs).values name = (pairs.filter fun pair => pair.1 = name).map Prod.snd :=
  values_foldl_append empty pairs name

end HeaderMap

namespace Exchange

/-- The pairs that stand for headers. -/
def acceptedPairs (headers : List (String × String)) : List (String × List UInt8) :=
  headers.filterMap fun header => (headerPair header.1 header.2).toOption

/-- The pairs that stand for no header. -/
def rejectedPairs (headers : List (String × String)) : List (String × String) :=
  headers.filter fun header => !(headerPair header.1 header.2).isOk

/-- A warning for each of some pairs. -/
def WarnOf (entries : List LogEntry) (pairs : List (String × String)) : Prop :=
  entries.length = pairs.length ∧ ∀ entry ∈ entries, entry.severity = .warning

theorem headers_clientHeaders (headers : List (String × String)) :
    (clientHeaders headers).1 = .ofPairs (acceptedPairs headers) := by
  rw [clientHeaders, acceptedPairs, List.filterMap_map]
  rfl

theorem warnOf_clientHeaders (headers : List (String × String)) :
    WarnOf (clientHeaders headers).2 (rejectedPairs headers) := by
  rw [clientHeaders, rejectedPairs]
  dsimp only
  induction headers with
  | nil => exact ⟨rfl, fun _ mem => absurd mem List.not_mem_nil⟩
  | cons header rest ih =>
      rcases header with ⟨name, value⟩
      rw [List.map_cons, List.filterMap_cons, List.filter_cons]
      cases headerPair name value with
      | ok pair => exact ih
      | error error =>
          refine ⟨congrArg (· + 1) ih.1, ?_⟩
          intro entry mem
          rcases List.mem_cons.mp mem with rfl | mem
          · rfl
          · exact ih.2 entry mem

end Exchange

end Courier.Http
