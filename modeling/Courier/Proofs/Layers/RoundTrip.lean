import Courier.Layers.Reading
import Courier.Proofs.Data.Dict
import Courier.Proofs.Json.Plain
import Mathlib.Logic.Relation

/-!
# Reading plans back

A plan is read back from its text, with all of its routing tables and with just the options that it
gives, and it is accepted if its default is one of its backends. The plan of a backend is written as
one object in which its options stand beside its other fields. They have names of their own, so each
is found again, and an option that is not given is not found.

What counts where a field is left out may as well be written, and the other way round: to write it
does not change what is read, in whatever place it is written and whatever else there is.
-/

namespace Courier

namespace Plan

variable {α : Type} {read : Document → Option α} {absent : Option α}

/-! ## Fields -/

theorem ofJsonFields_eq (fields : List (String × Json)) :
    Document.ofJsonFields fields = fields.map fun field => (field.1, .ofJson field.2) := by
  induction fields with
  | nil => rfl
  | cons field rest ih => rw [Document.ofJsonFields, ih, List.map_cons]

/-- The values that stand under a name. -/
theorem named_ofJsonFields (fields : List (String × Json)) (name : String) :
    named (Document.ofJsonFields fields) name = (Dict.valuesOf name fields).map .ofJson := by
  rw [ofJsonFields_eq, named, List.filter_map, List.map_map, Dict.valuesOf, List.map_map]
  rfl

/-- What stands under a name of its own is read. -/
theorem readField_of_distinct {fields : List (String × Json)} (distinct : Assoc.Distinct fields)
    (name : String) :
    readField read absent (Document.ofJsonFields fields) name =
      (Assoc.find? fields name).elim absent fun value => read (.ofJson value) := by
  rw [readField, named_ofJsonFields, Dict.valuesOf_of_distinct distinct]
  cases Assoc.find? fields name with
  | none => rfl
  | some value => rfl

/-! ## Dictionaries -/

theorem readDict_object (write : α → Json) {dict : Dict α}
    (back : ∀ entry ∈ dict.entries, read (.ofJson (write entry.2)) = some entry.2) :
    readDict read (.ofJson (.object (dict.entries.map fun entry => (entry.1, write entry.2)))) =
      some dict := by
  have values :
      (Document.ofJsonFields (dict.entries.map fun entry => (entry.1, write entry.2))).mapM
        (fun entry => (read entry.2).map fun value => (entry.1, value)) = some dict.entries := by
    rw [ofJsonFields_eq, List.map_map]
    generalize dict.entries = entries at back
    induction entries with
    | nil => rfl
    | cons entry rest ih =>
        have others := ih fun other mem => back other (List.mem_cons_of_mem entry mem)
        simp only [List.map_cons, List.mapM_cons, Function.comp_apply,
          back entry List.mem_cons_self, Option.map_some, others]
        rfl
  simp only [Document.ofJson, readDict, readEntries, Option.bind_eq_bind, Option.bind_some, values]
  rw [Dict.ofPairs_entries]
  rfl

/-! ## Fields that may be left out -/

/-- The fields of a table that are given. -/
def given (table : List (String × Option Json)) : List (String × Json) :=
  table.filterMap fun field => field.2.map fun value => (field.1, value)

theorem given_append (first second : List (String × Option Json)) :
    given (first ++ second) = given first ++ given second :=
  List.filterMap_append

theorem keys_given_sublist (table : List (String × Option Json)) :
    (Assoc.keys (given table)).Sublist (Assoc.keys table) := by
  induction table with
  | nil => exact .slnil
  | cons field rest ih =>
      rcases field with ⟨name, value⟩
      cases value with
      | none => exact ih.cons name
      | some value => exact ih.cons_cons name

theorem distinct_given {table : List (String × Option Json)} (distinct : Assoc.Distinct table) :
    Assoc.Distinct (given table) :=
  List.Nodup.sublist (keys_given_sublist table) distinct

theorem find?_given {table : List (String × Option Json)} (distinct : Assoc.Distinct table)
    (name : String) : Assoc.find? (given table) name = (Assoc.find? table name).join := by
  induction table with
  | nil => rfl
  | cons field rest ih =>
      rcases field with ⟨key, value⟩
      rcases List.nodup_cons.mp distinct with ⟨fresh, restDistinct⟩
      have others := ih restDistinct
      by_cases same : key = name
      · subst same
        cases value with
        | none => simpa [given, Assoc.find?, Assoc.find?_eq_none_of_notMem fresh] using others
        | some value => simp [given, Assoc.find?]
      · cases value with
        | none => simpa [given, Assoc.find?, same] using others
        | some value => simpa [given, Assoc.find?, same] using others

/-- A field of a table is read if it is given. -/
theorem readField_given {table : List (String × Option Json)} (distinct : Assoc.Distinct table)
    (name : String) {value : Option Json} (entry : Assoc.find? table name = some value) :
    readField read absent (Document.ofJsonFields (given table)) name =
      value.elim absent fun value => read (.ofJson value) := by
  rw [readField_of_distinct (distinct_given distinct), find?_given distinct, entry]
  rfl

end Plan

namespace StoreOptions

/-- The numbers of options fit into sixty-four bits. -/
structure InRange (options : StoreOptions) : Prop where
  capacity : ∀ number ∈ options.capacity, number < Nat.pow 2 64
  messageExpiry : ∀ number ∈ options.messageExpiry, number < Nat.pow 2 64
  groupExpiry : ∀ number ∈ options.groupExpiry, number < Nat.pow 2 64
  receiveTimeoutMs : ∀ number ∈ options.receiveTimeoutMs, number < Nat.pow 2 64

/-- The options by name, given or not. -/
def table (options : StoreOptions) : List (String × Option Json) :=
  [("capacity", options.capacity.map .natural),
    ("message_expiry", options.messageExpiry.map .natural),
    ("group_expiry", options.groupExpiry.map .natural),
    ("receive_timeout_ms", options.receiveTimeoutMs.map .natural),
    ("url", options.url.map .text),
    ("key_prefix", options.keyBase.map .text)]

theorem numberField_eq (name : String) (value : Option Nat) :
    numberField name value = Plan.given [(name, value.map .natural)] := by
  cases value with
  | none => rfl
  | some value => rfl

theorem textField_eq (name : String) (value : Option String) :
    textField name value = Plan.given [(name, value.map .text)] := by
  cases value with
  | none => rfl
  | some value => rfl

theorem fields_eq_given (options : StoreOptions) : options.fields = Plan.given options.table := by
  simp only [fields, numberField_eq, textField_eq, ← Plan.given_append]
  rfl

end StoreOptions

namespace BackendPlan

/-- The fields of a plan by name, given or not. -/
def table (plan : BackendPlan) : List (String × Option Json) :=
  [("backend", some (.text plan.kind.name)),
    ("routing", some (.object (plan.routing.entries.map fun route => (route.1, .text route.2))))] ++
    plan.options.table

theorem fields_eq_given (plan : BackendPlan) : plan.fields = Plan.given plan.table := by
  rw [fields, StoreOptions.fields_eq_given, table, Plan.given_append]
  rfl

theorem distinct_table (plan : BackendPlan) : Assoc.Distinct plan.table := by
  have names : Assoc.keys plan.table = ["backend", "routing", "capacity", "message_expiry",
      "group_expiry", "receive_timeout_ms", "url", "key_prefix"] := rfl
  rw [Assoc.Distinct, names]
  decide

end BackendPlan

namespace Plan

theorem readNumber_natural {number : Nat} (small : number < Nat.pow 2 64) :
    readNumber (.ofJson (.natural number)) = some (some number) := by
  have inRange : (0 : Int) ≤ number ∧ (number : Int) < (Nat.pow 2 64 : Nat) :=
    ⟨Int.natCast_nonneg number, Int.ofNat_lt.mpr small⟩
  simp only [Json.natural, Document.ofJson, readNumber, if_pos inRange, Int.toNat_natCast]

theorem elim_readNumber {value : Option Nat} (small : ∀ number ∈ value, number < Nat.pow 2 64) :
    ((value.map Json.natural).elim (some none) fun value => readNumber (.ofJson value)) =
      some value := by
  cases value with
  | none => rfl
  | some number =>
      rw [Option.map_some, Option.elim_some]
      exact readNumber_natural (small number rfl)

theorem elim_readWords (value : Option String) :
    ((value.map Json.text).elim (some none) fun value => readWords (.ofJson value)) =
      some value := by
  cases value with
  | none => rfl
  | some words => rfl

theorem readKind_name (kind : StoreKind) : readKind (.ofJson (.text kind.name)) = some kind := by
  cases kind with
  | memory => rfl
  | redis => rfl

/-! ## Plans -/

theorem readOptions_fields {plan : BackendPlan} (inRange : plan.options.InRange) :
    readOptions (Document.ofJsonFields plan.fields) = some plan.options := by
  have distinct := plan.distinct_table
  rw [BackendPlan.fields_eq_given, readOptions, readField_given distinct "capacity" rfl,
    readField_given distinct "message_expiry" rfl, readField_given distinct "group_expiry" rfl,
    readField_given distinct "receive_timeout_ms" rfl, readField_given distinct "url" rfl,
    readField_given distinct "key_prefix" rfl, elim_readNumber inRange.capacity,
    elim_readNumber inRange.messageExpiry, elim_readNumber inRange.groupExpiry,
    elim_readNumber inRange.receiveTimeoutMs, elim_readWords, elim_readWords]
  rfl

/-- The plan of a backend is read back. -/
theorem readBackend_fields {plan : BackendPlan} (inRange : plan.options.InRange) :
    readBackend (.ofJson (.object plan.fields)) = some plan := by
  have kind : readField readKind none (Document.ofJsonFields plan.fields) "backend" =
      some plan.kind := by
    rw [BackendPlan.fields_eq_given, readField_given plan.distinct_table "backend" rfl]
    exact readKind_name plan.kind
  have routing : readField (readDict readText) (some .empty) (Document.ofJsonFields plan.fields)
      "routing" = some plan.routing := by
    rw [BackendPlan.fields_eq_given, readField_given plan.distinct_table "routing" rfl]
    exact readDict_object .text fun route _ => rfl
  simp only [Document.ofJson, readBackend, readEntries, Option.bind_eq_bind, Option.bind_some,
    kind, routing, readOptions_fields inRange]
  rfl

/-- The numbers of all options fit into sixty-four bits. -/
def InRange (plan : Plan) : Prop :=
  ∀ entry ∈ plan.backends.entries, entry.2.options.InRange

theorem ofDocument?_object (fields : List (String × Json)) :
    ofDocument? (.ofJson (.object fields)) =
      (readField readText (some Backend.defaultLabel) (Document.ofJsonFields fields)
        "default").bind fun label =>
          (readField (readDict readBackend) none (Document.ofJsonFields fields) "backends").bind
            fun backends => some { default := label, backends } :=
  rfl

def fields (plan : Plan) : List (String × Json) :=
  [("default", .text plan.default),
    ("backends", .object (plan.backends.entries.map fun entry =>
      (entry.1, .object entry.2.fields)))]

theorem toJson_eq (plan : Plan) : plan.toJson = .object plan.fields := rfl

theorem distinct_fields (plan : Plan) : Assoc.Distinct plan.fields :=
  (by decide : ["default", "backends"].Nodup)

theorem ofDocument?_toJson {plan : Plan} (inRange : plan.InRange) :
    ofDocument? (.ofJson plan.toJson) = some plan := by
  have label : readField readText (some Backend.defaultLabel) (Document.ofJsonFields plan.fields)
      "default" = some plan.default := by
    rw [readField_of_distinct plan.distinct_fields]
    rfl
  have backends : readField (readDict readBackend) none (Document.ofJsonFields plan.fields)
      "backends" = some plan.backends := by
    rw [readField_of_distinct plan.distinct_fields]
    exact readDict_object (fun backend => .object backend.fields) fun entry mem =>
      readBackend_fields (inRange entry mem)
  rw [toJson_eq, ofDocument?_object, label, backends]
  rfl

/-! ## Texts -/

theorem plain_given {table : List (String × Option Json)} (distinct : Assoc.Distinct table)
    {bound : Nat} (plain : ∀ field ∈ table, ∀ value ∈ field.2, Json.Plain bound value) :
    Json.Plain (bound + 1) (.object (given table)) := by
  apply Json.plain_object (distinct_given distinct)
  intro field mem
  rcases List.mem_filterMap.mp mem with ⟨entry, inTable, isField⟩
  rcases Option.map_eq_some_iff.mp isField with ⟨value, isGiven, rfl⟩
  exact plain entry inTable value isGiven

theorem plain_dict (write : α → Json) {dict : Dict α} {bound : Nat}
    (plain : ∀ entry ∈ dict.entries, Json.Plain bound (write entry.2)) :
    Json.Plain (bound + 1) (.object (dict.entries.map fun entry => (entry.1, write entry.2))) := by
  apply Json.plain_object
  · have distinct := dict.distinct
    rw [Assoc.Distinct, Assoc.keys] at distinct ⊢
    rw [List.map_map]
    exact distinct
  · intro field mem
    rcases List.mem_map.mp mem with ⟨entry, inDict, rfl⟩
    exact plain entry inDict

theorem plain_number {value : Option Nat} (small : ∀ number ∈ value, number < Nat.pow 2 64)
    {bound : Nat} : ∀ json ∈ value.map Json.natural, Json.Plain bound json := by
  intro json mem
  rcases Option.map_eq_some_iff.mp mem with ⟨number, isGiven, rfl⟩
  exact Json.plain_word (small number isGiven)

theorem plain_words {value : Option String} {bound : Nat} :
    ∀ json ∈ value.map Json.text, Json.Plain bound json := by
  intro json mem
  rcases Option.map_eq_some_iff.mp mem with ⟨words, _, rfl⟩
  exact Json.plain_text words

theorem plain_fields {plan : BackendPlan} (inRange : plan.options.InRange) :
    Json.Plain 2 (.object plan.fields) := by
  have routing : Json.Plain 1 (.object (plan.routing.entries.map fun route =>
      (route.1, .text route.2))) :=
    plain_dict .text fun route _ => Json.plain_text route.2
  rw [BackendPlan.fields_eq_given]
  apply plain_given plan.distinct_table
  simp only [BackendPlan.table, StoreOptions.table, List.cons_append, List.nil_append,
    List.forall_mem_cons]
  refine ⟨?_, ?_, plain_number inRange.capacity, plain_number inRange.messageExpiry,
    plain_number inRange.groupExpiry, plain_number inRange.receiveTimeoutMs, plain_words,
    plain_words, ?_⟩
  · rintro _ ⟨⟩
    exact Json.plain_text plan.kind.name
  · rintro _ ⟨⟩
    exact routing
  · rintro _ ⟨⟩

/-- Plans are read back from their texts. -/
theorem parseAll_text {plan : Plan} (inRange : plan.InRange) :
    Json.parseAll plan.text = .ok plan.toJson := by
  have backends : Json.Plain 3 (.object (plan.backends.entries.map fun entry =>
      (entry.1, .object entry.2.fields))) :=
    plain_dict (fun backend => .object backend.fields) fun entry mem =>
      plain_fields (inRange entry mem)
  have plain : Json.Plain 4 plan.toJson := by
    apply Json.plain_object plan.distinct_fields
    rw [fields, List.forall_mem_cons, List.forall_mem_singleton]
    exact ⟨Json.plain_text plan.default, backends⟩
  exact Json.parseAll_render (plain.mono (by decide))

theorem ofJsonText_of_parseAll {text : String} {value : Json}
    (parsed : Json.parseAll text = .ok value) :
    ofJsonText text = accept "Invalid JSON:" (ofDocument? (.ofJson value)) := by
  rw [ofJsonText, parsed]

/-! ## Leaving out fields -/

/-- What counts where a field of the plan of a backend is left out. -/
def impliedOfBackend : List (String × Json) :=
  [("routing", .object []), ("capacity", .null), ("message_expiry", .null),
    ("group_expiry", .null), ("receive_timeout_ms", .null), ("url", .null), ("key_prefix", .null)]

/-- What counts where a field of a plan is left out. -/
def implied : List (String × Json) := [("default", .text Backend.defaultLabel)]

/-- Some fields leave out one that counts anyway, which others have, in whatever place. -/
inductive LeavesOut (implied : List (String × Json)) :
    List (String × Json) → List (String × Json) → Prop
  | field {before after : List (String × Json)} {name : String} {value : Json}
      (counts : (name, value) ∈ implied) (fresh : name ∉ Assoc.keys (before ++ after)) :
      LeavesOut implied (before ++ after) (before ++ (name, value) :: after)

/-- What is written for a plan leaves out a field that counts anyway, of the plan or of one of its
backends. A plan is written as an object or as a sequence of its two parts. -/
inductive Spares : Json → Json → Prop
  | plan {spare full : List (String × Json)} (left : LeavesOut implied spare full) :
      Spares (.object spare) (.object full)
  | backend {before after front back : List (String × Json)} {label : String}
      {spare full : List (String × Json)} (left : LeavesOut impliedOfBackend spare full) :
      Spares
        (.object
          (before ++ ("backends", .object (front ++ (label, .object spare) :: back)) :: after))
        (.object
          (before ++ ("backends", .object (front ++ (label, .object full) :: back)) :: after))
  | backendOfSequence {first : Json} {front back : List (String × Json)} {label : String}
      {spare full : List (String × Json)} (left : LeavesOut impliedOfBackend spare full) :
      Spares (.array [first, .object (front ++ (label, .object spare) :: back)])
        (.array [first, .object (front ++ (label, .object full) :: back)])

section

variable {α : Type} {read : Document → Option α} {absent : Option α}

/-- Where every field that counts anyway has what counts without it, to leave it out changes
nothing. -/
theorem readField_of_leavesOut {implied spare full : List (String × Json)}
    (left : LeavesOut implied spare full) {name : String}
    (counts : ∀ entry ∈ implied, entry.1 = name → read (.ofJson entry.2) = absent) :
    readField read absent (Document.ofJsonFields spare) name =
      readField read absent (Document.ofJsonFields full) name := by
  rcases left with @⟨before, after, other, value, mem, fresh⟩
  simp only [readField, named_ofJsonFields]
  by_cases same : other = name
  · subst same
    have outside : other ∉ Assoc.keys before ∧ other ∉ Assoc.keys after := by
      rwa [Assoc.keys, List.map_append, List.mem_append, not_or] at fresh
    rw [Dict.valuesOf_of_notMem fresh, Dict.valuesOf_append, Dict.valuesOf_cons, if_pos rfl,
      Dict.valuesOf_of_notMem outside.1, Dict.valuesOf_of_notMem outside.2]
    exact (counts _ mem rfl).symm
  · rw [Dict.valuesOf_append, Dict.valuesOf_append, Dict.valuesOf_cons, if_neg same]

variable {before after : List (String × Json)} {name : String}

theorem readField_replaced (spare full : Json) (other : String)
    (same : name = other → read (.ofJson spare) = read (.ofJson full)) :
    readField read absent (Document.ofJsonFields (before ++ (name, spare) :: after)) other =
      readField read absent (Document.ofJsonFields (before ++ (name, full) :: after)) other := by
  simp only [readField, named_ofJsonFields, Dict.valuesOf_append, Dict.valuesOf_cons]
  by_cases hit : name = other
  · -- the only value of the name, or one of several, which are not read
    rw [if_pos hit, if_pos hit]
    cases Dict.valuesOf other before <;> cases Dict.valuesOf other after <;> simp [same hit]
  · rw [if_neg hit, if_neg hit]

theorem readDict_replaced {spare full : Json} (same : read (.ofJson spare) = read (.ofJson full)) :
    readDict read (.ofJson (.object (before ++ (name, spare) :: after))) =
      readDict read (.ofJson (.object (before ++ (name, full) :: after))) := by
  simp [Document.ofJson, readDict, readEntries, ofJsonFields_eq, List.mapM_append, same]

end

-- Whichever field is left out, the others are read as they are, and it has what counts without it.
theorem readOptions_of_leavesOut {spare full : List (String × Json)}
    (left : LeavesOut impliedOfBackend spare full) :
    readOptions (Document.ofJsonFields spare) = readOptions (Document.ofJsonFields full) := by
  simp only [readOptions]
  rw [readField_of_leavesOut left (by decide), readField_of_leavesOut left (by decide),
    readField_of_leavesOut left (by decide), readField_of_leavesOut left (by decide),
    readField_of_leavesOut left (by decide), readField_of_leavesOut left (by decide)]

theorem readBackend_of_leavesOut {spare full : List (String × Json)}
    (left : LeavesOut impliedOfBackend spare full) :
    readBackend (.ofJson (.object spare)) = readBackend (.ofJson (.object full)) := by
  simp only [Document.ofJson, readBackend, readEntries, Option.bind_eq_bind, Option.bind_some]
  rw [readField_of_leavesOut left (by decide), readField_of_leavesOut left (by decide),
    readOptions_of_leavesOut left]

theorem ofDocument?_replaced {before after : List (String × Json)} {spare full : Json}
    (same : readDict readBackend (.ofJson spare) = readDict readBackend (.ofJson full)) :
    ofDocument? (.ofJson (.object (before ++ ("backends", spare) :: after))) =
      ofDocument? (.ofJson (.object (before ++ ("backends", full) :: after))) := by
  have other : ¬"backends" = "default" := by decide
  rw [ofDocument?_object, ofDocument?_object,
    readField_replaced spare full "default" fun hit => absurd hit other,
    readField_replaced spare full "backends" fun _ => same]

theorem ofDocument?_array (first second : Json) :
    ofDocument? (.ofJson (.array [first, second])) =
      (readText (.ofJson first)).bind fun label =>
        (readDict readBackend (.ofJson second)).bind fun backends =>
          some { default := label, backends } :=
  rfl

/-- To leave out what counts anyway changes nothing. -/
theorem ofDocument?_of_spares {spare full : Json} (spares : Spares spare full) :
    ofDocument? (.ofJson spare) = ofDocument? (.ofJson full) := by
  cases spares with
  | plan left =>
      rw [ofDocument?_object, ofDocument?_object, readField_of_leavesOut left (by decide),
        readField_of_leavesOut left (by decide)]
  | backend left => exact ofDocument?_replaced (readDict_replaced (readBackend_of_leavesOut left))
  | backendOfSequence left =>
      rw [ofDocument?_array, ofDocument?_array, readDict_replaced (readBackend_of_leavesOut left)]

theorem ofDocument?_of_eqvGen {spare full : Json} (spares : Relation.EqvGen Spares spare full) :
    ofDocument? (.ofJson spare) = ofDocument? (.ofJson full) := by
  induction spares with
  | rel spare full spares => exact ofDocument?_of_spares spares
  | refl json => rfl
  | symm spare full _ ih => exact ih.symm
  | trans spare between full _ _ first second => exact first.trans second

/-- A plan is read back from its text, with any aliases, routes and options, and is accepted if its
default is among its backends. Where a text leaves out what counts anyway, or several such fields,
the same is read as where it has them. -/
theorem plans_survive_json :
    (∀ plan : Plan, plan.InRange →
      Json.parseAll plan.text = .ok plan.toJson ∧
        ofJsonText plan.text =
          if plan.backends.has plan.default then .ok plan else .error plan.missingDefault) ∧
      ∀ (spare full : String) (less more : Json), Json.parseAll spare = .ok less →
        Json.parseAll full = .ok more → Relation.EqvGen Spares less more →
          ofJsonText spare = ofJsonText full := by
  refine ⟨?_, ?_⟩
  · intro plan inRange
    have parsed := parseAll_text inRange
    refine ⟨parsed, ?_⟩
    rw [ofJsonText_of_parseAll parsed, ofDocument?_toJson inRange, accept, validate]
    split
    · rfl
    · rfl
  · intro spare full less more parsedLess parsedMore spares
    rw [ofJsonText_of_parseAll parsedLess, ofJsonText_of_parseAll parsedMore,
      ofDocument?_of_eqvGen spares]

/-- A plan with an empty alias, a route between texts that are written with escapes, and the
largest number. -/
def unusual : Plan where
  default := ""
  backends := Dict.empty.insert ""
    { kind := .redis
      routing := Dict.empty.insert "\"\\" "line\n"
      options := { capacity := some 18446744073709551615, url := some "é" } }

/-- What is written for the standard plan if all that counts anyway is left out. -/
def bare : Json :=
  .object [("backends", .object [("default", .object [("backend", .text "memory")])])]

/-- What is written for the standard plan with its default, a capacity that is not set and its empty
routing table. -/
def ample : Json :=
  .object
    [("default", .text "default"),
      ("backends", .object
        [("default", .object
          [("capacity", .null), ("backend", .text "memory"), ("routing", .object [])])])]

theorem bare_eqvGen_ample : Relation.EqvGen Spares bare ample := by
  have memory : LeavesOut impliedOfBackend [("backend", .text "memory")]
      [("capacity", .null), ("backend", .text "memory")] :=
    @LeavesOut.field _ [] _ "capacity" .null (by simp [impliedOfBackend]) (by decide)
  have routed : LeavesOut impliedOfBackend [("capacity", .null), ("backend", .text "memory")]
      [("capacity", .null), ("backend", .text "memory"), ("routing", .object [])] :=
    @LeavesOut.field _ [("capacity", .null), ("backend", .text "memory")] [] "routing"
      (.object []) (by simp [impliedOfBackend]) (by decide)
  have named (backends : Json) : LeavesOut implied [("backends", backends)]
      [("default", .text "default"), ("backends", backends)] :=
    @LeavesOut.field _ [] [("backends", backends)] "default" _ (List.mem_singleton.mpr rfl)
      (by decide : "default" ∉ ["backends"])
  refine .trans _ _ _ (.rel _ _ (@Spares.backend [] [] [] [] "default" _ _ memory)) ?_
  refine .trans _ _ _ (.rel _ _ (@Spares.backend [] [] [] [] "default" _ _ routed)) ?_
  exact .rel _ _ (.plan (named _))

theorem plans_survive_json_unusual :
    ofJsonText unusual.text = .ok unusual ∧
      ofJsonText (Plan.text ⟨"a", .empty⟩) = .error (missingDefault ⟨"a", .empty⟩) ∧
      ofJsonText bare.render = ofJsonText ample.render := by
  have inRange : unusual.InRange := by
    intro entry mem
    rw [List.mem_singleton.mp mem]
    exact ⟨by decide, by decide, by decide, by decide⟩
  have plainBare : Json.Plain Json.depthLimit bare := ⟨by decide, by decide, by decide⟩
  have plainAmple : Json.Plain Json.depthLimit ample := ⟨by decide, by decide, by decide⟩
  refine ⟨?_, ?_, ?_⟩
  · exact (plans_survive_json.1 unusual inRange).2
  · exact (plans_survive_json.1 ⟨"a", .empty⟩ (List.forall_mem_nil _)).2
  · exact plans_survive_json.2 _ _ bare ample (Json.parseAll_render plainBare)
      (Json.parseAll_render plainAmple) bare_eqvGen_ample

end Plan

end Courier
