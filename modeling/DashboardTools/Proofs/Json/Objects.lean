import DashboardTools.Json.Value

/-!
# Objects as maps

An object keeps its fields by rising keys. So each key has at most one value, and objects that give
the same value to each key are the same. Putting a field into an object updates the map at one key,
and of the fields that are read one after another the last one with a key counts.
-/

namespace DashboardTools.Json

/-- The keys rise strictly from field to field, so no key comes twice. -/
def RisingKeys (fields : List (String × Value)) : Prop :=
  fields.Pairwise fun first second => first.1 < second.1

/-- The value of the first field with a key, if there is such a field. -/
def firstValue? (key : String) (fields : List (String × Value)) : Option Value :=
  (fields.find? (·.1 == key)).map (·.2)

/-- The value of the last field with a key. It differs from that of the first where the key is
repeated. -/
def lastValue? (key : String) (fields : List (String × Value)) : Option Value :=
  firstValue? key fields.reverse

/-- An object keeps of the fields that are read the last one with each key. -/
structure IsMapOf (read fields : List (String × Value)) : Prop where
  rising : RisingKeys fields
  lastCounts : ∀ key, firstValue? key fields = lastValue? key read

/-- No fields have no first value of any key, since there is none to be found. -/
@[simp] theorem firstValue?_nil (key : String) : firstValue? key [] = none := rfl

/-- No fields have no last value of any key, since there is none to be found. -/
@[simp] theorem lastValue?_nil (key : String) : lastValue? key [] = none := rfl

/-- The first value of a key is that of the first field if it has the key, and otherwise that of the
rest. -/
theorem firstValue?_cons (key : String) (field : String × Value) (rest : List (String × Value)) :
    firstValue? key (field :: rest) =
      if field.1 = key then some field.2 else firstValue? key rest := by
  by_cases same : field.1 = key
  · simp [firstValue?, same]
  · simp [firstValue?, same]

/-- The last value of a key is that of the rest if there is one, and otherwise that of the first
field if it has the key. -/
theorem lastValue?_cons (key : String) (field : String × Value) (rest : List (String × Value)) :
    lastValue? key (field :: rest) =
      (lastValue? key rest).or (if field.1 = key then some field.2 else none) := by
  by_cases same : field.1 = key
  · simp [lastValue?, firstValue?, same, List.find?_append]
  · simp [lastValue?, firstValue?, same, List.find?_append]

/-- A key without a field has no value, neither a first one nor a last one. -/
theorem firstValue?_eq_none {key : String} {fields : List (String × Value)}
    (missing : ∀ field ∈ fields, field.1 ≠ key) : firstValue? key fields = none := by
  induction fields with
  | nil => rfl
  | cons field rest inductionHypothesis =>
    rw [firstValue?_cons, if_neg (missing field List.mem_cons_self)]
    exact inductionHypothesis fun other member => missing other (List.mem_cons_of_mem _ member)

/-- A first value that is found belongs to a field that is there. -/
theorem mem_of_firstValue? {key : String} {value : Value} {fields : List (String × Value)}
    (found : firstValue? key fields = some value) : (key, value) ∈ fields := by
  induction fields with
  | nil => cases found
  | cons field rest inductionHypothesis =>
    rw [firstValue?_cons] at found
    by_cases same : field.1 = key
    · rw [if_pos same] at found
      obtain rfl := Option.some.inj found
      rw [← same]
      exact List.mem_cons_self
    · rw [if_neg same] at found
      exact List.mem_cons_of_mem _ (inductionHypothesis found)

/-- All keys after the first are above it, not only the next one. -/
theorem RisingKeys.above {field : String × Value} {rest : List (String × Value)}
    (rising : RisingKeys (field :: rest)) : ∀ other ∈ rest, field.1 < other.1 :=
  (List.pairwise_cons.mp rising).1

/-- Fields with rising keys still have rising keys without the first of them. -/
theorem RisingKeys.rest {field : String × Value} {rest : List (String × Value)}
    (rising : RisingKeys (field :: rest)) : RisingKeys rest :=
  (List.pairwise_cons.mp rising).2

/-- Where keys rise no key comes twice, so the first field's key has no value among the rest. -/
theorem RisingKeys.firstValue?_rest {field : String × Value} {rest : List (String × Value)}
    (rising : RisingKeys (field :: rest)) : firstValue? field.1 rest = none := by
  apply firstValue?_eq_none
  intro other member same
  have above := rising.above other member
  rw [same] at above
  exact String.lt_irrefl _ above

/-- Where keys rise each field gives its key the value. -/
theorem RisingKeys.firstValue?_of_mem {fields : List (String × Value)} (rising : RisingKeys fields)
    {field : String × Value} (member : field ∈ fields) :
    firstValue? field.1 fields = some field.2 := by
  induction fields with
  | nil => cases member
  | cons head rest inductionHypothesis =>
    rw [firstValue?_cons]
    rcases List.mem_cons.mp member with rfl | later
    · rw [if_pos rfl]
    · have differs : ¬ head.1 = field.1 := by
        intro same
        have above := rising.above field later
        rw [same] at above
        exact String.lt_irrefl _ above
      rw [if_neg differs]
      exact inductionHypothesis rising.rest later

/-- The first and the last value of a key are the same where keys rise. -/
theorem RisingKeys.lastValue? {fields : List (String × Value)} (rising : RisingKeys fields)
    (key : String) : lastValue? key fields = firstValue? key fields := by
  induction fields with
  | nil => rfl
  | cons field rest inductionHypothesis =>
    rw [lastValue?_cons, firstValue?_cons, inductionHypothesis rising.rest]
    by_cases same : field.1 = key
    · rw [if_pos same, ← same, rising.firstValue?_rest, if_pos rfl, Option.none_or]
    · rw [if_neg same, if_neg same, Option.or_none]

/-- A smaller key has no value in an object whose first key is larger. -/
theorem RisingKeys.firstValue?_below {field : String × Value} {rest : List (String × Value)}
    (rising : RisingKeys (field :: rest)) {key : String} (below : key < field.1) :
    firstValue? key (field :: rest) = none := by
  apply firstValue?_eq_none
  intro other member same
  rw [← same] at below
  rcases List.mem_cons.mp member with rfl | later
  · exact String.lt_irrefl _ below
  · exact String.lt_irrefl _ (String.lt_trans below (rising.above other later))

/-- Objects that give the same value to each key are the same. -/
theorem RisingKeys.ext {first second : List (String × Value)} (one : RisingKeys first)
    (other : RisingKeys second) (same : ∀ key, firstValue? key first = firstValue? key second) :
    first = second := by
  induction first generalizing second with
  | nil =>
    cases second with
    | nil => rfl
    | cons field rest =>
      have found := same field.1
      rw [firstValue?_cons, if_pos rfl] at found
      cases found
  | cons field rest inductionHypothesis =>
    cases second with
    | nil =>
      have found := same field.1
      rw [firstValue?_cons, if_pos rfl] at found
      cases found
    | cons head tail =>
      have keys : field.1 = head.1 := by
        apply String.le_antisymm
        · apply String.not_lt.mp
          intro below
          have found := same head.1
          rw [one.firstValue?_below below, firstValue?_cons, if_pos rfl] at found
          cases found
        · apply String.not_lt.mp
          intro below
          have found := same field.1
          rw [other.firstValue?_below below, firstValue?_cons, if_pos rfl] at found
          cases found
      have values : field.2 = head.2 := by
        have found := same field.1
        rw [firstValue?_cons, firstValue?_cons, if_pos rfl, if_pos keys.symm] at found
        exact Option.some.inj found
      have rests : rest = tail := by
        apply inductionHypothesis one.rest other.rest
        intro key
        by_cases here : field.1 = key
        · have there : head.1 = key := keys.symm.trans here
          rw [← here, one.firstValue?_rest, keys, other.firstValue?_rest]
        · have there : ¬ head.1 = key := fun equal => here (keys.trans equal)
          have found := same key
          rwa [firstValue?_cons, firstValue?_cons, if_neg here, if_neg there] at found
      rw [Prod.ext keys values, rests]

/-- Putting a field updates one key and leaves the values of all other keys. -/
theorem firstValue?_putField (key : String) (value : Value) (fields : List (String × Value))
    (other : String) :
    firstValue? other (putField key value fields) =
      if key = other then some value else firstValue? other fields := by
  induction fields with
  | nil => rw [putField, firstValue?_cons]
  | cons field rest inductionHypothesis =>
    unfold putField
    split
    next same =>
      rw [firstValue?_cons, firstValue?_cons, ← same]
      by_cases here : key = other
      · rw [if_pos here, if_pos here]
      · rw [if_neg here, if_neg here, if_neg here]
    next differs =>
      split
      next below => rw [firstValue?_cons]
      next above =>
        rw [firstValue?_cons, firstValue?_cons, inductionHypothesis]
        by_cases here : key = other
        · have elsewhere : ¬ field.1 = other := fun equal => differs (here.trans equal.symm)
          rw [if_pos here, if_neg elsewhere, if_pos here]
        · rw [if_neg here, if_neg here]

/-- What stands in an object after a field is put was there before or is that field. -/
theorem mem_putField {key : String} {value : Value} {fields : List (String × Value)}
    {field : String × Value} (member : field ∈ putField key value fields) :
    field = (key, value) ∨ field ∈ fields := by
  induction fields with
  | nil => exact .inl (List.mem_singleton.mp member)
  | cons head rest inductionHypothesis =>
    unfold putField at member
    split at member
    · exact (List.mem_cons.mp member).imp_right (List.mem_cons_of_mem _)
    · split at member
      · exact List.mem_cons.mp member
      · rcases List.mem_cons.mp member with rfl | later
        · exact .inr List.mem_cons_self
        · exact (inductionHypothesis later).imp_right (List.mem_cons_of_mem _)

/-- Putting a field into rising keys keeps them rising: an old field with the key is replaced, a new
one stands at its place. -/
theorem RisingKeys.putField {fields : List (String × Value)} (rising : RisingKeys fields)
    (key : String) (value : Value) : RisingKeys (putField key value fields) := by
  induction fields with
  | nil => exact List.pairwise_singleton _ _
  | cons field rest inductionHypothesis =>
    unfold Json.putField
    split
    next same =>
      apply List.pairwise_cons.mpr
      refine ⟨?_, rising.rest⟩
      intro other member
      rw [same]
      exact rising.above other member
    next differs =>
      split
      next below =>
        apply List.pairwise_cons.mpr
        refine ⟨?_, rising⟩
        intro other member
        rcases List.mem_cons.mp member with rfl | later
        · exact below
        · exact String.lt_trans below (rising.above other later)
      next notBelow =>
        apply List.pairwise_cons.mpr
        refine ⟨?_, inductionHypothesis rising.rest⟩
        intro other member
        rcases mem_putField member with rfl | later
        · apply String.not_le.mp
          intro atMost
          exact differs (String.le_antisymm atMost (String.not_lt.mp notBelow))
        · exact rising.above other later

/-- Fields that are put one after another: the last one with a key counts, before the object that
they are put into. The induction is on the fields that are still to be put. -/
theorem firstValue?_putAll (key : String) (fields sorted : List (String × Value)) :
    firstValue? key (fields.foldl (fun sorted field => putField field.1 field.2 sorted) sorted) =
      (lastValue? key fields).or (firstValue? key sorted) := by
  induction fields generalizing sorted with
  | nil => rfl
  | cons field rest inductionHypothesis =>
    rw [List.foldl_cons, inductionHypothesis, firstValue?_putField, lastValue?_cons, Option.or_assoc]
    by_cases same : field.1 = key
    · rw [if_pos same, if_pos same, Option.some_or]
    · rw [if_neg same, if_neg same, Option.none_or]

/-- Putting fields one after the other into rising keys keeps them rising. -/
theorem RisingKeys.putAll (fields : List (String × Value)) {sorted : List (String × Value)}
    (rising : RisingKeys sorted) :
    RisingKeys (fields.foldl (fun sorted field => Json.putField field.1 field.2 sorted) sorted) := by
  induction fields generalizing sorted with
  | nil => exact rising
  | cons field rest inductionHypothesis =>
    rw [List.foldl_cons]
    exact inductionHypothesis (rising.putField field.1 field.2)

/-- Sorting keeps of the fields what an object keeps of them, and nothing else does. -/
theorem isMapOf_iff {read fields : List (String × Value)} :
    IsMapOf read fields ↔ sortFields read = fields := by
  have rising : RisingKeys (sortFields read) := RisingKeys.putAll read List.Pairwise.nil
  have lastCounts (key : String) : firstValue? key (sortFields read) = lastValue? key read := by
    rw [sortFields, firstValue?_putAll, firstValue?_nil, Option.or_none]
  constructor
  · intro map
    apply rising.ext map.rising
    intro key
    rw [lastCounts, map.lastCounts]
  · rintro rfl
    exact ⟨rising, lastCounts⟩

/-- An object is what it keeps of its own fields. -/
theorem RisingKeys.isMapOf {fields : List (String × Value)} (rising : RisingKeys fields) :
    IsMapOf fields fields := ⟨rising, fun key => (rising.lastValue? key).symm⟩

/-- Every field of an object was read, under its key and with its value. -/
theorem IsMapOf.mem {read fields : List (String × Value)} (map : IsMapOf read fields)
    {field : String × Value} (member : field ∈ fields) : field ∈ read := by
  have found := map.rising.firstValue?_of_mem member
  rw [map.lastCounts] at found
  exact List.mem_reverse.mp (mem_of_firstValue? found)

end DashboardTools.Json
