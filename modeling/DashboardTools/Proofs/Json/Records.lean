import DashboardTools.Json.Record
import DashboardTools.Proofs.Json.Meaning

/-!
# What a record is and what it holds

A raw value is a record when it is an object whose keys are all texts and that has no known field
twice, or an array with no more items than there are fields. What it holds under a name is said here
without an order in which fields are looked at. Reading succeeds exactly on records, and finds under
each known name what the record holds there.
-/

namespace DashboardTools.Json

/-- Two fields of an object have the same known name. -/
def Repeats (names : List String) (first second : List Piece × Raw) : Prop :=
  ∃ name ∈ names, Spells first.1 name.toList ∧ Spells second.1 name.toList

/-- A raw value is a record with these field names. Fields of other names do not matter, as long as
their keys are texts. -/
inductive Raw.IsRecord (names : List String) : Raw → Prop where
  | object (fields : List (List Piece × Raw))
    (spelled : ∀ field ∈ fields, ∃ key : String, Spells field.1 key.toList)
    (once : fields.Pairwise fun first second => ¬ Repeats names first second) :
    IsRecord names (.object fields)
  | array (items : List Raw) (fits : items.length ≤ names.length) : IsRecord names (.array items)

/-- A record holds a raw value under a name: in the field with that key, or in the place that the
name has among the names. -/
inductive Raw.Holds (names : List String) (name : String) : Raw → Raw → Prop where
  | field (fields : List (List Piece × Raw)) (key : List Piece) (value : Raw)
    (member : (key, value) ∈ fields) (spells : Spells key name.toList) :
    Holds names name (.object fields) value
  | item (items : List Raw) (place : Nat) (value : Raw) (named : names[place]? = some name)
    (there : items[place]? = some value) : Holds names name (.array items) value

/-- A record holds a text under a name, whatever escapes it is written with. -/
def Raw.HoldsText (names : List String) (name : String) (raw : Raw) (text : String) : Prop :=
  ∃ pieces, raw.Holds names name (.string pieces) ∧ Spells pieces text.toList

/-- A record holds an integer from zero on under a name. -/
def Raw.HoldsNatural (names : List String) (name : String) (raw : Raw) (n : Nat) : Prop :=
  ∃ numeral, raw.Holds names name (.number numeral) ∧ IsInteger numeral n

/-- A natural number that a record holds has 64 bits. -/
theorem Raw.HoldsNatural.lt {names : List String} {name : String} {raw : Raw} {n : Nat}
    (holds : raw.HoldsNatural names name n) : n < Nat.pow 2 64 := by
  obtain ⟨numeral, _, isInteger⟩ := holds
  exact Int.ofNat_lt.mp isInteger.inRange.2

/-- Pieces spell at most one text, since each piece stands for what it stands for. -/
theorem Spells.unique {pieces : List Piece} {one other : String} (first : Spells pieces one.toList)
    (second : Spells pieces other.toList) : one = other := by
  have read := (textOfPieces?_eq_some_iff pieces one).mpr first
  rw [(textOfPieces?_eq_some_iff pieces other).mpr second] at read
  exact (Option.some.inj read).symm

variable {names : List String}

/-- What reading one more field comes to: an unknown field is passed over, and a known one is added
unless the rest has it too. -/
theorem recordOfFields?_cons_eq_some_iff {key : List Piece} {value : Raw}
    {rest : List (List Piece × Raw)} {record : Record} :
    recordOfFields? names ((key, value) :: rest) = some record ↔
      ∃ (name : String) (others : Record), Spells key name.toList ∧
        recordOfFields? names rest = some others ∧
        (name ∉ names ∧ record = others ∨
          name ∈ names ∧ (∀ entry ∈ others, entry.1 ≠ name) ∧ record = (name, value) :: others) := by
  simp only [recordOfFields?, Option.bind_eq_bind, Option.bind_eq_some_iff,
    textOfPieces?_eq_some_iff]
  constructor
  · rintro ⟨name, spells, others, read, found⟩
    refine ⟨name, others, spells, read, ?_⟩
    by_cases known : name ∈ names
    · have listed : names.contains name = true := List.contains_iff_mem.mpr known
      rw [listed] at found
      cases repeated : others.any (·.1 == name) with
      | true =>
        rw [repeated] at found
        cases found
      | false =>
        rw [repeated] at found
        have new : ∀ entry ∈ others, entry.1 ≠ name := by simpa using repeated
        exact .inr ⟨known, new, (Option.some.inj found).symm⟩
    · have notListed : names.contains name = false := by simpa using known
      rw [notListed] at found
      exact .inl ⟨known, (Option.some.inj found).symm⟩
  · rintro ⟨name, others, spells, read, ⟨unknown, rfl⟩ | ⟨known, new, rfl⟩⟩
    · exact ⟨name, spells, record, read, by simp [unknown]⟩
    · have noneRepeated : others.any (·.1 == name) = false := by simpa using new
      exact ⟨name, spells, others, read, by simp [known, noneRepeated]⟩

/-- A record was read of the fields of an object: it holds the known ones, each under its name. -/
structure IsReadOf (names : List String) (fields : List (List Piece × Raw)) (record : Record) : Prop where
  spelled : ∀ field ∈ fields, ∃ key : String, Spells field.1 key.toList
  once : fields.Pairwise fun first second => ¬ Repeats names first second
  distinct : (record.map (·.1)).Nodup
  mem_iff : ∀ name value, (name, value) ∈ record ↔
    name ∈ names ∧ ∃ key, (key, value) ∈ fields ∧ Spells key name.toList

/-- A record that was read holds the known fields, each under its name. No known name was repeated,
and unknown ones were passed over. -/
theorem isReadOf_of_recordOfFields? {fields : List (List Piece × Raw)} {record : Record}
    (read : recordOfFields? names fields = some record) : IsReadOf names fields record := by
  induction fields generalizing record with
  | nil =>
    obtain rfl := Option.some.inj read
    exact ⟨by simp, .nil, .nil, by simp⟩
  | cons field rest inductionHypothesis =>
    obtain ⟨key, value⟩ := field
    obtain ⟨name, others, spells, readRest, added⟩ := recordOfFields?_cons_eq_some_iff.mp read
    have ofRest := inductionHypothesis readRest
    have spelled : ∀ field ∈ (key, value) :: rest, ∃ other : String, Spells field.1 other.toList := by
      intro field member
      rcases List.mem_cons.mp member with rfl | inRest
      · exact ⟨name, spells⟩
      · exact ofRest.spelled field inRest
    rcases added with ⟨unknown, rfl⟩ | ⟨known, new, rfl⟩
    · refine ⟨spelled, List.pairwise_cons.mpr ⟨?_, ofRest.once⟩, ofRest.distinct, ?_⟩
      · rintro field inRest ⟨other, known, same, _⟩
        obtain rfl := spells.unique same
        exact unknown known
      · intro other held
        rw [ofRest.mem_iff]
        constructor
        · rintro ⟨known, otherKey, inRest, spellsOther⟩
          exact ⟨known, otherKey, List.mem_cons_of_mem _ inRest, spellsOther⟩
        · rintro ⟨known, otherKey, member, spellsOther⟩
          rcases List.mem_cons.mp member with same | inRest
          · obtain ⟨rfl, rfl⟩ := Prod.mk.inj same
            obtain rfl := spells.unique spellsOther
            exact absurd known unknown
          · exact ⟨known, otherKey, inRest, spellsOther⟩
    · refine ⟨spelled, List.pairwise_cons.mpr ⟨?_, ofRest.once⟩, ?_, ?_⟩
      · rintro ⟨otherKey, held⟩ inRest ⟨other, _, same, spellsOther⟩
        obtain rfl := spells.unique same
        exact new _ ((ofRest.mem_iff name held).mpr ⟨known, otherKey, inRest, spellsOther⟩) rfl
      · rw [List.map_cons, List.nodup_cons, List.mem_map]
        refine ⟨?_, ofRest.distinct⟩
        rintro ⟨entry, there, same⟩
        exact new entry there same
      · intro other held
        rw [List.mem_cons, ofRest.mem_iff]
        constructor
        · rintro (same | ⟨knownOther, otherKey, inRest, spellsOther⟩)
          · obtain ⟨rfl, rfl⟩ := Prod.mk.inj same
            exact ⟨known, key, List.mem_cons_self, spells⟩
          · exact ⟨knownOther, otherKey, List.mem_cons_of_mem _ inRest, spellsOther⟩
        · rintro ⟨knownOther, otherKey, member, spellsOther⟩
          rcases List.mem_cons.mp member with same | inRest
          · obtain ⟨rfl, rfl⟩ := Prod.mk.inj same
            obtain rfl := spells.unique spellsOther
            exact .inl rfl
          · exact .inr ⟨knownOther, otherKey, inRest, spellsOther⟩

/-- Fields whose keys are texts and that repeat no known name are read. -/
theorem exists_recordOfFields? {fields : List (List Piece × Raw)}
    (spelled : ∀ field ∈ fields, ∃ key : String, Spells field.1 key.toList)
    (once : fields.Pairwise fun first second => ¬ Repeats names first second) :
    ∃ record, recordOfFields? names fields = some record := by
  induction fields with
  | nil => exact ⟨[], rfl⟩
  | cons field rest inductionHypothesis =>
    obtain ⟨key, value⟩ := field
    obtain ⟨apart, restOnce⟩ := List.pairwise_cons.mp once
    obtain ⟨others, readRest⟩ := inductionHypothesis
      (fun field inRest => spelled field (List.mem_cons_of_mem _ inRest)) restOnce
    obtain ⟨name, spells⟩ := spelled (key, value) List.mem_cons_self
    by_cases known : name ∈ names
    · have new : ∀ entry ∈ others, entry.1 ≠ name := by
        rintro ⟨other, held⟩ there rfl
        obtain ⟨_, otherKey, inRest, spellsOther⟩ :=
          ((isReadOf_of_recordOfFields? readRest).mem_iff other held).mp there
        exact apart (otherKey, held) inRest ⟨other, known, spells, spellsOther⟩
      exact ⟨_, recordOfFields?_cons_eq_some_iff.mpr
        ⟨name, others, spells, readRest, .inr ⟨known, new, rfl⟩⟩⟩
    · exact ⟨_, recordOfFields?_cons_eq_some_iff.mpr
        ⟨name, others, spells, readRest, .inl ⟨known, rfl⟩⟩⟩

variable {name : String} {raw : Raw} {record : Record}

/-- Of distinct names each is found where it is, so a look-up succeeds exactly on the entries. -/
theorem Record.field?_eq_some_iff (distinct : (record.map (·.1)).Nodup) {value : Raw} :
    record.field? name = some value ↔ (name, value) ∈ record := by
  induction record with
  | nil => simp [Record.field?]
  | cons entry rest inductionHypothesis =>
    obtain ⟨first, held⟩ := entry
    rw [List.map_cons, List.nodup_cons] at distinct
    have later := inductionHypothesis distinct.2
    unfold Record.field? at later ⊢
    by_cases same : first = name
    · subst same
      have absent : (first, value) ∉ rest := fun there =>
        distinct.1 (List.mem_map.mpr ⟨_, there, rfl⟩)
      simp [absent, eq_comm]
    · have different : ¬ name = first := fun equal => same equal.symm
      simp [same, different, later]

/-- Items are told apart by distinct names, each item being named by its place. -/
theorem zip_distinct (distinct : names.Nodup) (items : List Raw) :
    ((names.zip items).map (·.1)).Nodup := by
  induction names generalizing items with
  | nil => exact .nil
  | cons first rest inductionHypothesis =>
    cases items with
    | nil => exact .nil
    | cons item items =>
      obtain ⟨new, restDistinct⟩ := List.nodup_cons.mp distinct
      rw [List.zip_cons_cons, List.map_cons, List.nodup_cons, List.mem_map]
      refine ⟨?_, inductionHypothesis restDistinct items⟩
      rintro ⟨⟨name, value⟩, there, rfl⟩
      exact new (List.of_mem_zip there).1

/-- Reading succeeds exactly on records: objects that repeat no known name, and arrays that are not
too long. -/
theorem exists_record?_iff : (∃ record, raw.record? names = some record) ↔ raw.IsRecord names := by
  constructor
  · rintro ⟨record, read⟩
    cases raw with
    | object fields =>
      have readOf := isReadOf_of_recordOfFields? read
      exact .object fields readOf.spelled readOf.once
    | array items =>
      simp only [Raw.record?] at read
      split at read
      next fits => exact .array items fits
      next => cases read
    | null | bool | number | string => cases read
  · intro isRecord
    cases isRecord with
    | object fields spelled once => exact exists_recordOfFields? spelled once
    | array items fits => exact ⟨names.zip items, if_pos fits⟩

/-- What is found under a known name is what the record holds there. -/
theorem field?_of_record? (distinct : names.Nodup) (read : raw.record? names = some record)
    (known : name ∈ names) {value : Raw} :
    record.field? name = some value ↔ raw.Holds names name value := by
  cases raw with
  | object fields =>
    have readOf := isReadOf_of_recordOfFields? read
    rw [Record.field?_eq_some_iff readOf.distinct, readOf.mem_iff]
    constructor
    · rintro ⟨_, key, member, spells⟩
      exact .field fields key value member spells
    · intro holds
      cases holds with
      | field _ key _ member spells => exact ⟨known, key, member, spells⟩
  | array items =>
    simp only [Raw.record?] at read
    split at read
    next fits =>
      obtain rfl := Option.some.inj read
      rw [Record.field?_eq_some_iff (zip_distinct distinct items), List.mem_iff_getElem?]
      constructor
      · rintro ⟨place, found⟩
        obtain ⟨named, there⟩ := List.getElem?_zip_eq_some.mp found
        exact .item items place value named there
      · intro holds
        cases holds with
        | item _ place _ named there =>
          exact ⟨place, List.getElem?_zip_eq_some.mpr ⟨named, there⟩⟩
    next => cases read
  | null | bool | number | string => cases read

/-- A record that was read has a text under a known name exactly when the raw value holds that text
there, as a field or as an item in the place of the name. -/
theorem text?_of_record? (distinct : names.Nodup) (read : raw.record? names = some record)
    (known : name ∈ names) {text : String} :
    record.text? name = some text ↔ raw.HoldsText names name text := by
  rw [Record.text?, Option.bind_eq_some_iff]
  constructor
  · rintro ⟨value, found, isText⟩
    have holds := (field?_of_record? distinct read known).mp found
    cases value with
    | string pieces => exact ⟨pieces, holds, (textOfPieces?_eq_some_iff pieces text).mp isText⟩
    | null | bool | number | array | object => cases isText
  · rintro ⟨pieces, holds, spells⟩
    exact ⟨.string pieces, (field?_of_record? distinct read known).mpr holds,
      (textOfPieces?_eq_some_iff pieces text).mpr spells⟩

/-- A record that was read has a natural number under a known name exactly when the raw value holds
that number there. -/
theorem natural?_of_record? (distinct : names.Nodup) (read : raw.record? names = some record)
    (known : name ∈ names) {n : Nat} :
    record.natural? name = some n ↔ raw.HoldsNatural names name n := by
  rw [Record.natural?, Option.bind_eq_some_iff]
  constructor
  · rintro ⟨value, found, isNatural⟩
    have holds := (field?_of_record? distinct read known).mp found
    cases value with
    | number numeral =>
      simp only [Raw.natural?] at isNatural
      split at isNatural
      next m states =>
        split at isNatural
        next positive =>
          obtain rfl := Option.some.inj isNatural
          refine ⟨numeral, holds, (number?_eq_int_iff numeral _).mp ?_⟩
          rw [Int.toNat_of_nonneg positive]
          exact states
        next => cases isNatural
      next => cases isNatural
    | null | bool | string | array | object => cases isNatural
  · rintro ⟨numeral, holds, isInteger⟩
    refine ⟨.number numeral, (field?_of_record? distinct read known).mpr holds, ?_⟩
    simp [Raw.natural?, (number?_eq_int_iff numeral n).mpr isInteger]

/-- A field that may be left out holds a text where there is one. -/
theorem optionalText?_of_record? (distinct : names.Nodup) (read : raw.record? names = some record)
    (known : name ∈ names) {text : String} :
    record.optionalText? name = some (some text) ↔ raw.HoldsText names name text := by
  rw [← text?_of_record? distinct read known, Record.text?, Record.optionalText?]
  cases record.field? name with
  | none => simp
  | some value =>
    cases value <;> simp [Raw.text?]

end DashboardTools.Json
