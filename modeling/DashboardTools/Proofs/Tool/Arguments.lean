import DashboardTools.Tool.Server

/-!
# Which arguments a tool accepts

The fields of a call are accepted when each field that names a parameter fits it and each required
parameter has a field. No order in which they are looked at and no problem that is reported first is
part of that. Reading the arguments of a call succeeds exactly when its tool accepts them.
-/

namespace DashboardTools.Tool

open DashboardTools.Json

/-- A value is an argument of a kind. Numbers are never taken for texts, nor texts for numbers. -/
def Kind.Accepts : Kind → Value → Prop
  | .text, value => ∃ text, value = .string text
  | .flag, value => ∃ flag, value = .bool flag
  | .count, value => ∃ count : Nat, value = .int count
  | .texts, value => ∃ texts : List String, value = .array (texts.map .string)
  | .textMap, value => ∃ texts : List (String × String),
    value = .object (texts.map fun entry => (entry.1, .string entry.2))
  | .choice names emptyFits, value => ∃ name ∈ names, value = .string name ∨
    value = .object [(name, .null)] ∨ emptyFits = true ∧ value = .object [(name, .object [])]

/-- A value fits a parameter; null fits one that is not required. -/
def Parameter.Accepts (parameter : Parameter) (value : Value) : Prop :=
  parameter.kind.Accepts value ∨ parameter.isRequired = false ∧ value = .null

/-- Fields are arguments for parameters: none is refused, and no required one is missing. Fields
without a parameter do not count. -/
structure AreArguments (parameters : List Parameter) (fields : List (String × Value)) : Prop where
  fits : ∀ field ∈ fields, ∀ parameter ∈ parameters, parameter.name = field.1 →
    parameter.Accepts field.2
  complete : ∀ parameter ∈ parameters, parameter.isRequired = true →
    ∃ field ∈ fields, field.1 = parameter.name

/-- A tool accepts the fields of a call when they are arguments for all of its parameters. -/
def Accepts (tool : Tool) (fields : List (String × Value)) : Prop :=
  AreArguments tool.parameters fields

section

variable {ε α β : Type}

/-- Two steps in sequence succeed exactly when the first one does and the second one does with its
value. -/
theorem bind_eq_ok_iff {first : Except ε α} {next : α → Except ε β} {result : β} :
    (first >>= next) = .ok result ↔ ∃ value, first = .ok value ∧ next value = .ok result := by
  cases first <;> simp [bind, Except.bind]

/-- A mapped outcome is a success exactly when the outcome is one, with the value mapped. -/
theorem map_eq_ok_iff {outcome : Except ε α} {f : α → β} {result : β} :
    outcome.map f = .ok result ↔ ∃ value, outcome = .ok value ∧ f value = result := by
  cases outcome <;> simp [Except.map]

end

/-- A value is read as a text exactly when it is one. Numbers are never taken for texts. -/
theorem readText_eq_ok_iff (value : Value) (text : String) :
    readText value = .ok text ↔ value = .string text := by
  cases value <;> simp [readText]

/-- Items are read as texts exactly when each of them is one. -/
theorem readTexts_eq_ok_iff (items : List Value) (texts : List String) :
    readTexts items = .ok texts ↔ items = texts.map .string := by
  induction items generalizing texts with
  | nil => cases texts <;> simp [readTexts]
  | cons item items inductionHypothesis =>
    simp only [readTexts, bind_eq_ok_iff, readText_eq_ok_iff, inductionHypothesis]
    constructor
    · rintro ⟨text, rfl, others, rfl, ⟨⟩⟩
      rfl
    · intro same
      cases texts with
      | nil => cases same
      | cons text texts =>
        obtain ⟨rfl, rfl⟩ := List.cons.inj same
        exact ⟨text, rfl, texts, rfl, rfl⟩

/-- Fields are read as texts exactly when the value of each of them is one. -/
theorem readTextFields_eq_ok_iff (fields : List (String × Value))
    (texts : List (String × String)) :
    readTextFields fields = .ok texts ↔
      fields = texts.map fun entry => (entry.1, .string entry.2) := by
  induction fields generalizing texts with
  | nil => cases texts <;> simp [readTextFields]
  | cons field fields inductionHypothesis =>
    simp only [readTextFields, bind_eq_ok_iff, readText_eq_ok_iff, inductionHypothesis]
    constructor
    · rintro ⟨text, held, others, rfl, ⟨⟩⟩
      rw [List.map_cons, ← held]
    · intro same
      cases texts with
      | nil => cases same
      | cons entry texts =>
        obtain ⟨rfl, rfl⟩ := List.cons.inj same
        exact ⟨entry.2, rfl, texts, rfl, rfl⟩

/-- A name is read as a variant exactly when it is one of the known names. -/
theorem readVariant_eq_ok_iff (names : List String) (text name : String) :
    readVariant names text = .ok name ↔ text = name ∧ name ∈ names := by
  unfold readVariant
  by_cases known : names.contains text = true
  · rw [if_pos known]
    have member := List.contains_iff_mem.mp known
    constructor
    · rintro ⟨⟩
      exact ⟨rfl, member⟩
    · rintro ⟨rfl, _⟩
      rfl
  · rw [if_neg known]
    constructor
    · rintro ⟨⟩
    · rintro ⟨rfl, member⟩
      exact absurd (List.contains_iff_mem.mpr member) known

/-- A value is read as a count exactly when it is an integer from zero on. -/
theorem readCount_eq_ok_iff (value : Value) (count : Nat) :
    readCount value = .ok count ↔ value = .int count := by
  cases value with
  | int n =>
    simp only [readCount, Value.int.injEq]
    split
    next positive =>
      rw [Except.ok.injEq]
      omega
    next negative =>
      constructor
      · rintro ⟨⟩
      · intro same
        omega
  | null => simp [readCount]
  | bool b => simp [readCount]
  | float x => simp [readCount]
  | string text => simp [readCount]
  | array items => simp [readCount]
  | object fields => simp [readCount]

/-- What stands for nothing is null, and an empty object where that is allowed. -/
theorem isNothing_iff (emptyFits : Bool) (value : Value) :
    isNothing emptyFits value = true ↔
      value = .null ∨ emptyFits = true ∧ value = .object [] := by
  unfold isNothing
  split <;> simp_all

/-- A value is read as a choice exactly when it is one of the names, alone or as the only key of an
object that holds nothing. -/
theorem readChoice_eq_ok_iff (names : List String) (emptyFits : Bool) (value : Value)
    (name : String) :
    readChoice names emptyFits value = .ok name ↔ name ∈ names ∧ (value = .string name ∨
      value = .object [(name, .null)] ∨
        emptyFits = true ∧ value = .object [(name, .object [])]) := by
  unfold readChoice
  split
  next text =>
    rw [readVariant_eq_ok_iff]
    constructor
    · rintro ⟨rfl, member⟩
      exact ⟨member, .inl rfl⟩
    · rintro ⟨member, same⟩
      refine ⟨?_, member⟩
      simpa using same
  next key held =>
    simp only [bind_eq_ok_iff, readVariant_eq_ok_iff]
    constructor
    · rintro ⟨_, ⟨rfl, member⟩, read⟩
      by_cases nothing : isNothing emptyFits held = true
      · rw [if_pos nothing] at read
        obtain rfl := Except.ok.inj read
        refine ⟨member, .inr ?_⟩
        rcases (isNothing_iff emptyFits held).mp nothing with rfl | ⟨fits, rfl⟩
        · exact .inl rfl
        · exact .inr ⟨fits, rfl⟩
      · rw [if_neg nothing] at read
        cases read
    · rintro ⟨member, same⟩
      have nothing : key = name ∧ isNothing emptyFits held = true := by
        rw [isNothing_iff]
        rcases same with same | same | ⟨fits, same⟩
        · cases same
        · obtain ⟨rfl, rfl⟩ : key = name ∧ held = .null := by simpa using same
          exact ⟨rfl, .inl rfl⟩
        · obtain ⟨rfl, rfl⟩ : key = name ∧ held = .object [] := by simpa using same
          exact ⟨rfl, .inr ⟨fits, rfl⟩⟩
      exact ⟨name, ⟨nothing.1, member⟩, if_pos nothing.2⟩
  next noSingle =>
    constructor
    · rintro ⟨⟩
    · rintro ⟨_, same⟩
      rcases same with same | same | ⟨_, same⟩
      · cases same
      · exact absurd (Value.object.inj same) (noSingle _ _)
      · exact absurd (Value.object.inj same) (noSingle _ _)
  next noText noSingle noObject =>
    constructor
    · rintro ⟨⟩
    · rintro ⟨_, same⟩
      rcases same with same | same | ⟨_, same⟩
      · exact absurd same (noText _)
      · exact absurd same (noObject _)
      · exact absurd same (noObject _)

/-- Reading an argument of a kind succeeds for the values of that kind. -/
theorem Kind.read_isOk_iff (kind : Kind) (value : Value) :
    (∃ argument, kind.read value = .ok argument) ↔ kind.Accepts value := by
  cases kind with
  | text =>
    simp only [Kind.read, map_eq_ok_iff, readText_eq_ok_iff, Kind.Accepts]
    exact ⟨fun ⟨_, given, same, _⟩ => ⟨given, same⟩, fun ⟨given, same⟩ => ⟨_, given, same, rfl⟩⟩
  | flag =>
    cases value <;> simp [Kind.read, Kind.Accepts]
  | count =>
    simp only [Kind.read, map_eq_ok_iff, readCount_eq_ok_iff, Kind.Accepts]
    exact ⟨fun ⟨_, given, same, _⟩ => ⟨given, same⟩, fun ⟨given, same⟩ => ⟨_, given, same, rfl⟩⟩
  | texts =>
    cases value with
    | array items =>
      simp only [Kind.read, map_eq_ok_iff, readTexts_eq_ok_iff, Kind.Accepts, Value.array.injEq]
      exact ⟨fun ⟨_, given, same, _⟩ => ⟨given, same⟩, fun ⟨given, same⟩ => ⟨_, given, same, rfl⟩⟩
    | null => simp [Kind.read, Kind.Accepts]
    | bool b => simp [Kind.read, Kind.Accepts]
    | int n => simp [Kind.read, Kind.Accepts]
    | float x => simp [Kind.read, Kind.Accepts]
    | string text => simp [Kind.read, Kind.Accepts]
    | object fields => simp [Kind.read, Kind.Accepts]
  | textMap =>
    cases value with
    | object fields =>
      simp only [Kind.read, map_eq_ok_iff, readTextFields_eq_ok_iff, Kind.Accepts,
        Value.object.injEq]
      exact ⟨fun ⟨_, given, same, _⟩ => ⟨given, same⟩, fun ⟨given, same⟩ => ⟨_, given, same, rfl⟩⟩
    | null => simp [Kind.read, Kind.Accepts]
    | bool b => simp [Kind.read, Kind.Accepts]
    | int n => simp [Kind.read, Kind.Accepts]
    | float x => simp [Kind.read, Kind.Accepts]
    | string text => simp [Kind.read, Kind.Accepts]
    | array items => simp [Kind.read, Kind.Accepts]
  | choice names emptyFits =>
    simp only [Kind.read, map_eq_ok_iff, readChoice_eq_ok_iff, Kind.Accepts]
    exact ⟨fun ⟨_, given, same, _⟩ => ⟨given, same⟩, fun ⟨given, same⟩ => ⟨_, given, same, rfl⟩⟩

/-- A parameter reads a value exactly when it accepts it. -/
theorem Parameter.read_isOk_iff (parameter : Parameter) (value : Value) :
    (∃ argument?, parameter.read value = .ok argument?) ↔ parameter.Accepts value := by
  unfold Parameter.read Parameter.Accepts
  split
  next optional => simp [optional]
  next noNothing =>
    simp only [map_eq_ok_iff]
    constructor
    · rintro ⟨_, argument, read, _⟩
      exact .inl ((Kind.read_isOk_iff _ _).mp ⟨argument, read⟩)
    · rintro (accepted | ⟨optional, rfl⟩)
      · obtain ⟨argument, read⟩ := (Kind.read_isOk_iff _ _).mpr accepted
        exact ⟨_, argument, read, rfl⟩
      · exact (noNothing optional rfl).elim

/-- Fields are read exactly when every field that belongs to a parameter is accepted by it. Fields
that belong to none are passed over. -/
theorem readFields_isOk_iff (parameters : List Parameter) (fields : List (String × Value)) :
    (∃ arguments, readFields parameters fields = .ok arguments) ↔
      ∀ field ∈ fields, ∀ parameter, parameters.find? (·.name == field.1) = some parameter →
        parameter.Accepts field.2 := by
  induction fields with
  | nil => simp [readFields]
  | cons field fields inductionHypothesis =>
    rw [List.forall_mem_cons, ← inductionHypothesis]
    cases found : parameters.find? (·.name == field.1) with
    | none => simp [readFields, found]
    | some parameter =>
      simp only [readFields, found, Option.some.injEq, forall_eq', bind_eq_ok_iff, ← Parameter.read_isOk_iff]
      constructor
      · rintro ⟨_, argument?, read, others, rest, _⟩
        exact ⟨⟨argument?, read⟩, ⟨others, rest⟩⟩
      · rintro ⟨⟨argument?, read⟩, ⟨others, rest⟩⟩
        cases argument? with
        | none => exact ⟨others, none, read, others, rest, rfl⟩
        | some argument => exact ⟨_, some argument, read, others, rest, rfl⟩

/-- No required parameter is missing exactly when there is a field for each of them. -/
theorem firstMissing?_eq_none_iff (parameters : List Parameter) (fields : List (String × Value)) :
    firstMissing? parameters fields = none ↔ ∀ parameter ∈ parameters,
      parameter.isRequired = true → ∃ field ∈ fields, field.1 = parameter.name := by
  simp [firstMissing?, List.find?_eq_none]

/-- Among things with distinct names the one with a name is found. -/
theorem find?_eq_some_iff {α : Type} {things : List α} (nameOf : α → String)
    (distinct : (things.map nameOf).Nodup) (name : String) (thing : α) :
    things.find? (nameOf · == name) = some thing ↔ thing ∈ things ∧ nameOf thing = name := by
  induction things with
  | nil => simp
  | cons head rest inductionHypothesis =>
    obtain ⟨fresh, others⟩ := List.nodup_cons.mp distinct
    by_cases here : nameOf head = name
    · rw [List.find?_cons_of_pos (by simp [here]), Option.some.injEq]
      constructor
      · rintro rfl
        exact ⟨List.mem_cons_self, here⟩
      · rintro ⟨member, same⟩
        rcases List.mem_cons.mp member with equal | later
        · exact equal.symm
        · have again := List.mem_map.mpr ⟨thing, later, same.trans here.symm⟩
          exact absurd again fresh
    · rw [List.find?_cons_of_neg (by simp [here]), inductionHypothesis others, List.mem_cons]
      constructor
      · rintro ⟨member, same⟩
        exact ⟨.inr member, same⟩
      · rintro ⟨rfl | member, same⟩
        · exact absurd same here
        · exact ⟨member, same⟩

/-- Reading the arguments for parameters succeeds when the fields are arguments for them. -/
theorem readArguments_isOk_iff {parameters : List Parameter}
    (distinct : (parameters.map (·.name)).Nodup) (fields : List (String × Value)) :
    (∃ arguments, readArguments parameters fields = .ok arguments) ↔
      AreArguments parameters fields := by
  unfold readArguments
  simp only [bind_eq_ok_iff]
  constructor
  · rintro ⟨_, arguments, read, rest⟩
    cases missing : firstMissing? parameters fields with
    | some parameter =>
      rw [missing] at rest
      cases rest
    | none =>
      refine ⟨?_, (firstMissing?_eq_none_iff parameters fields).mp missing⟩
      intro field there parameter member same
      have fits := (readFields_isOk_iff parameters fields).mp ⟨arguments, read⟩
      exact fits field there parameter ((find?_eq_some_iff Parameter.name distinct _ _).mpr ⟨member, same⟩)
  · rintro ⟨fits, complete⟩
    have missing := (firstMissing?_eq_none_iff parameters fields).mpr complete
    have read : ∃ arguments, readFields parameters fields = .ok arguments := by
      rw [readFields_isOk_iff]
      intro field there parameter found
      obtain ⟨member, same⟩ := (find?_eq_some_iff Parameter.name distinct _ _).mp found
      exact fits field there parameter member same
    obtain ⟨arguments, read⟩ := read
    exact ⟨arguments, arguments, read, by rw [missing]⟩

/-- No tool of the catalogue has two parameters of one name. -/
theorem catalogue_distinct : ∀ tool ∈ catalogue, (tool.parameters.map (·.name)).Nodup := by
  decide +kernel

/-- The arguments of a call are read exactly when its tool accepts them. -/
theorem readGiven_isOk_iff {tool : Tool} (registered : tool ∈ catalogue)
    (fields : List (String × Value)) :
    (∃ given, tool.readGiven fields = .ok given) ↔ tool.Accepts fields := by
  have distinct := catalogue_distinct tool registered
  rw [parameters, List.map_append] at distinct
  have own := readArguments_isOk_iff (List.nodup_append.mp distinct).1 fields
  have input := readArguments_isOk_iff (List.nodup_append.mp distinct).2.1 fields
  unfold readGiven Accepts parameters
  simp only [bind_eq_ok_iff]
  constructor
  · rintro ⟨_, ownGiven, ownRead, inputGiven, inputRead, _⟩
    have first := own.mp ⟨ownGiven, ownRead⟩
    have second := input.mp ⟨inputGiven, inputRead⟩
    constructor
    · intro field there parameter member
      rcases List.mem_append.mp member with isOwn | isInput
      · exact first.fits field there parameter isOwn
      · exact second.fits field there parameter isInput
    · intro parameter member
      rcases List.mem_append.mp member with isOwn | isInput
      · exact first.complete parameter isOwn
      · exact second.complete parameter isInput
  · rintro ⟨fits, complete⟩
    obtain ⟨ownGiven, ownRead⟩ := own.mpr
      ⟨fun field there parameter member => fits field there parameter (List.mem_append_left _ member),
        fun parameter member => complete parameter (List.mem_append_left _ member)⟩
    obtain ⟨inputGiven, inputRead⟩ := input.mpr
      ⟨fun field there parameter member => fits field there parameter (List.mem_append_right _ member),
        fun parameter member => complete parameter (List.mem_append_right _ member)⟩
    exact ⟨⟨ownGiven, inputGiven⟩, ownGiven, ownRead, inputGiven, inputRead, rfl⟩

end DashboardTools.Tool
