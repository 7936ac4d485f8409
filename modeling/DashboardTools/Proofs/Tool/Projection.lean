import DashboardTools.Proofs.Tool.Results

/-!
# Bodies are projections of the arguments

Seven tools send a body. Each has a form: identifiers that fill the path, required texts, and fields
that may be left out, each of its own kind. A call is carried out exactly when the arguments fit the
form. The body of its request is then what is left of the arguments when all fields are taken out
that are null or no input of the form. Nothing in it is changed, nothing is added, and its text is
read as that object again.
-/

namespace DashboardTools.Tool

open DashboardTools.Credential
open DashboardTools.Http
open DashboardTools.Json

/-- What a tool that sends a body takes: identifiers that name a place in the service and an input,
of which some texts are required and the other fields may be left out. -/
structure BodyForm where
  tool : String
  identifiers : List String
  required : List String
  optional : List (String × Kind)
  deriving DecidableEq

/-- The forms of the tools that send a body, told by the names and kinds of their fields alone. -/
def bodyForms : List BodyForm := [
  ⟨"astralform_create_project", [], ["name"], []⟩,
  ⟨"astralform_update_project", ["project_id"], ["name"], []⟩,
  ⟨"astralform_create_api_key", ["project_id"], ["name"],
    [("environment", .choice ["development", "production"] true)]⟩,
  ⟨"astralform_set_llm_config", ["project_id"], ["provider", "model"],
    [("api_key", .text), ("base_url", .text)]⟩,
  ⟨"astralform_add_mcp_server", ["project_id"], ["name"],
    [("template_id", .text), ("command", .text), ("args", .texts), ("env_vars", .textMap)]⟩,
  ⟨"astralform_update_mcp_server", ["project_id", "server_id"], [], [("env_vars", .textMap)]⟩,
  ⟨"astralform_update_project_tool", ["project_id", "tool_name"], [],
    [("enabled", .flag), ("api_key", .text)]⟩]

/-- A value that chooses is a text or null; a value of any other kind may be anything. -/
def Kind.IsPlain : Kind → Value → Prop
  | .choice _ _, value => value = .null ∨ ∃ text, value = .string text
  | _, _ => True

namespace BodyForm

/-- The names of the fields of the input, the required ones first. -/
def inputNames (form : BodyForm) : List String := form.required ++ form.optional.map (·.1)

/-- Arguments fit a form: each identifier and each required field is there and is a text, and each
other field of the input is missing, null or of its kind. -/
structure Fits (form : BodyForm) (fields : List (String × Value)) : Prop where
  required : ∀ name ∈ form.identifiers ++ form.required, ∃ text,
    firstValue? name fields = some (.string text)
  optional : ∀ entry ∈ form.optional, ∀ value, firstValue? entry.1 fields = some value →
    value = .null ∨ entry.2.Accepts value

/-- A choice that is made among the arguments is given as a text or as null. -/
def ChoosesPlainly (form : BodyForm) (fields : List (String × Value)) : Prop :=
  ∀ entry ∈ form.optional, ∀ value, firstValue? entry.1 fields = some value → entry.2.IsPlain value

/-- A body is what the arguments hold of an input: the fields of the input that are not null, with
their values and in their order, and no identifier. -/
structure IsProjection (form : BodyForm) (fields body : List (String × Value)) : Prop where
  inOrder : body.Sublist fields
  exact : ∀ field, field ∈ body ↔ field ∈ fields ∧ field.1 ∈ form.inputNames ∧ field.2 ≠ .null
  noIdentifier : ∀ field ∈ body, field.1 ∉ form.identifiers

/-- How a call with these arguments ends, and what it sends under a token. -/
structure Governs (form : BodyForm) (fields : List (String × Value))
    (result : Except CallProblem Result) (exchanges : List Exchange) : Prop where
  carriedOut : form.Fits fields → ∃ answer, result = .ok answer
  refused : ¬ form.Fits fields →
    (∃ problem, result = .error (.badArguments problem)) ∧ exchanges = []
  sent : ∀ exchange ∈ exchanges, ∀ token : String,
    bearer token.toList ∈ exchange.request.authorization →
      ∃ body, exchange.request.body? = some (.object body) ∧
        Value.parse? exchange.request.bodyText = some (.object body) ∧ form.IsProjection fields body

end BodyForm

/-- Whether a value is not null. False, zero and the empty text are something. -/
def isSomething : Value → Bool
  | .null => false
  | _ => true

/-- Only null counts as nothing in a body, so an empty text is sent as it is. -/
theorem isSomething_iff (value : Value) : isSomething value = true ↔ value ≠ .null := by
  cases value <;> simp [isSomething]

/-- An argument that was given is something in a body, so it is never left out of it. -/
theorem Argument.isSomething_toValue (argument : Argument) :
    isSomething argument.toValue = true := by
  cases argument <;> rfl

/-- No text holds a float, so a list of texts holds none. -/
theorem floatsOfItems_texts (texts : List String) : floatsOfItems (texts.map .string) = [] := by
  induction texts with
  | nil => rfl
  | cons text texts inductionHypothesis =>
    rw [List.map_cons, floatsOfItems, inductionHypothesis]
    rfl

/-- Texts nest no deeper than the list they are in. -/
theorem nestingOfItems_texts (texts : List String) :
    nestingOfItems (rawItems (texts.map .string)) = 0 := by
  induction texts with
  | nil => rfl
  | cons text texts inductionHypothesis =>
    rw [List.map_cons, rawItems, nestingOfItems, inductionHypothesis]
    rfl

/-- No argument holds a floating point number, so the body of a call is read back unchanged. -/
theorem Argument.floats_toValue (argument : Argument) : argument.toValue.floats = [] := by
  cases argument with
  | texts items => exact floatsOfItems_texts items
  | textMap fields =>
    apply List.eq_nil_iff_forall_not_mem.mpr
    intro x member
    obtain ⟨field, there, held⟩ := mem_floatsOfFields.mp member
    obtain ⟨entry, _, rfl⟩ := List.mem_map.mp there
    cases held
  | text given => rfl
  | flag value => rfl
  | count n => rfl
  | choice name => rfl

/-- Arguments nest no deeper than a list or a map of texts. -/
theorem Argument.nesting_toValue (argument : Argument) : argument.toValue.raw.nesting ≤ 1 := by
  cases argument with
  | texts items => exact Nat.succ_le_succ (Nat.le_of_eq (nestingOfItems_texts items))
  | textMap fields =>
    apply Nat.succ_le_succ
    rw [nestingOfFields_rawFields_le]
    intro field there
    obtain ⟨entry, _, rfl⟩ := List.mem_map.mp there
    exact Nat.le_refl 0
  | text given => exact Nat.zero_le 1
  | flag value => exact Nat.zero_le 1
  | count n => exact Nat.zero_le 1
  | choice name => exact Nat.zero_le 1

/-- The text of a body is read as that body. -/
theorem parse?_inputBody {input : Arguments} (regular : (inputBody input).IsRegular) :
    Value.parse? (inputBody input).compact = some (inputBody input) := by
  apply parse?_write_value .compact regular
  · intro x member
    obtain ⟨field, there, held⟩ := mem_floatsOfFields.mp member
    obtain ⟨entry, _, rfl⟩ := List.mem_map.mp there
    rw [Argument.floats_toValue] at held
    cases held
  · have shallow : (inputBody input).raw.nesting ≤ 1 + 1 := by
      apply Nat.succ_le_succ
      rw [nestingOfFields_rawFields_le]
      intro field there
      obtain ⟨entry, _, rfl⟩ := List.mem_map.mp there
      exact entry.2.nesting_toValue
    exact Nat.le_trans shallow (by decide)

/-- An argument that was read is the value that was given, unless a choice was made by an object. -/
theorem Kind.toValue_of_read {kind : Kind} {value : Value} {argument : Argument}
    (plain : kind.IsPlain value) (read : kind.read value = .ok argument) :
    argument.toValue = value := by
  have accepted := (Kind.read_isOk_iff kind value).mp ⟨argument, read⟩
  cases kind with
  | text =>
    obtain ⟨text, rfl⟩ := accepted
    obtain rfl := Except.ok.inj read
    rfl
  | flag =>
    obtain ⟨flag, rfl⟩ := accepted
    obtain rfl := Except.ok.inj read
    rfl
  | count =>
    simp only [Kind.read, map_eq_ok_iff, readCount_eq_ok_iff] at read
    obtain ⟨count, rfl, rfl⟩ := read
    rfl
  | texts =>
    obtain ⟨texts, rfl⟩ := accepted
    simp only [Kind.read, map_eq_ok_iff, readTexts_eq_ok_iff] at read
    obtain ⟨others, same, rfl⟩ := read
    rw [same]
    rfl
  | textMap =>
    obtain ⟨texts, rfl⟩ := accepted
    simp only [Kind.read, map_eq_ok_iff, readTextFields_eq_ok_iff] at read
    obtain ⟨others, same, rfl⟩ := read
    rw [same]
    rfl
  | choice names emptyFits =>
    simp only [Kind.read, map_eq_ok_iff, readChoice_eq_ok_iff] at read
    obtain ⟨name, ⟨_, same⟩, rfl⟩ := read
    rcases plain with rfl | ⟨text, rfl⟩
    · simp at same
    · obtain rfl : text = name := by simpa using same
      rfl

/-- A field of a parameter is read as nothing when it is null, and else as its value. -/
theorem Parameter.toValue_of_read {parameter : Parameter} {value : Value}
    {argument? : Option Argument} (plain : parameter.kind.IsPlain value)
    (read : parameter.read value = .ok argument?) :
    argument?.map (·.toValue) = if isSomething value then some value else none := by
  unfold Parameter.read at read
  split at read
  next =>
    obtain rfl := Except.ok.inj read
    rfl
  next =>
    obtain ⟨argument, kindRead, rfl⟩ := map_eq_ok_iff.mp read
    have same := Kind.toValue_of_read plain kindRead
    have something := argument.isSomething_toValue
    rw [same] at something
    rw [Option.map_some, same, if_pos something]

/-- The arguments for parameters are the fields that name one of them and are not null. The
induction is on the fields. -/
theorem readFields_toValue {parameters : List Parameter} {fields : List (String × Value)}
    {arguments : Arguments}
    (plain : ∀ field ∈ fields, ∀ parameter ∈ parameters, parameter.name = field.1 →
      parameter.kind.IsPlain field.2)
    (read : readFields parameters fields = .ok arguments) :
    arguments.map (fun entry => (entry.1, entry.2.toValue)) =
      fields.filter fun field => parameters.any (·.name == field.1) && isSomething field.2 := by
  induction fields generalizing arguments with
  | nil =>
    obtain rfl := Except.ok.inj read
    rfl
  | cons field fields inductionHypothesis =>
    have later := fun {others} => @inductionHypothesis others fun other member =>
      plain other (List.mem_cons_of_mem _ member)
    rw [List.filter_cons]
    cases found : parameters.find? (·.name == field.1) with
    | none =>
      have unnamed : parameters.any (·.name == field.1) = false :=
        List.any_eq_false.mpr (List.find?_eq_none.mp found)
      simp only [readFields, found] at read
      rw [unnamed, Bool.false_and, if_neg Bool.false_ne_true]
      exact later read
    | some parameter =>
      have member := List.mem_of_find?_eq_some found
      have same := List.find?_some found
      have named : parameters.any (·.name == field.1) = true :=
        List.any_eq_true.mpr ⟨parameter, member, same⟩
      simp only [readFields, found, bind_eq_ok_iff] at read
      obtain ⟨argument?, one, others, rest, assembled⟩ := read
      have value := Parameter.toValue_of_read
        (plain field List.mem_cons_self parameter member (beq_iff_eq.mp same)) one
      rw [named, Bool.true_and]
      cases argument? with
      | none =>
        obtain rfl := Except.ok.inj assembled
        split at value
        next => cases value
        next nothing =>
          rw [if_neg nothing]
          exact later rest
      | some argument =>
        obtain rfl := Except.ok.inj assembled
        split at value
        next something =>
          have given : argument.toValue = field.2 := Option.some.inj value
          rw [if_pos something, List.map_cons, later rest, given]
        next => cases value

/-- The input of a call is what is read for the parameters that make it up. -/
theorem readFields_of_readGiven {tool : Tool} {fields : List (String × Value)} {given : Given}
    (read : tool.readGiven fields = .ok given) :
    readFields tool.input fields = .ok given.input := by
  simp only [readGiven, readArguments, bind_eq_ok_iff] at read
  obtain ⟨own, _, input, ⟨arguments, inputRead, complete⟩, same⟩ := read
  obtain rfl := Except.ok.inj same
  split at complete
  · cases complete
  · obtain rfl := Except.ok.inj complete
    exact inputRead

/-- What a parameter demands: the name and the kind of a field, and whether it has to be there. -/
def Parameter.demand (parameter : Parameter) : String × Kind × Bool :=
  (parameter.name, parameter.kind, parameter.isRequired)

/-- Fields meet a demand: what has to be there is there, and what is there is of the kind, or null
where it may be left out. -/
def Meets (fields : List (String × Value)) (demand : String × Kind × Bool) : Prop :=
  (demand.2.2 = true → ∃ value, firstValue? demand.1 fields = some value) ∧
  ∀ value, firstValue? demand.1 fields = some value →
    demand.2.1.Accepts value ∨ demand.2.2 = false ∧ value = .null

/-- Fields with rising keys are arguments for parameters exactly when they meet the demand of each
parameter. -/
theorem areArguments_iff {fields : List (String × Value)} (rising : RisingKeys fields)
    (parameters : List Parameter) :
    AreArguments parameters fields ↔
      ∀ demand ∈ parameters.map Parameter.demand, Meets fields demand := by
  rw [List.forall_mem_map]
  constructor
  · rintro ⟨fits, complete⟩ parameter member
    refine ⟨fun isRequired => ?_, fun value found => ?_⟩
    · obtain ⟨field, there, same⟩ := complete parameter member isRequired
      refine ⟨field.2, ?_⟩
      rw [Parameter.demand, ← same]
      exact rising.firstValue?_of_mem there
    · exact fits _ (mem_of_firstValue? found) parameter member rfl
  · intro meets
    refine ⟨fun field there parameter member same => ?_, fun parameter member isRequired => ?_⟩
    · apply (meets parameter member).2
      rw [Parameter.demand, same]
      exact rising.firstValue?_of_mem there
    · obtain ⟨value, found⟩ := (meets parameter member).1 isRequired
      exact ⟨_, mem_of_firstValue? found, rfl⟩

/-- A required text is met exactly when there is a field with that name that is a text. -/
theorem meets_text_iff {fields : List (String × Value)} {name : String} :
    Meets fields (name, .text, true) ↔ ∃ text, firstValue? name fields = some (.string text) := by
  constructor
  · rintro ⟨there, fits⟩
    obtain ⟨value, found⟩ := there rfl
    rcases fits value found with ⟨text, rfl⟩ | ⟨impossible, _⟩
    · exact ⟨text, found⟩
    · cases impossible
  · rintro ⟨text, found⟩
    refine ⟨fun _ => ⟨_, found⟩, fun value again => .inl ⟨text, ?_⟩⟩
    exact Option.some.inj (again.symm.trans found)

/-- An optional parameter is met exactly when a field of its name, if there is one, is null or
accepted. -/
theorem meets_optional_iff {fields : List (String × Value)} {entry : String × Kind} :
    Meets fields (entry.1, entry.2, false) ↔ ∀ value, firstValue? entry.1 fields = some value →
      value = .null ∨ entry.2.Accepts value := by
  simp [Meets, or_comm]

/-- Whether an operation sends the input as a body, rather than as a query or not at all. -/
def Operation.sendsBody : Operation → Bool
  | .call _ _ .body _ => true
  | _ => false

/-- An operation that sends a body is a call whose input is used as the body. -/
theorem Operation.eq_of_sendsBody {operation : Operation} (sends : operation.sendsBody = true) :
    ∃ method endpoint reaction, operation = .call method endpoint .body reaction := by
  unfold Operation.sendsBody at sends
  split at sends
  next method endpoint reaction => exact ⟨method, endpoint, reaction, rfl⟩
  next => cases sends

/-- A tool has a form: its own parameters are the identifiers, its input the fields, and it sends
its input as a body. -/
structure BodyForm.Describes (form : BodyForm) (tool : Tool) : Prop where
  own : tool.own.map Parameter.demand = form.identifiers.map fun name => (name, .text, true)
  input : tool.input.map Parameter.demand = form.required.map (fun name => (name, .text, true)) ++
    form.optional.map fun entry => (entry.1, entry.2, false)
  sends : tool.operation.sendsBody = true

/-- Whether a form describes a tool can be computed, by comparing the demands of its parameters. -/
instance (form : BodyForm) (tool : Tool) : Decidable (form.Describes tool) :=
  decidable_of_iff
    (tool.own.map Parameter.demand = form.identifiers.map (fun name => (name, .text, true)) ∧
      tool.input.map Parameter.demand = form.required.map (fun name => (name, .text, true)) ++
        form.optional.map (fun entry => (entry.1, entry.2, false)) ∧
      tool.operation.sendsBody = true)
    ⟨fun ⟨own, input, sends⟩ => ⟨own, input, sends⟩, fun ⟨own, input, sends⟩ => ⟨own, input, sends⟩⟩

/-- Every form describes a tool of the catalogue, so nothing is said of tools that do not exist. -/
theorem bodyForms_describe : ∀ form ∈ bodyForms, ∃ tool ∈ catalogue,
    tool.name = form.tool ∧ form.Describes tool := by
  decide +kernel

/-- No other tool sends a body, so the list of forms is complete. -/
theorem catalogue_sendsBody : ∀ tool ∈ catalogue,
    (tool.operation.sendsBody = true ↔ tool.name ∈ bodyForms.map (·.tool)) := by
  decide +kernel

/-- In every form the names of the input are none of the identifiers, so no identifier shows in a
body. -/
theorem bodyForms_apart : ∀ form ∈ bodyForms, ∀ name ∈ form.inputNames,
    name ∉ form.identifiers := by
  decide +kernel

namespace BodyForm.Describes

variable {form : BodyForm} {tool : Tool} {fields : List (String × Value)}

/-- Arguments fit a form exactly when a tool that has it accepts them. -/
theorem fits_iff (described : form.Describes tool) (rising : RisingKeys fields) :
    form.Fits fields ↔ tool.Accepts fields := by
  rw [Accepts, parameters, areArguments_iff rising, List.map_append, described.own, described.input]
  simp only [List.forall_mem_append, List.forall_mem_map, meets_text_iff, meets_optional_iff]
  constructor
  · rintro ⟨required, optional⟩
    obtain ⟨identifiers, texts⟩ := List.forall_mem_append.mp required
    exact ⟨identifiers, texts, optional⟩
  · rintro ⟨identifiers, texts, optional⟩
    exact ⟨List.forall_mem_append.mpr ⟨identifiers, texts⟩, optional⟩

/-- A described tool has an input of a name exactly when the form names it. -/
theorem named_iff (described : form.Describes tool) (name : String) :
    tool.input.any (·.name == name) = true ↔ name ∈ form.inputNames := by
  have names : tool.input.map (·.name) = form.inputNames := by
    have first := congrArg (List.map (·.1)) described.input
    simpa [Function.comp_def, Parameter.demand, inputNames] using first
  rw [← names]
  simp

/-- Where a choice is stated plainly, every field of a tool's input is stated plainly. -/
theorem plain (described : form.Describes tool) (rising : RisingKeys fields)
    (chosen : form.ChoosesPlainly fields) : ∀ field ∈ fields, ∀ parameter ∈ tool.input,
      parameter.name = field.1 → parameter.kind.IsPlain field.2 := by
  intro field there parameter member same
  have demanded : parameter.demand ∈ tool.input.map Parameter.demand :=
    List.mem_map.mpr ⟨parameter, member, rfl⟩
  rw [described.input] at demanded
  rcases List.mem_append.mp demanded with text | optional
  · obtain ⟨name, _, demand⟩ := List.mem_map.mp text
    have kind : .text = parameter.kind := congrArg (·.2.1) demand
    rw [← kind]
    trivial
  · obtain ⟨entry, isOptional, demand⟩ := List.mem_map.mp optional
    have name : entry.1 = parameter.name := congrArg (·.1) demand
    have kind : entry.2 = parameter.kind := congrArg (·.2.1) demand
    rw [← kind]
    apply chosen entry isOptional
    rw [name, same]
    exact rising.firstValue?_of_mem there

/-- The body that is made of the arguments is their projection. -/
theorem isProjection (described : form.Describes tool) (listed : form ∈ bodyForms)
    (rising : RisingKeys fields) (chosen : form.ChoosesPlainly fields) {input : Arguments}
    (read : readFields tool.input fields = .ok input) :
    form.IsProjection fields (input.map fun entry => (entry.1, entry.2.toValue)) := by
  rw [readFields_toValue (described.plain rising chosen) read]
  have exact (field : String × Value) :
      field ∈ fields.filter (fun field =>
        tool.input.any (·.name == field.1) && isSomething field.2) ↔
      field ∈ fields ∧ field.1 ∈ form.inputNames ∧ field.2 ≠ .null := by
    rw [List.mem_filter, Bool.and_eq_true, described.named_iff, isSomething_iff]
  refine ⟨List.filter_sublist, exact, fun field member => ?_⟩
  exact bodyForms_apart form listed _ ((exact field).mp member).2.1

end BodyForm.Describes

/-- The projection of a regular object to a body is regular too. -/
theorem BodyForm.IsProjection.isRegular {form : BodyForm} {fields body : List (String × Value)}
    (projection : form.IsProjection fields body) (regular : (Value.object fields).IsRegular) :
    (Value.object body).IsRegular := by
  refine ⟨regular.1.sublist projection.inOrder, (haveRegularValues_iff body).mpr ?_⟩
  intro field member
  exact (haveRegularValues_iff fields).mp regular.2 field (projection.inOrder.mem member)

/-- What a call sends under a token has the input as its body. -/
theorem body_of_sent {tool : Tool} {server : ToolServer} {cached? : Option Docs.Cached}
    {given : Given} {method : String} {endpoint : List Segment} {reaction : Reaction}
    (operation : tool.operation = .call method endpoint .body reaction) (world : World) :
    ∀ exchange ∈
      ((tool.perform server cached? given).run Chronicle.handle (.start world)).2.exchanges,
      ∀ token : String, bearer token.toList ∈ exchange.request.authorization →
        exchange.request.body? = some (inputBody given.input) := by
  intro exchange member token carries
  obtain ⟨path, _, under, built⟩ := sent_by_tool operation world exchange member token carries
  exact (Plan.build_eq_ok built).2.1

/-- A call of a tool that sends a body is carried out exactly when the arguments fit the tool's
form, and every request that it sends under a token carries the projection of the arguments. This
holds for all objects of arguments in which choices are texts or null, whatever is kept of the
documentation, and in every world. -/
theorem bodies_project_arguments (server : ToolServer) (cached? : Option Docs.Cached)
    (form : BodyForm) (listed : form ∈ bodyForms) (fields : List (String × Value))
    (regular : (Value.object fields).IsRegular) (chosen : form.ChoosesPlainly fields)
    (world : World) :
    form.Governs fields
      ((server.call cached? form.tool fields).run Chronicle.handle (.start world)).1.1
      ((server.call cached? form.tool fields).run Chronicle.handle (.start world)).2.exchanges := by
  obtain ⟨tool, registered, name, described⟩ := bodyForms_describe form listed
  have found : named? form.tool = some tool := by
    rw [← name]
    exact named?_name registered
  have fits : form.Fits fields ↔ ∃ given, tool.readGiven fields = .ok given :=
    (described.fits_iff regular.1).trans (readGiven_isOk_iff registered fields).symm
  cases read : tool.readGiven fields with
  | error problem =>
    rw [run_call_refused Chronicle.handle server cached? found read]
    have unfit : ¬ form.Fits fields := by
      rw [fits, read]
      rintro ⟨given, impossible⟩
      cases impossible
    exact ⟨fun fit => absurd fit unfit, fun _ => ⟨⟨problem, rfl⟩, rfl⟩,
      fun exchange member => absurd member List.not_mem_nil⟩
  | ok given =>
    have performed := run_perform Chronicle.handle tool server cached? given (.start world)
    rw [run_call_given Chronicle.handle server cached? found read]
    refine ⟨fun _ => ⟨_, rfl⟩, fun unfit => absurd (fits.mpr ⟨given, read⟩) unfit, ?_⟩
    intro exchange member token carries
    have made : exchange ∈
        ((tool.perform server cached? given).run Chronicle.handle (.start world)).2.exchanges := by
      rwa [performed]
    obtain ⟨method, endpoint, reaction, operation⟩ := Operation.eq_of_sendsBody described.sends
    have projection := described.isProjection listed regular.1 chosen (readFields_of_readGiven read)
    have body := body_of_sent operation world exchange made token carries
    refine ⟨_, body, ?_, projection⟩
    rw [Request.bodyText, body]
    exact parse?_inputBody (projection.isRegular regular)

/-- The form of the tool that makes an API key. -/
def keyForm : BodyForm := bodyForms[2]

/-- Arguments with a choice that is null, blanks around a name and a field that nothing asks for. -/
def keyFields : List (String × Value) :=
  [("environment", .null), ("name", .string " ci "), ("note", .bool true),
    ("project_id", .string "p")]

/-- The fields of the key that is created make a regular object. -/
theorem keyFields_regular : (Value.object keyFields).IsRegular := by
  refine ⟨?_, ?_⟩
  · unfold keyFields RisingKeys
    decide
  · simp [keyFields, HaveRegularValues, Value.IsRegular]

/-- The plan of the request of that call, under the sample's token and with the blanks in the
name. -/
def keyPlan : Plan :=
  Service.sampleService.callPlan sampleCredential.accessToken "/v1/dashboard/projects/p/api-keys"
    ((Api.RequestOptions.ofMethod "POST").withBody (.object [("name", .string " ci ")]))

/-- The plan for creating a key comes to a request. -/
theorem keyPlan_built : ∃ request, keyPlan.build = .ok request :=
  Plan.exists_request (by decide +kernel)

/-- The call of these arguments sends that request, with the blanks still in it. -/
theorem run_keyCreation {request : Request} (built : keyPlan.build = .ok request) :
    .of request Service.sampleWorld ∈
      ((sampleServer.call none keyForm.tool keyFields).run Chronicle.handle
        (.start Service.sampleWorld)).2.exchanges := by
  have hasToken : sampleServer.service.accessToken?.run Chronicle.handle
      (.start Service.sampleWorld) =
        (some sampleCredential.accessToken, .start Service.sampleWorld) :=
    Service.run_accessToken_fresh _ sampleCredential_loaded (by decide +kernel)
  obtain ⟨tool, given, endpoint, reaction, found, read, operation, filled, options⟩ :
      ∃ tool given endpoint reaction, named? keyForm.tool = some tool ∧
        tool.readGiven keyFields = .ok given ∧
        tool.operation = .call "POST" endpoint .body reaction ∧
        fillPath given.own endpoint = .ok "/v1/dashboard/projects/p/api-keys" ∧
        tool.callOptions "POST" .body given.input =
          (Api.RequestOptions.ofMethod "POST").withBody (.object [("name", .string " ci ")]) :=
    ⟨_, _, _, _, rfl, rfl, rfl, rfl, rfl⟩
  rw [run_call_given _ _ _ found read, run_operate_call _ _ _ operation]
  apply made_by_callEndpoint filled hasToken
  rw [options]
  exact built

/-- The call that makes a key sends the name as it was given, and nothing else of the arguments. -/
theorem key_with_blanks_is_sent : keyForm ∈ bodyForms ∧ (Value.object keyFields).IsRegular ∧
    keyForm.ChoosesPlainly keyFields ∧ keyForm.Fits keyFields ∧
    ∃ exchange ∈ ((sampleServer.call none keyForm.tool keyFields).run Chronicle.handle
        (.start Service.sampleWorld)).2.exchanges,
      ∃ body, Value.parse? exchange.request.bodyText = some (.object body) ∧
        ∀ field, field ∈ body ↔ field = ("name", .string " ci ") := by
  have listed : keyForm ∈ bodyForms := by decide +kernel
  have chosenNull : ∀ entry ∈ keyForm.optional, ∀ value,
      firstValue? entry.1 keyFields = some value → value = .null := by
    intro entry member value found
    obtain rfl := List.mem_singleton.mp member
    exact (Option.some.inj found).symm
  have chosen : keyForm.ChoosesPlainly keyFields := by
    intro entry member value found
    obtain rfl := List.mem_singleton.mp member
    exact .inl (chosenNull _ member value found)
  have fits : keyForm.Fits keyFields := by
    refine ⟨?_, fun entry member value found => .inl (chosenNull entry member value found)⟩
    intro name member
    have either : name = "project_id" ∨ name = "name" := by
      simpa [keyForm, bodyForms] using member
    rcases either with rfl | rfl
    · exact ⟨"p", rfl⟩
    · exact ⟨" ci ", rfl⟩
  have governs := bodies_project_arguments sampleServer none keyForm listed keyFields
    keyFields_regular chosen Service.sampleWorld
  obtain ⟨request, built⟩ := keyPlan_built
  have carries := (Plan.bearer_mem_iff built sampleCredential.accessToken).mpr rfl
  have made := run_keyCreation built
  obtain ⟨body, _, parsed, projection⟩ := governs.sent _ made _ carries
  refine ⟨listed, keyFields_regular, chosen, fits, _, made, body, parsed, fun field => ?_⟩
  rw [projection.exact]
  constructor
  · rintro ⟨given, named, something⟩
    simp only [keyFields, List.mem_cons, List.not_mem_nil, or_false] at given
    rcases given with rfl | rfl | rfl | rfl
    · exact absurd rfl something
    · rfl
    · exact absurd named (by decide)
    · exact absurd named (by decide)
  · rintro rfl
    exact ⟨by simp [keyFields], by decide, by simp⟩

end DashboardTools.Tool
