import DashboardTools.Proofs.Http.Building
import DashboardTools.Proofs.Service.Bodies
import DashboardTools.Proofs.Tool.Calls
import DashboardTools.Proofs.Tool.Endpoints

/-!
# Answers that are passed on

Most tools answer what the service answered. Once the service answered a success whose body was read
to its end, the body alone decides: a blank one is passed on as null, one that states a value as
that value, and any other one is an error of reading. The two tools that create something which is
shown only once put a warning into the object that they pass on, and change nothing else in it.
-/

namespace DashboardTools.Tool

open DashboardTools.Credential
open DashboardTools.Decimal
open DashboardTools.Http
open DashboardTools.Json
open DashboardTools.Service
open DashboardTools.Text

/-- The names of the tools that answer what the service answered. -/
def answeringTools : List String :=
  ["astralform_whoami", "astralform_get_stats", "astralform_list_projects", "astralform_get_project",
    "astralform_create_project", "astralform_update_project", "astralform_list_api_keys",
    "astralform_create_api_key", "astralform_list_llm_providers", "astralform_get_llm_config",
    "astralform_set_llm_config", "astralform_list_mcp_templates", "astralform_list_mcp_servers",
    "astralform_add_mcp_server", "astralform_update_mcp_server", "astralform_toggle_mcp_server",
    "astralform_list_platform_tools", "astralform_get_project_tools",
    "astralform_update_project_tool", "astralform_get_analytics"]

/-- The warning that a tool puts into what it answers. -/
def warningOf? (name : String) : Option String :=
  if name = "astralform_create_project" then
    some "The encryption_key above is shown ONLY ONCE. Save it securely!"
  else if name = "astralform_create_api_key" then
    some "The full_key above is shown ONLY ONCE. Save it securely!"
  else none

/-- What is answered in place of a value: the value itself, unless there is a warning and the value
is an object. Then it is the object in which the warning stands under its key and every other key
has the value that it had. -/
def IsMarked : (warning? : Option String) → (value answered : Value) → Prop
  | some warning, .object fields, answered => ∃ marked, answered = .object marked ∧
    ∀ key, firstValue? key marked =
      if key = "WARNING" then some (.string warning) else firstValue? key fields
  | _, value, answered => answered = value

/-- A call passes a body on. A blank body is answered as null, and one that cannot be decoded is an
error. -/
structure PassesOn (warning? : Option String) (bytes : List UInt8)
    (result : Except CallProblem Result) : Prop where
  blank : IsBlankBody bytes →
    ∃ text, result = .ok ⟨false, [text]⟩ ∧ Value.parse? text = some .null
  stated : ∀ value, States bytes value → value.FloatsReadBack →
    ∃ text answered, result = .ok ⟨false, [text]⟩ ∧ Value.parse? text = some answered ∧
      IsMarked warning? value answered
  neither : ¬ IsBlankBody bytes → (∀ value, ¬ States bytes value) →
    result = .ok (Result.ofError .serialization)

/-- A reaction passes values on, with this warning or without one. -/
def Reaction.passes (warning? : Option String) : Reaction → Bool
  | .passed => warning?.isNone
  | .passedIfFound _ => warning?.isNone
  | .warned warning => warning? == some warning
  | .acknowledged _ => false

/-- A tool passes on what the service answers, with a warning or without one. -/
def passes (tool : Tool) (warning? : Option String) : Bool :=
  match tool.operation with
  | .call _ _ _ reaction => reaction.passes warning?
  | _ => false

/-- Each of the tools that answer with a body passes it on, with the warning that goes with its
name. -/
theorem answeringTools_pass : ∀ name ∈ answeringTools,
    (named? name).any (fun tool => tool.passes (warningOf? name)) = true := by
  decide +kernel

/-- No other tool passes anything on, so the list of those that do is complete. -/
theorem catalogue_passes : ∀ tool ∈ catalogue,
    (tool.passes (warningOf? tool.name) = true ↔ tool.name ∈ answeringTools) := by
  decide +kernel

/-- The value that is answered, with the warning put into it if there is one. -/
def marked (warning? : Option String) (value : Value) : Value :=
  match warning? with
  | some warning => withWarning warning value
  | none => value

/-- Marking an answer with a warning leaves the value itself as it was. -/
theorem isMarked_marked (warning? : Option String) (value : Value) :
    IsMarked warning? value (marked warning? value) := by
  cases warning? with
  | none => cases value <;> rfl
  | some warning =>
    cases value with
    | object fields =>
      refine ⟨putField "WARNING" (.string warning) fields, rfl, ?_⟩
      intro key
      rw [firstValue?_putField]
      by_cases same : key = "WARNING"
      · rw [if_pos same, if_pos same.symm]
      · rw [if_neg same, if_neg fun equal => same equal.symm]
    | null => rfl
    | bool b => rfl
    | int n => rfl
    | float x => rfl
    | string text => rfl
    | array items => rfl

/-- The text of what is answered is read as what is answered. -/
theorem parse?_pretty_marked (warning? : Option String) {value : Value}
    (regular : value.IsRegular) (readBack : value.FloatsReadBack)
    (nests : value.raw.nesting ≤ nestingLimit) :
    Value.parse? (marked warning? value).pretty = some (marked warning? value) := by
  have plain : Value.parse? value.pretty = some value :=
    parse?_write_value .pretty regular readBack nests
  cases warning? with
  | none => exact plain
  | some warning =>
    cases value with
    | object fields =>
      apply parse?_write_value .pretty
      · exact isRegular_putField "WARNING" regular trivial
      · exact floatsReadBack_putField "WARNING" readBack (by simp [Value.FloatsReadBack, Value.floats])
      · exact nesting_putField "WARNING" nests (Nat.zero_le _)
    | null => exact plain
    | bool b => exact plain
    | int n => exact plain
    | float x => exact plain
    | string text => exact plain
    | array items => exact plain

/-- A reaction that passes on turns a decoded value into a result that shows it, and a body that
cannot be decoded into that error. -/
theorem apply_of_passes {warning? : Option String} {reaction : Reaction}
    (passes : reaction.passes warning? = true) :
    (∀ value, reaction.apply (.ok value) = Result.ofValue (marked warning? value)) ∧
      reaction.apply (.error .serialization) = Result.ofError .serialization := by
  cases reaction with
  | passed =>
    obtain rfl := Option.isNone_iff_eq_none.mp passes
    exact ⟨fun _ => rfl, rfl⟩
  | passedIfFound message =>
    obtain rfl := Option.isNone_iff_eq_none.mp passes
    exact ⟨fun _ => rfl, rfl⟩
  | warned warning =>
    obtain rfl : warning? = some warning := beq_iff_eq.mp passes
    exact ⟨fun _ => rfl, rfl⟩
  | acknowledged message => cases passes

/-- What a passing reaction makes of a body, whether it is blank, states a value, or does
neither. -/
theorem passesOn_of_passes {warning? : Option String} {reaction : Reaction}
    (passes : reaction.passes warning? = true) (bytes : List UInt8) :
    PassesOn warning? bytes (.ok (reaction.apply (decodeBody bytes))) := by
  obtain ⟨values, failure⟩ := apply_of_passes passes
  refine ⟨fun blank => ?_, fun value states readBack => ?_, fun filled nothing => ?_⟩
  · rw [decodeBody_of_blank blank, values]
    have unmarked : marked warning? .null = .null := by cases warning? <;> rfl
    have parsed := @parse?_pretty_marked warning? .null trivial
      (by simp [Value.FloatsReadBack, Value.floats]) (Nat.zero_le _)
    rw [unmarked] at parsed ⊢
    exact ⟨_, rfl, parsed⟩
  · have read := (decodeBody_eq_ok_iff states.not_blank value).mpr states
    obtain ⟨text, raw, _, _, nests, denotes⟩ := states
    rw [read, values]
    refine ⟨_, marked warning? value, rfl, ?_, isMarked_marked warning? value⟩
    exact parse?_pretty_marked warning? denotes.isRegular readBack
      (Nat.le_trans denotes.nesting_raw nests)
  · rw [decodeBody_of_neither filled nothing, failure]

variable {server : ToolServer} {cached? : Option Docs.Cached} {fields : List (String × Value)}

/-- A tool that calls the service applies its reaction to the body that the call brought. -/
theorem run_call_received {name : String} {tool : Tool} {method : String} {endpoint : List Segment}
    {use : InputUse} {reaction : Reaction} (found : named? name = some tool)
    (operation : tool.operation = .call method endpoint use reaction) {chronicle : Chronicle}
    {exchange : Exchange} {bytes : List UInt8}
    (made : exchange ∈
      ((server.call cached? name fields).run Chronicle.handle chronicle).2.exchanges)
    (new : exchange ∉ chronicle.exchanges) (brings : BringsBody exchange bytes) :
    ((server.call cached? name fields).run Chronicle.handle chronicle).1.1 =
      .ok (reaction.apply (decodeBody bytes)) := by
  have reacts : tool.reaction = reaction := by rw [Tool.reaction, operation]
  cases read : tool.readGiven fields with
  | error problem =>
    rw [run_call_refused _ _ _ found read] at made
    exact absurd made new
  | ok given =>
    rw [run_call_given _ _ _ found read, run_operate_call _ _ _ operation] at made ⊢
    unfold callEndpoint at made ⊢
    cases filled : fillPath given.own endpoint with
    | error error =>
      rw [filled] at made
      exact absurd made new
    | ok path =>
      simp only [filled, run_call] at made ⊢
      rw [callForBody_received made new brings, answer, reacts]
      rfl

/-- Where a call of an answering tool brought a body, the result is what the tool's reaction makes
of decoding that body. -/
theorem run_call_passes {name : String} {world : World} {exchange : Exchange} {bytes : List UInt8}
    (answering : name ∈ answeringTools)
    (made : exchange ∈
      ((server.call cached? name fields).run Chronicle.handle (.start world)).2.exchanges)
    (brings : BringsBody exchange bytes) :
    ∃ reaction : Reaction, reaction.passes (warningOf? name) = true ∧
      ((server.call cached? name fields).run World.handle world).1.1 =
        .ok (reaction.apply (decodeBody bytes)) := by
  have plain := Chronicle.run_world (server.call cached? name fields) (.start world)
  rw [show (Chronicle.start world).world = world from rfl] at plain
  obtain ⟨tool, found, passes⟩ := (Option.any_eq_true _ _).mp (answeringTools_pass name answering)
  unfold Tool.passes at passes
  split at passes
  next method endpoint use reaction operation =>
    have answered := run_call_received found operation made List.not_mem_nil brings
    exact ⟨reaction, passes, by rw [plain, ← answered]⟩
  next => cases passes

/-- Every tool that answers what the service answered passes its body on, whatever it is called with
and whatever became of earlier requests of the call. -/
theorem answers_are_passed_on (server : ToolServer) (cached? : Option Docs.Cached) (name : String)
    (fields : List (String × Value)) (world : World) (exchange : Exchange) (bytes : List UInt8)
    (answering : name ∈ answeringTools)
    (made : exchange ∈
      ((server.call cached? name fields).run Chronicle.handle (.start world)).2.exchanges)
    (brings : BringsBody exchange bytes) :
    PassesOn (warningOf? name) bytes
      ((server.call cached? name fields).run World.handle world).1.1 := by
  obtain ⟨reaction, passes, answered⟩ := run_call_passes answering made brings
  rw [answered]
  exact passesOn_of_passes passes bytes

/-- A world with the sample session in which every request is answered by a success with this
body. -/
def worldAnswering (bytes : List UInt8) : World :=
  { sampleWorld with outcomes := fun _ => .replied 5 ⟨200, some bytes⟩ }

/-- The arguments of a call that creates a project, which are as few as can be. -/
def creation : List (String × Value) := [("name", .string "p")]

/-- The plan of the request of that call, under the sample's token. -/
def creationPlan : Plan :=
  sampleService.callPlan sampleCredential.accessToken "/v1/dashboard/projects"
    ((Api.RequestOptions.ofMethod "POST").withBody (.object creation))

/-- The plan for creating a project comes to a request. -/
theorem creationPlan_built : ∃ request, creationPlan.build = .ok request :=
  Plan.exists_request (by decide +kernel)

/-- Whatever bytes the service answers with, creating a project brings them as a body. -/
theorem run_creation (bytes : List UInt8) :
    ∃ exchange ∈ ((sampleServer.call none "astralform_create_project" creation).run
      Chronicle.handle (.start (worldAnswering bytes))).2.exchanges, BringsBody exchange bytes := by
  obtain ⟨request, built⟩ := creationPlan_built
  have fresh : sampleCredential.needsRefresh sampleWorld.now = false := by decide +kernel
  have token := @run_accessToken_fresh sampleService (.start (worldAnswering bytes)) _
    sampleCredential_loaded fresh
  obtain ⟨tool, given, endpoint, warning, found, read, operation, filled, options⟩ :
      ∃ tool given endpoint warning, named? "astralform_create_project" = some tool ∧
        tool.readGiven creation = .ok given ∧
        tool.operation = .call "POST" endpoint .body (.warned warning) ∧
        fillPath given.own endpoint = .ok "/v1/dashboard/projects" ∧
        tool.callOptions "POST" .body given.input =
          (Api.RequestOptions.ofMethod "POST").withBody (.object creation) :=
    ⟨_, _, _, _, rfl, rfl, rfl, rfl, rfl⟩
  refine ⟨.of request (worldAnswering bytes), ?_, ⟨sampleCredential.accessToken, ?_⟩, ?_⟩
  · rw [run_call_given _ _ _ found read, run_operate_call _ _ _ operation]
    apply made_by_callEndpoint filled token
    rw [options]
    exact built
  · exact (Plan.bearer_mem_iff built _).mpr rfl
  · exact ⟨⟨200, some bytes⟩, rfl, rfl, rfl⟩

/-- The fields of an answer to that call; one key comes twice. -/
def createdFields : List (String × Value) :=
  [("id", .int 7), ("encryption_key", .string "k"), ("id", .int 8)]

/-- The body of that answer, written on one line. -/
def createdBody : List UInt8 := Utf8.encode (write .compact 0 (.object createdFields))

/-- Of the fields with a repeated name the last one is kept, and the names are in order. -/
theorem createdFields_kept :
    IsMapOf createdFields [("encryption_key", .string "k"), ("id", .int 8)] := by
  constructor
  · apply List.pairwise_cons.mpr
    constructor
    · intro field member
      obtain rfl := List.mem_singleton.mp member
      decide
    · exact List.pairwise_singleton _ _
  · intro key
    simp only [createdFields, firstValue?_cons, lastValue?_cons, firstValue?_nil, lastValue?_nil]
    by_cases isId : "id" = key
    · simp [← isId]
    · simp [isId]

/-- The body of the answer states the object with the fields that are kept. -/
theorem createdBody_states : States createdBody
    (.object [("encryption_key", .string "k"), ("id", .int 8)]) := by
  have document : IsDocument (write .compact 0 (.object createdFields))
      (Value.object createdFields).raw := isDocument_write .compact _
  have regular : HaveRegularValues createdFields := by
    simp [createdFields, HaveRegularValues, Value.IsRegular, FitsWord]
  have fieldwise : FieldsDenote (rawFields createdFields) createdFields :=
    fieldsDenote_raw regular (by simp [createdFields, floatsOfFields, Value.floats])
  exact ⟨_, _, Utf8.decode?_encode _, document, by decide,
    .object _ createdFields _ fieldwise createdFields_kept⟩

/-- The one-time key of a new project is passed on, with a warning beside it. -/
theorem created_project_is_passed_on : ∃ exchange text fields,
    "astralform_create_project" ∈ answeringTools ∧
    exchange ∈ ((sampleServer.call none "astralform_create_project" creation).run
      Chronicle.handle (.start (worldAnswering createdBody))).2.exchanges ∧
    BringsBody exchange createdBody ∧
    ((sampleServer.call none "astralform_create_project" creation).run World.handle
      (worldAnswering createdBody)).1.1 = .ok ⟨false, [text]⟩ ∧
    Value.parse? text = some (.object fields) ∧
    firstValue? "encryption_key" fields = some (.string "k") ∧
    firstValue? "id" fields = some (.int 8) ∧
    firstValue? "WARNING" fields =
      some (.string "The encryption_key above is shown ONLY ONCE. Save it securely!") := by
  obtain ⟨exchange, made, brings⟩ := run_creation createdBody
  have answering : "astralform_create_project" ∈ answeringTools := by decide
  obtain ⟨text, answered, result, parsed, marked⟩ :=
    (answers_are_passed_on sampleServer none "astralform_create_project" creation
      (worldAnswering createdBody) exchange createdBody answering made brings).stated _
      createdBody_states (by simp [Value.FloatsReadBack, Value.floats, floatsOfFields])
  obtain ⟨fields, rfl, values⟩ := marked
  refine ⟨exchange, text, fields, answering, made, brings, result, parsed, ?_, ?_, ?_⟩
  · rw [values]
    rfl
  · rw [values]
    rfl
  · rw [values]
    rfl

/-- A number beyond all floating point numbers, written with an exponent of three digits. -/
def hugeNumeral : Numeral := ⟨false, digitsOf ['1'], [], some (false, digitsOf ['9', '9', '9'])⟩

/-- A numeral that is too large for a float is still a document of the format. -/
theorem hugeNumeral_stated : IsDocument "1e999".toList (.number hugeNumeral) := by
  refine ⟨[], "1e999".toList, [], rfl, by simp [IsGapText], .number _ _ ?_, by simp [IsGapText]⟩
  exact .parts false ['1'] [] _ [] _ (natText_isWhole 1) .nothing
    (.mark 'e' [] ['9', '9', '9'] false (.inl rfl) .nothing ⟨by simp, by simp⟩)

/-- A numeral that is too large for a float denotes no value. -/
theorem hugeNumeral_meaningless (value : Value) : ¬ Denotes (.number hugeNumeral) value := by
  intro denotes
  cases denotes with
  | integer _ n isInteger => cases isInteger.noExponent
  | float _ x noInteger inRange =>
    have outOfRange : hugeNumeral.float?.isNone = true := by decide +kernel
    rw [inRange] at outOfRange
    cases outOfRange

/-- A surrogate without its partner is a string of the grammar, written as one escaped unit. -/
theorem loneSurrogate_stated :
    IsDocument "\"\\ud800\"".toList (.string [.escaped 0xD800]) := by
  have states : StatesPieces (['\\', 'u', 'd', '8', '0', '0'] ++ []) [.escaped 0xD800] :=
    .more _ [] _ [] (.unit 'd' '8' '0' '0' 0xD800 (by decide)) .nothing
  exact ⟨[], _, [], rfl, by simp [IsGapText], .string _ _ states, by simp [IsGapText]⟩

/-- One half of a surrogate pair without the other denotes no value. -/
theorem loneSurrogate_meaningless (value : Value) : ¬ Denotes (.string [.escaped 0xD800]) value := by
  intro denotes
  cases denotes with
  | string _ text spells =>
    generalize text.toList = characters at spells
    cases spells with
    | unit _ _ _ alone rest => omega

/-- The text is well-formed JSON, the call of the sample session is brought it, and the call fails
all the same. -/
def IsRefused (text : List Char) : Prop :=
  (∃ raw, IsDocument text raw ∧ raw.nesting ≤ nestingLimit) ∧
  (∃ exchange ∈ ((sampleServer.call none "astralform_create_project" creation).run
    Chronicle.handle (.start (worldAnswering (Utf8.encode text)))).2.exchanges,
      BringsBody exchange (Utf8.encode text)) ∧
  ((sampleServer.call none "astralform_create_project" creation).run World.handle
    (worldAnswering (Utf8.encode text))).1.1 = .ok (Result.ofError .serialization)

/-- A document that denotes no value is refused, although it is well-formed and not nested too
deeply. -/
theorem isRefused_of_meaningless {text : List Char} {raw : Raw} (document : IsDocument text raw)
    (nests : raw.nesting ≤ nestingLimit) (nothing : ∀ value, ¬ Denotes raw value) :
    IsRefused text := by
  obtain ⟨exchange, made, brings⟩ := run_creation (Utf8.encode text)
  obtain ⟨reaction, passes, answered⟩ := run_call_passes (by decide) made brings
  refine ⟨⟨raw, document, nests⟩, ⟨exchange, made, brings⟩, ?_⟩
  rw [answered, decodeBody_of_meaningless document nothing, (apply_of_passes passes).2]

/-- Not every JSON text is passed on. A number can be too large, and a surrogate can stand alone. -/
theorem wellFormed_body_is_refused :
    IsRefused "1e999".toList ∧ IsRefused "\"\\ud800\"".toList := by
  constructor
  · exact isRefused_of_meaningless hugeNumeral_stated (Nat.zero_le _) hugeNumeral_meaningless
  · exact isRefused_of_meaningless loneSurrogate_stated (Nat.zero_le _) loneSurrogate_meaningless

end DashboardTools.Tool
