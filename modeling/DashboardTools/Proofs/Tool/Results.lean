import DashboardTools.Proofs.Json.RoundTrip
import DashboardTools.Proofs.Session.Chronicle
import DashboardTools.Proofs.Tool.Arguments
import DashboardTools.Proofs.Tool.Calls
import DashboardTools.Proofs.Tool.Endpoints

/-!
# How tool calls end

A call whose arguments its tool does not accept ends in a problem of the call, before anything was
sent or changed. Every other call ends in a result with one text, which is JSON. The result reports
an error exactly when the operation came to one, or a poll to an end without a session; a project
without a model is no error. The text of an error is read as an object that holds nothing but the
message, whatever characters the message has.
-/

namespace DashboardTools.Tool

open DashboardTools.Json

/-- The service has no model for a project: not found is what was asked for. -/
def IsExcused (tool : Tool) (finding : Finding) : Prop :=
  tool.name = "astralform_get_llm_config" ∧ ∃ body, finding = .called (.error (.api 404 body))

/-- What an operation came to is an error, or the end of a login that came to nothing. -/
def Fails (tool : Tool) (finding : Finding) : Prop :=
  (∃ error, finding.error? = some error) ∧ ¬ tool.IsExcused finding ∨
    finding = .polled (.ok .expired) ∨ finding = .polled (.ok .denied)

/-- A result tells what an operation came to: in one text that is a document, with the words of an
error where there is one. -/
structure Reports (tool : Tool) (finding : Finding) (result : Result) : Prop where
  text : ∃ text, result.content = [text] ∧ ∃ raw, IsDocument text.toList raw
  isError_iff : result.isError = true ↔ tool.Fails finding
  message : ∀ error, finding.error? = some error → ¬ tool.IsExcused finding →
    ∃ text, result.content = [text] ∧
      Value.parse? text = some (.object [("error", .string error.message)])

/-- How a call of a tool ends, with what is kept of the documentation and the world. -/
structure CallEnds (tool : Tool) (server : ToolServer) (cached? : Option Docs.Cached)
    (fields : List (String × Value)) (world : World) (result : Except CallProblem Result)
    (kept? : Option Docs.Cached) (left : Chronicle) : Prop where
  /-- What is not accepted is a problem of the call: nothing is sent and nothing changes. -/
  refused : ¬ tool.Accepts fields →
    (∃ problem, result = .error (.badArguments problem)) ∧ kept? = cached? ∧ left = .start world
  /-- What is accepted is carried out, and the result tells what came of it. -/
  answered : tool.Accepts fields → ∃ given finding answer, tool.readGiven fields = .ok given ∧
    (tool.operate server cached? given).run Chronicle.handle (.start world) =
      ((finding, kept?), left) ∧ result = .ok answer ∧ tool.Reports finding answer

/-- A value printed with breaks and indentation is a document. -/
theorem isDocument_pretty (value : Value) : ∃ raw, IsDocument value.pretty.toList raw := by
  rw [Value.pretty, String.toList_ofList]
  exact ⟨_, isDocument_write .pretty value⟩

/-- A value printed on one line is a document, whatever its floats are. -/
theorem isDocument_compact (value : Value) : ∃ raw, IsDocument value.compact.toList raw := by
  rw [Value.compact, String.toList_ofList]
  exact ⟨_, isDocument_write .compact value⟩

/-- The text of an error is read as the message alone. -/
theorem parse?_errorValue (error : Error) :
    Value.parse? (errorValue error).compact = some (.object [("error", .string error.message)]) := by
  apply parse?_write_value .compact
  · exact ⟨List.pairwise_singleton _ _, trivial, trivial⟩
  · simp [Value.FloatsReadBack, errorValue, Value.floats, floatsOfFields]
  · simp [errorValue, Value.raw, rawFields, Raw.nesting, nestingOfFields, nestingLimit]

variable {tool : Tool} {finding : Finding}

/-- A value reports that nothing failed, and its text is the value itself. -/
theorem reports_ofValue (value : Value) (succeeds : ¬ tool.Fails finding)
    (noError : finding.error? = none) : tool.Reports finding (.ofValue value) where
  text := ⟨_, rfl, isDocument_pretty value⟩
  isError_iff := ⟨fun impossible => absurd impossible (by simp [Result.ofValue]),
    fun fails => absurd fails succeeds⟩
  message error failed := by
    rw [noError] at failed
    cases failed

/-- An error reports itself, by its own words and as an error. -/
theorem reports_ofError {error : Error} (failed : finding.error? = some error)
    (counts : ¬ tool.IsExcused finding) : tool.Reports finding (.ofError error) where
  text := ⟨_, rfl, isDocument_compact _⟩
  isError_iff := ⟨fun _ => .inl ⟨⟨error, failed⟩, counts⟩, fun _ => rfl⟩
  message other same _ := by
    obtain rfl : error = other := Option.some.inj (failed.symm.trans same)
    exact ⟨_, rfl, parse?_errorValue error⟩

/-- A compact object reports what it is said to report, where there is no error that counts. -/
theorem reports_compactResult {isError : Bool} (fields : List (String × String))
    (reports : isError = true ↔ tool.Fails finding)
    (noError : finding.error? = none ∨ tool.IsExcused finding) :
    tool.Reports finding (compactResult isError fields) where
  text := ⟨_, rfl, isDocument_compact _⟩
  isError_iff := reports
  message error failed counts := by
    rcases noError with nothing | excused
    · rw [nothing] at failed
      cases failed
    · exact absurd excused counts

/-- A finding without an error that is no expired or denied poll does not fail. -/
theorem not_fails {finding : Finding} (noError : finding.error? = none)
    (notExpired : finding ≠ .polled (.ok .expired)) (notDenied : finding ≠ .polled (.ok .denied)) :
    ¬ tool.Fails finding := by
  rintro (⟨⟨error, failed⟩, _⟩ | expired | denied)
  · rw [noError] at failed
    cases failed
  · exact notExpired expired
  · exact notDenied denied

/-- Only a call can be excused. No other operation has a status to be excused by. -/
theorem not_excused (noCall : ∀ outcome, finding ≠ .called outcome) : ¬ tool.IsExcused finding := by
  rintro ⟨_, body, same⟩
  exact noCall _ same

/-- The result of a poll reports what the poll came to, whether or not it was granted. -/
theorem reports_pollResult (outcome : Except AuthError PollOutcome) :
    tool.Reports (.polled outcome) (pollResult outcome) := by
  cases outcome with
  | error error => exact reports_ofError rfl (not_excused (by simp))
  | ok polled =>
    cases polled with
    | granted grant =>
      have succeeds : ¬ tool.Fails (.polled (.ok (.granted grant))) :=
        not_fails rfl (by simp) (by simp)
      exact reports_compactResult _ (by simp [succeeds]) (.inl rfl)
    | pending =>
      have succeeds : ¬ tool.Fails (.polled (.ok .pending)) := not_fails rfl (by simp) (by simp)
      exact reports_compactResult _ (by simp [succeeds]) (.inl rfl)
    | expired => exact reports_compactResult _ ⟨fun _ => .inr (.inl rfl), fun _ => rfl⟩ (.inl rfl)
    | denied => exact reports_compactResult _ ⟨fun _ => .inr (.inr rfl), fun _ => rfl⟩ (.inl rfl)

/-- A reaction takes not found for an answer, which only one of the reactions does. -/
def Reaction.takesNotFound : Reaction → Bool
  | .passedIfFound _ => true
  | _ => false

/-- Only the tool that reads the model of a project takes a missing one for an answer. -/
theorem catalogue_takesNotFound : ∀ tool ∈ catalogue,
    (tool.reaction.takesNotFound = true ↔ tool.name = "astralform_get_llm_config") := by
  decide +kernel

/-- The answer to a call of the service reports what the call came to. -/
theorem reports_apply (registered : tool ∈ catalogue) (outcome : Except Error Value) :
    tool.Reports (.called outcome) (tool.reaction.apply outcome) := by
  have excuses := catalogue_takesNotFound tool registered
  cases outcome with
  | ok value =>
    have succeeds : ¬ tool.Fails (.called (.ok value)) := not_fails rfl (by simp) (by simp)
    cases reacts : tool.reaction with
    | passed => exact reports_ofValue _ succeeds rfl
    | warned warning => exact reports_ofValue _ succeeds rfl
    | acknowledged message => exact reports_ofValue _ succeeds rfl
    | passedIfFound message => exact reports_ofValue _ succeeds rfl
  | error error =>
    have counts (never : tool.reaction.takesNotFound = false) :
        ¬ tool.IsExcused (.called (.error error)) := by
      rintro ⟨named, _⟩
      rw [excuses.mpr named] at never
      cases never
    cases reacts : tool.reaction with
    | passed => exact reports_ofError rfl (counts (by rw [reacts]; rfl))
    | warned warning => exact reports_ofError rfl (counts (by rw [reacts]; rfl))
    | acknowledged message => exact reports_ofError rfl (counts (by rw [reacts]; rfl))
    | passedIfFound message =>
      have named : tool.name = "astralform_get_llm_config" := excuses.mp (by rw [reacts]; rfl)
      by_cases absent : ∃ body, error = .api 404 body
      · obtain ⟨body, rfl⟩ := absent
        have excused : tool.IsExcused (.called (.error (.api 404 body))) := ⟨named, body, rfl⟩
        have succeeds : ¬ tool.Fails (.called (.error (.api 404 body))) := by
          rintro (⟨_, counts⟩ | expired | denied)
          · exact counts excused
          · cases expired
          · cases denied
        exact reports_compactResult _ (by simp [succeeds]) (.inr excused)
      · have counts : ¬ tool.IsExcused (.called (.error error)) := by
          rintro ⟨_, body, same⟩
          obtain rfl : error = .api 404 body := by simpa using same
          exact absent ⟨body, rfl⟩
        have plain : (Reaction.passedIfFound message).apply (.error error) = .ofError error := by
          rw [Reaction.apply.eq_5 _ _ fun body same => absent ⟨body, Except.error.inj same⟩]
          rfl
        rw [plain]
        exact reports_ofError rfl counts

/-- What a tool answers reports what its operation came to. -/
theorem reports_answer (registered : tool ∈ catalogue) (finding : Finding) :
    tool.Reports finding (tool.answer finding) := by
  cases finding with
  | started outcome =>
    cases outcome with
    | error error => exact reports_ofError rfl (not_excused (by simp))
    | ok authorization => exact reports_ofValue _ (not_fails rfl (by simp) (by simp)) rfl
  | polled outcome => exact reports_pollResult outcome
  | searched outcome =>
    cases outcome with
    | error error => exact reports_ofError rfl (not_excused (by simp))
    | ok hits => exact reports_ofValue _ (not_fails rfl (by simp) (by simp)) rfl
  | lookedUp outcome =>
    cases outcome with
    | error error => exact reports_ofError rfl (not_excused (by simp))
    | ok page => exact reports_ofValue _ (not_fails rfl (by simp) (by simp)) rfl
  | called outcome => exact reports_apply registered outcome

/-- No two tools of the catalogue have the same name. -/
theorem catalogue_names_distinct : (catalogue.map (·.name)).Nodup := by
  decide +kernel

/-- A tool is found by its name, since no other tool of the catalogue has that name. -/
theorem named?_name {tool : Tool} (registered : tool ∈ catalogue) :
    named? tool.name = some tool :=
  (find?_eq_some_iff Tool.name catalogue_names_distinct _ _).mpr ⟨registered, rfl⟩

/-- Every call of a tool ends in a result, unless its arguments are not accepted: for all fields,
any credential file, time and documentation that is kept, and whatever becomes of the requests. -/
theorem calls_end_in_results (server : ToolServer) (cached? : Option Docs.Cached) (tool : Tool)
    (registered : tool ∈ catalogue) (fields : List (String × Value)) (world : World) :
    ∃ result kept? left,
      (server.call cached? tool.name fields).run World.handle world =
        ((result, kept?), left.world) ∧
      tool.CallEnds server cached? fields world result kept? left := by
  have found := named?_name registered
  have plain := Chronicle.run_world (server.call cached? tool.name fields) (.start world)
  have accepts := readGiven_isOk_iff registered fields
  cases read : tool.readGiven fields with
  | error problem =>
    have refuses : ¬ tool.Accepts fields := by
      rw [← accepts, read]
      rintro ⟨given, impossible⟩
      cases impossible
    rw [run_call_refused Chronicle.handle server cached? found read] at plain
    refine ⟨_, _, _, plain, ⟨fun _ => ⟨⟨problem, rfl⟩, rfl, rfl⟩, fun accepted => ?_⟩⟩
    exact absurd accepted refuses
  | ok given =>
    rw [run_call_given Chronicle.handle server cached? found read] at plain
    refine ⟨_, _, _, plain, ⟨fun refuses => ?_, fun _ => ?_⟩⟩
    · exact absurd (accepts.mp ⟨given, read⟩) refuses
    · exact ⟨given, _, _, read, rfl, rfl, reports_answer registered _⟩

/-- A tool that reads a project, as it stands in the catalogue. -/
def projectReading : Tool :=
  readingProject "astralform_get_project" "Get details for a specific project." (project [])

/-- Arguments that name a project by a text with a slash and a quotation mark. -/
def quotedProject : List (String × Value) := [("project_id", .string "a/\"b")]

/-- The call names no project that could be asked for, and its result says so. -/
theorem quoted_project_is_reported : projectReading ∈ catalogue ∧
    projectReading.Accepts quotedProject ∧ ∃ result text,
      ((sampleServer.call none projectReading.name quotedProject).run World.handle
        Service.sampleWorld).1.1 = .ok result ∧
      result.isError = true ∧ result.content = [text] ∧ Value.parse? text = some (.object
        [("error", .string "Invalid argument: project_id contains invalid characters: a/\"b")]) := by
  have registered : projectReading ∈ catalogue := by decide +kernel
  have accepted : projectReading.Accepts quotedProject :=
    (readGiven_isOk_iff registered _).mp ⟨_, rfl⟩
  obtain ⟨result, kept?, left, ran, ends⟩ := calls_end_in_results sampleServer none projectReading
    registered quotedProject Service.sampleWorld
  obtain ⟨given, finding, answer, read, operated, rfl, reports⟩ := ends.answered accepted
  obtain rfl := Except.ok.inj (read.symm.trans rfl)
  have found : finding = .called (.error (.invalidArgument
      "project_id contains invalid characters: a/\"b")) :=
    congrArg (·.1.1) (operated.symm.trans rfl)
  subst found
  have counts : ¬ projectReading.IsExcused (.called (.error (.invalidArgument
      "project_id contains invalid characters: a/\"b"))) := by
    rintro ⟨named, _⟩
    exact absurd named (by decide)
  obtain ⟨text, content, parsed⟩ := reports.message _ rfl counts
  refine ⟨registered, accepted, answer, text, by rw [ran], ?_, content, parsed⟩
  exact reports.isError_iff.mpr (.inl ⟨⟨_, rfl⟩, counts⟩)

end DashboardTools.Tool
