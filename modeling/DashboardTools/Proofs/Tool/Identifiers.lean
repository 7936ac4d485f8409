import DashboardTools.Proofs.Tool.Endpoints

/-!
# Identifiers are looked at before anything is done

The identifiers of an endpoint are the project and, in some, what is named within the project. A
call looks at all of them, in this order, before it looks for a token. So a call with an identifier
that is unfit complains about the first of them and is over: nothing was sent, not even to renew the
session, and the credential file was not touched. All other calls never complain about an argument,
whatever comes of them.
-/

namespace DashboardTools.Service

open DashboardTools.Api
open DashboardTools.Http

/-- No ending of a planned call is an invalid argument. Such an error is only made before anything
is sent. -/
theorem Ending.ne_invalidArgument {service : Service} {plan : Plan} {world next : World}
    {result : Except Error (List UInt8)} (ending : service.Ending plan world result next)
    (message : String) : result ≠ .error (.invalidArgument message) := by
  cases ending with
  | unanswered | expired | failed | broken | received => exact nofun

/-- Making a call for its body never ends in an invalid argument. -/
theorem callForBody_ne_invalidArgument (service : Service) (path : String) (options : RequestOptions)
    (chronicle : Chronicle) (message : String) :
    ((service.callForBody path options).run Chronicle.handle chronicle).1 ≠
      .error (.invalidArgument message) := by
  cases token : service.accessToken?.run Chronicle.handle chronicle with
  | mk token? next =>
    cases token? with
    | none =>
      rw [run_callForBody_without _ token]
      exact nofun
    | some access =>
      rw [run_callForBody_under _ token]
      exact (run_callUnder service (service.callPlan access path options) next).1.ne_invalidArgument
        message

/-- A call never ends in an invalid argument, because it takes a path and options that are already
made. -/
theorem call_ne_invalidArgument (service : Service) (path : String) (options : RequestOptions)
    (chronicle : Chronicle) (message : String) :
    ((service.call path options).run Chronicle.handle chronicle).1 ≠
      .error (.invalidArgument message) := by
  rw [run_call]
  have received := callForBody_ne_invalidArgument service path options chronicle message
  cases answered : ((service.callForBody path options).run Chronicle.handle chronicle).1 with
  | error error =>
    rw [answered] at received
    intro complains
    obtain rfl : error = .invalidArgument message := Except.error.inj complains
    exact received rfl
  | ok bytes =>
    have decoded : decodeBody bytes ≠ .error (.invalidArgument message) := by
      unfold decodeBody
      split <;> exact nofun
    exact decoded

end DashboardTools.Service

namespace DashboardTools.Tool

open DashboardTools.Text

/-- A text is no identifier: trimming it leaves nothing, or a character that would end a segment. -/
def Unfit (text : String) : Prop :=
  trim text.toList = [] ∨ ∃ c ∈ trim text.toList, c = '/' ∨ c = '?' ∨ c = '#'

/-- What is said of an unfit identifier. A blank one is said to be empty, and any other is quoted as
it was trimmed. -/
inductive Complains (name text : String) : String → Prop where
  | blank (nothing : trim text.toList = []) : Complains name text (name ++ " must not be empty")
  | marked (c : Char) (member : c ∈ trim text.toList) (ends : c = '/' ∨ c = '?' ∨ c = '#') :
    Complains name text
      (name ++ " contains invalid characters: " ++ .ofList (trim text.toList))

/-- The characters that end a segment are the slash, the question mark and the number sign. -/
theorem endsSegment_iff (c : Char) : endsSegment c = true ↔ c = '/' ∨ c = '?' ∨ c = '#' := by
  simp [endsSegment, or_assoc]

/-- There is a complaint about a text exactly when it is unfit. -/
theorem exists_complains_iff {name text : String} :
    (∃ message, Complains name text message) ↔ Unfit text := by
  constructor
  · rintro ⟨_, complains⟩
    cases complains with
    | blank nothing => exact .inl nothing
    | marked c member ends => exact .inr ⟨c, member, ends⟩
  · rintro (nothing | ⟨c, member, ends⟩)
    · exact ⟨_, .blank nothing⟩
    · exact ⟨_, .marked c member ends⟩

/-- The check of an identifier fails with what is said of it. -/
theorem checkIdentifier_eq_error_iff {name text : String} {error : Error} :
    checkIdentifier name text = .error error ↔
      ∃ message, Complains name text message ∧ error = .invalidArgument message := by
  unfold checkIdentifier
  constructor
  · intro fails
    dsimp only at fails
    split at fails
    next nothing =>
      obtain rfl := Except.error.inj fails
      exact ⟨_, .blank (List.isEmpty_iff.mp nothing), rfl⟩
    next =>
      split at fails
      next marked =>
        obtain rfl := Except.error.inj fails
        obtain ⟨c, member, ends⟩ := List.any_eq_true.mp marked
        exact ⟨_, .marked c member ((endsSegment_iff c).mp ends), rfl⟩
      next => cases fails
  · rintro ⟨message, complains, rfl⟩
    cases complains with
    | blank nothing => simp [nothing]
    | marked c member ends =>
      have left : (trim text.toList).isEmpty = false := by
        rw [List.isEmpty_eq_false_iff]
        exact List.ne_nil_of_mem member
      have marked : (trim text.toList).any endsSegment = true :=
        List.any_eq_true.mpr ⟨c, member, (endsSegment_iff c).mpr ends⟩
      simp [left, marked]

/-- A text is accepted as a segment unless it is unfit. -/
theorem checkIdentifier_isOk_iff {name text : String} :
    (∃ segment, checkIdentifier name text = .ok segment) ↔ ¬ Unfit text := by
  rw [← @exists_complains_iff name]
  cases checked : checkIdentifier name text with
  | error error =>
    obtain ⟨message, complains, _⟩ := checkIdentifier_eq_error_iff.mp checked
    refine iff_of_false ?_ (not_not_intro ⟨message, complains⟩)
    rintro ⟨_, impossible⟩
    cases impossible
  | ok segment =>
    refine iff_of_true ⟨segment, rfl⟩ ?_
    rintro ⟨message, complains⟩
    have fails := checkIdentifier_eq_error_iff.mpr ⟨message, complains, rfl⟩
    rw [checked] at fails
    cases fails

/-- The name of the argument that fills a segment, if the segment is not fixed. -/
def Segment.name? : Segment → Option String
  | .fixed _ => none
  | .identifier name => some name

/-- The names of the identifiers of an endpoint, in their order. -/
def identifierNames (endpoint : List Segment) : List String := endpoint.filterMap Segment.name?

/-- The text that is given for an identifier. Where none is given it counts as empty. -/
def identifierText (arguments : Arguments) (name : String) : String := (arguments.text? name).getD ""

/-- A complaint about the first of some identifiers that is unfit. -/
def FirstComplaint (arguments : Arguments) (names : List String) (message : String) : Prop :=
  ∃ before name after, names = before ++ name :: after ∧
    (∀ earlier ∈ before, ¬ Unfit (identifierText arguments earlier)) ∧
    Complains name (identifierText arguments name) message

variable {arguments : Arguments} {name message : String} {names : List String}

/-- Where there are no identifiers there is nothing to complain of. -/
theorem not_firstComplaint_nil : ¬ FirstComplaint arguments [] message := by
  rintro ⟨before, name, after, split, _⟩
  exact List.append_ne_nil_of_right_ne_nil before (List.cons_ne_nil name after) split.symm

/-- The first complaint is about the first identifier, or the first identifier is fit and the
complaint is about one of the others. -/
theorem firstComplaint_cons_iff : FirstComplaint arguments (name :: names) message ↔
    Complains name (identifierText arguments name) message ∨
      ¬ Unfit (identifierText arguments name) ∧ FirstComplaint arguments names message := by
  constructor
  · rintro ⟨before, found, after, split, fit, complains⟩
    cases before with
    | nil =>
      obtain ⟨rfl, rfl⟩ := List.cons.inj split
      exact .inl complains
    | cons first rest =>
      obtain ⟨rfl, rfl⟩ := List.cons.inj split
      obtain ⟨firstFit, restFit⟩ := List.forall_mem_cons.mp fit
      exact .inr ⟨firstFit, rest, found, after, rfl, restFit, complains⟩
  · rintro (complains | ⟨firstFit, before, found, after, rfl, fit, complains⟩)
    · exact ⟨[], name, names, rfl, by simp, complains⟩
    · exact ⟨name :: before, found, after, rfl, List.forall_mem_cons.mpr ⟨firstFit, fit⟩, complains⟩

/-- There is something to complain about exactly when some identifier is unfit. -/
theorem exists_firstComplaint_iff : (∃ message, FirstComplaint arguments names message) ↔
    ∃ name ∈ names, Unfit (identifierText arguments name) := by
  constructor
  · rintro ⟨message, before, name, after, rfl, _, complains⟩
    exact ⟨name, by simp, exists_complains_iff.mp ⟨message, complains⟩⟩
  · intro unfit
    induction names with
    | nil =>
      obtain ⟨name, member, _⟩ := unfit
      cases member
    | cons first rest inductionHypothesis =>
      by_cases firstUnfit : Unfit (identifierText arguments first)
      · obtain ⟨message, complains⟩ := exists_complains_iff.mpr firstUnfit
        exact ⟨message, firstComplaint_cons_iff.mpr (.inl complains)⟩
      · obtain ⟨name, member, nameUnfit⟩ := unfit
        rcases List.mem_cons.mp member with rfl | inRest
        · exact absurd nameUnfit firstUnfit
        · obtain ⟨message, later⟩ := inductionHypothesis ⟨name, inRest, nameUnfit⟩
          exact ⟨message, firstComplaint_cons_iff.mpr (.inr ⟨firstUnfit, later⟩)⟩

/-- Filling in a path goes on only as long as nothing is wrong. -/
theorem fillPath_cons_eq_error_iff {segment : Segment} {rest : List Segment} {error : Error} :
    fillPath arguments (segment :: rest) = .error error ↔
      segment.fill arguments = .error error ∨
        (∃ filled, segment.fill arguments = .ok filled) ∧ fillPath arguments rest = .error error := by
  rw [fillPath]
  cases segment.fill arguments with
  | error problem => simp [bind, Except.bind]
  | ok filled => cases fillPath arguments rest <;> simp [bind, Except.bind]

/-- A path that cannot be filled in is a complaint about the first identifier that is unfit. -/
theorem fillPath_eq_error_iff {endpoint : List Segment} {error : Error} :
    fillPath arguments endpoint = .error error ↔
      ∃ message, FirstComplaint arguments (identifierNames endpoint) message ∧
        error = .invalidArgument message := by
  induction endpoint with
  | nil =>
    have never (message : String) : ¬ FirstComplaint arguments (identifierNames []) message :=
      not_firstComplaint_nil
    simp [fillPath, never]
  | cons segment rest inductionHypothesis =>
    rw [fillPath_cons_eq_error_iff, inductionHypothesis]
    cases segment with
    | fixed word =>
      have skipped : identifierNames (.fixed word :: rest) = identifierNames rest := rfl
      simp [skipped, Segment.fill]
    | identifier name =>
      have named : identifierNames (.identifier name :: rest) = name :: identifierNames rest := rfl
      have checked : Segment.fill arguments (.identifier name) =
          checkIdentifier name (identifierText arguments name) := rfl
      simp only [named, checked, firstComplaint_cons_iff, checkIdentifier_eq_error_iff,
        checkIdentifier_isOk_iff, or_and_right, exists_or, and_assoc, exists_and_left]

/-- The identifiers that an endpoint can have, in the order in which they are checked. -/
def identifierOrders : List (List String) :=
  [[], ["project_id"], ["project_id", "key_id"], ["project_id", "server_id"],
   ["project_id", "tool_name"]]

/-- The endpoint that a tool calls, if it calls any. -/
def endpoint? (tool : Tool) : Option (List Segment) :=
  match tool.operation with
  | .call _ endpoint _ _ => some endpoint
  | _ => none

/-- The identifiers of an endpoint are the tool's own arguments, the project first. -/
theorem catalogue_ordersIdentifiers : ∀ tool ∈ catalogue, ∀ endpoint ∈ tool.endpoint?,
    identifierNames endpoint = tool.own.map (·.name) ∧
      identifierNames endpoint ∈ identifierOrders := by
  decide +kernel

/-- How a call fares with the identifiers of its endpoint. -/
structure IdentifierCourse (arguments : Arguments) (names : List String) (world : World)
    (result : Except Error Json.Value) (left : Chronicle) : Prop where
  refused_iff : (∃ message, result = .error (.invalidArgument message)) ↔
    ∃ name ∈ names, Unfit (identifierText arguments name)
  /-- The first unfit identifier is named, and by then nothing is done. -/
  refused : ∀ message, result = .error (.invalidArgument message) →
    FirstComplaint arguments names message ∧ left.exchanges = [] ∧ left.world = world

/-- All identifiers of a call are looked at before anything else: for every tool of the catalogue
that calls the service, all arguments, every content of the credential file, every time, and
whatever would become of the requests. -/
theorem identifiers_are_checked_first (tool : Tool) (listed : tool ∈ catalogue) (method : String)
    (endpoint : List Segment) (use : InputUse) (reaction : Reaction)
    (operation : tool.operation = .call method endpoint use reaction) (service : Service)
    (given : Given) (world : World) (result : Except Error Json.Value) (left : Chronicle)
    (ran : (tool.callEndpoint service given method endpoint use).run Chronicle.handle (.start world) =
      (result, left)) :
    (tool.callEndpoint service given method endpoint use).run World.handle world =
        (result, left.world) ∧
      identifierNames endpoint = tool.own.map (·.name) ∧
      identifierNames endpoint ∈ identifierOrders ∧
      IdentifierCourse given.own (identifierNames endpoint) world result left := by
  have plain := Chronicle.run_world (tool.callEndpoint service given method endpoint use)
    (.start world)
  rw [ran] at plain
  have called : endpoint ∈ tool.endpoint? := by
    unfold endpoint?
    rw [operation]
    rfl
  have ordered := catalogue_ordersIdentifiers tool listed endpoint called
  refine ⟨plain, ordered.1, ordered.2, ?_⟩
  unfold callEndpoint at ran
  cases filled : fillPath given.own endpoint with
  | error error =>
    rw [filled] at ran
    obtain ⟨rfl, rfl⟩ := Prod.mk.inj ran
    obtain ⟨message, complaint, rfl⟩ := fillPath_eq_error_iff.mp filled
    refine ⟨iff_of_true ⟨message, rfl⟩ (exists_firstComplaint_iff.mp ⟨message, complaint⟩), ?_⟩
    intro other same
    obtain rfl := Error.invalidArgument.inj (Except.error.inj same)
    exact ⟨complaint, rfl, rfl⟩
  | ok path =>
    -- From here on the service is called, and none of its endings is about an argument.
    rw [filled] at ran
    have never (message : String) : result ≠ .error (.invalidArgument message) := by
      have answered := Service.call_ne_invalidArgument service path
        (callOptions tool method use given.input) (.start world) message
      rw [ran] at answered
      exact answered
    refine ⟨iff_of_false ?_ ?_, ?_⟩
    · rintro ⟨message, complains⟩
      exact never message complains
    · intro unfit
      obtain ⟨message, complaint⟩ := exists_firstComplaint_iff.mpr unfit
      have fails := fillPath_eq_error_iff.mpr ⟨message, complaint, rfl⟩
      rw [filled] at fails
      cases fails
    · intro message complains
      exact absurd complains (never message)

/-- Arguments that name a key by a text with a slash, and a project by blanks. -/
def blankProject : Given := ⟨[("key_id", .text "a/b"), ("project_id", .text " \u3000")], []⟩

/-- A session that is due for renewal, in the sample's world at a later time. -/
def dueWorld : World := { Service.sampleWorld with wall := 1800000000000 }

/-- A project of blanks is refused although the session is due for refresh. Nothing is sent, and the
world stays as it is. -/
theorem blank_project_is_refused : revocation ∈ catalogue ∧
    Credential.sampleCredential.needsRefresh dueWorld.now = true ∧
    (revocation.callEndpoint Service.sampleService blankProject "DELETE"
        (keySegments [.identifier "key_id"]) .unused).run World.handle dueWorld =
      (.error (.invalidArgument "project_id must not be empty"), dueWorld) := by
  have listed : revocation ∈ catalogue := by decide
  obtain ⟨plain, _, _, course⟩ := identifiers_are_checked_first revocation listed "DELETE"
    (keySegments [.identifier "key_id"]) .unused (.acknowledged "API key revoked") rfl
    Service.sampleService blankProject dueWorld _ _ (Prod.eta _).symm
  have unfit : Unfit (identifierText blankProject.own "project_id") := .inl (by decide +kernel)
  obtain ⟨message, refused⟩ := course.refused_iff.mpr ⟨"project_id", by decide, unfit⟩
  obtain ⟨complaint, _, untouched⟩ := course.refused message refused
  rw [refused, untouched] at plain
  rcases firstComplaint_cons_iff.mp complaint with complains | ⟨fit, _⟩
  · cases complains with
    | blank => exact ⟨listed, by decide +kernel, plain⟩
    | marked c member =>
      have nothing : trim (identifierText blankProject.own "project_id").toList = [] := by
        decide +kernel
      rw [nothing] at member
      cases member
  · exact absurd unfit fit

end DashboardTools.Tool
