import DashboardTools.Proofs.Http.Building
import DashboardTools.Proofs.Service.Calling
import DashboardTools.Proofs.Url.Extending
import DashboardTools.Tool.Server

/-!
# Where tool calls go

An endpoint is meant as a path below the service's address: its fixed words in their places and each
identifier as one segment. The check of identifiers refuses the separators that an address always
has, but not all that its reader acts on. A request goes where it is meant to exactly when each
identifier, as the reader sees it, is not empty and stands as a segment.
-/

namespace DashboardTools.Tool

open DashboardTools.Api
open DashboardTools.Http
open DashboardTools.Text
open DashboardTools.Url

/-- A word is read in an address as it is written. -/
structure IsWord (word : List Char) : Prop where
  written : word ≠ []
  asSeen : ∀ isLast, seen isLast word = word
  asShown : percentEncode pathSet word = word
  noEnd : ∀ c ∈ word, endsSegment c = false
  stands : Stands word

/-- Whether a fixed text is a word of an endpoint can be decided by its characters. -/
instance (word : List Char) : Decidable (IsWord word) :=
  decidable_of_iff (word ≠ [] ∧ (seen false word = word ∧ seen true word = word) ∧
      percentEncode pathSet word = word ∧ (word.all fun c => !endsSegment c) = true ∧ Stands word)
    ⟨fun ⟨written, asSeen, asShown, noEnd, stands⟩ =>
        ⟨written, Bool.forall_bool.mpr asSeen, asShown, by simpa using noEnd, stands⟩,
      fun ⟨written, asSeen, asShown, noEnd, stands⟩ =>
        ⟨written, Bool.forall_bool.mp asSeen, asShown, by simpa using noEnd, stands⟩⟩

/-- The fixed segments of an endpoint are words. Identifiers are checked when they are given. -/
def Segment.IsProper : Segment → Prop
  | .fixed word => IsWord word.toList
  | .identifier _ => True

/-- Whether a segment is proper can be decided: a fixed one by its characters, and an identifier
always is. -/
instance : DecidablePred Segment.IsProper
  | .fixed word => inferInstanceAs (Decidable (IsWord word.toList))
  | .identifier _ => inferInstanceAs (Decidable True)

/-- The tool calls an endpoint of the dashboard, if any. -/
def IsProper (tool : Tool) : Prop :=
  match tool.operation with
  | .call _ endpoint _ _ =>
    endpoint = dashboard (endpoint.drop 2) ∧ ∀ segment ∈ endpoint, segment.IsProper
  | _ => True

/-- Whether a tool is proper can be decided from its operation. -/
instance (tool : Tool) : Decidable tool.IsProper := by
  unfold IsProper
  split <;> infer_instance

/-- Every tool of the catalogue is proper, so what it calls is an endpoint of the dashboard. -/
theorem catalogue_proper : ∀ tool ∈ catalogue, tool.IsProper := by
  decide +kernel

/-- The text that a segment is filled with: its own word, or the identifier that is given without
the blanks around it. -/
def Segment.text (arguments : Arguments) : Segment → List Char
  | .fixed word => word.toList
  | .identifier name => trim ((arguments.text? name).getD "").toList

/-- A proper segment that can be filled is filled with its own text, and no character of that text
ends a segment. -/
theorem Segment.fill_eq_ok {arguments : Arguments} {segment : Segment} {filled : String}
    (proper : segment.IsProper) (accepted : segment.fill arguments = .ok filled) :
    filled.toList = segment.text arguments ∧ ∀ c ∈ segment.text arguments, endsSegment c = false := by
  cases segment with
  | fixed word =>
    obtain rfl := Except.ok.inj accepted
    exact ⟨rfl, proper.noEnd⟩
  | identifier name =>
    simp only [Segment.fill, checkIdentifier] at accepted
    split at accepted
    · cases accepted
    · split at accepted
      · cases accepted
      next noEnd =>
        obtain rfl := Except.ok.inj accepted
        exact ⟨String.toList_ofList, by simpa [Segment.text] using noEnd⟩

/-- The path of an endpoint is the texts of its segments, each after a slash; none of them holds
what would end a segment. -/
theorem fillPath_eq_ok {arguments : Arguments} {endpoint : List Segment} {path : String}
    (proper : ∀ segment ∈ endpoint, segment.IsProper)
    (filled : fillPath arguments endpoint = .ok path) :
    path.toList = joined (endpoint.map (Segment.text arguments)) ∧
      ∀ segment ∈ endpoint, ∀ c ∈ segment.text arguments, endsSegment c = false := by
  induction endpoint generalizing path with
  | nil =>
    obtain rfl := Except.ok.inj filled
    exact ⟨rfl, by simp⟩
  | cons segment rest inductionHypothesis =>
    unfold fillPath at filled
    cases first : segment.fill arguments with
    | error problem =>
      rw [first] at filled
      cases filled
    | ok start =>
      cases later : fillPath arguments rest with
      | error problem =>
        rw [first, later] at filled
        cases filled
      | ok more =>
        rw [first, later] at filled
        obtain rfl := Except.ok.inj filled
        obtain ⟨startText, startClear⟩ := Segment.fill_eq_ok (proper segment (by simp)) first
        obtain ⟨moreText, moreClear⟩ :=
          inductionHypothesis (fun other member => proper other (by simp [member])) later
        constructor
        · simp [joined, startText, moreText]
        · intro other member
          rcases List.mem_cons.mp member with rfl | inRest
          · exact startClear
          · exact moreClear other inRest

/-- The path of an endpoint begins neither a query nor a fragment. -/
theorem fillPath_unmarked {arguments : Arguments} {endpoint : List Segment} {path : String}
    (proper : ∀ segment ∈ endpoint, segment.IsProper)
    (filled : fillPath arguments endpoint = .ok path) :
    ∀ c ∈ path.toList, c ≠ '?' ∧ c ≠ '#' := by
  obtain ⟨pathText, noEnd⟩ := fillPath_eq_ok proper filled
  rw [pathText]
  intro c member
  obtain ⟨text, isText, inText⟩ := List.mem_flatMap.mp member
  obtain ⟨segment, inEndpoint, rfl⟩ := List.mem_map.mp isText
  rcases List.mem_cons.mp inText with rfl | inSegment
  · decide
  · have stays := noEnd segment inEndpoint c inSegment
    simp only [endsSegment, Bool.or_eq_false_iff, beq_eq_false_iff_ne] at stays
    exact ⟨stays.1.2, stays.2⟩

/-- A segment in its place: a word as it is and an identifier in percent form. -/
def Segment.meant (arguments : Arguments) (isLast : Bool) : Segment → List Char
  | .fixed word => word.toList
  | .identifier name =>
    percentEncode pathSet (seen isLast (Segment.text arguments (.identifier name)))

/-- The segments of an endpoint in their places, as each is read there. -/
def meantPath (arguments : Arguments) : List Segment → List (List Char)
  | [] => []
  | segment :: rest => segment.meant arguments rest.isEmpty :: meantPath arguments rest

/-- The path that is meant has as many segments as the endpoint. -/
theorem meantPath_length (arguments : Arguments) (endpoint : List Segment) :
    (meantPath arguments endpoint).length = endpoint.length := by
  induction endpoint with
  | nil => rfl
  | cons segment rest inductionHypothesis => simp [meantPath, inductionHypothesis]

/-- An address leads to an endpoint below a base: its path is the base's, followed by the segments
of the endpoint in their places, none of them empty. -/
def LeadsTo (base : BaseAddress) (arguments : Arguments) (endpoint : List Segment) (url : Url) :
    Prop :=
  url.path = .segments (base.segments ++ meantPath arguments endpoint) ∧
    [] ∉ meantPath arguments endpoint

/-- Every identifier is something that stands as a segment once it is read. -/
def IdentifiersStand (arguments : Arguments) : List Segment → Prop
  | [] => True
  | .fixed _ :: rest => IdentifiersStand arguments rest
  | .identifier name :: rest =>
    (seen rest.isEmpty (Segment.text arguments (.identifier name)) ≠ [] ∧
      Stands (seen rest.isEmpty (Segment.text arguments (.identifier name)))) ∧
    IdentifiersStand arguments rest

/-- Whether all identifiers of an endpoint stand can be decided segment by segment. -/
instance decidableIdentifiersStand (arguments : Arguments) :
    (endpoint : List Segment) → Decidable (IdentifiersStand arguments endpoint)
  | [] => inferInstanceAs (Decidable True)
  | .fixed _ :: rest => decidableIdentifiersStand arguments rest
  | .identifier _ :: rest => @instDecidableAnd _ _ _ (decidableIdentifiersStand arguments rest)

section

variable {arguments : Arguments} {endpoint : List Segment}

/-- The path that an endpoint is meant as is what is read of its texts, in percent form. -/
theorem meantPath_eq (proper : ∀ segment ∈ endpoint, segment.IsProper) :
    meantPath arguments endpoint =
      (seenAll (endpoint.map (Segment.text arguments))).map (percentEncode pathSet) := by
  induction endpoint with
  | nil => rfl
  | cons segment rest inductionHypothesis =>
    have later := inductionHypothesis fun other member => proper other (by simp [member])
    have first : segment.meant arguments rest.isEmpty =
        percentEncode pathSet (seen rest.isEmpty (segment.text arguments)) := by
      cases segment with
      | fixed word =>
        have isWord : IsWord word.toList := proper (.fixed word) (by simp)
        rw [Segment.text, isWord.asSeen, isWord.asShown]
        rfl
      | identifier name => rfl
    rw [meantPath, later, first]
    simp [seenAll]

/-- For a proper endpoint all identifiers stand exactly when each text, as it is read at its place
in the address, is filled and stands. -/
theorem identifiersStand_iff (proper : ∀ segment ∈ endpoint, segment.IsProper) :
    IdentifiersStand arguments endpoint ↔
      ∀ text ∈ seenAll (endpoint.map (Segment.text arguments)), text ≠ [] ∧ Stands text := by
  induction endpoint with
  | nil => simp [IdentifiersStand, seenAll]
  | cons segment rest inductionHypothesis =>
    have later := inductionHypothesis fun other member => proper other (by simp [member])
    rw [List.map_cons, seenAll, List.forall_mem_cons, List.isEmpty_map, ← later]
    cases segment with
    | fixed word =>
      have isWord : IsWord word.toList := proper (.fixed word) (by simp)
      have stands : seen rest.isEmpty (Segment.text arguments (.fixed word)) ≠ [] ∧
          Stands (seen rest.isEmpty (Segment.text arguments (.fixed word))) := by
        rw [Segment.text, isWord.asSeen]
        exact ⟨isWord.written, isWord.stands⟩
      simp only [IdentifiersStand, stands, ne_eq, not_false_eq_true, and_self, true_and]
    | identifier name => rfl

/-- A request that is built for a call to an endpoint leads there exactly when its identifiers
stand. -/
theorem leadsTo_iff {base : BaseAddress} {service : Service}
    (located : service.base.toList = base.text) (nonempty : endpoint ≠ [])
    (proper : ∀ segment ∈ endpoint, segment.IsProper) {path : String}
    (filled : fillPath arguments endpoint = .ok path) {token : String} {options : RequestOptions}
    {request : Request} (built : (service.callPlan token path options).build = .ok request) :
    LeadsTo base arguments endpoint request.url ↔ IdentifiersStand arguments endpoint := by
  have pathText := (fillPath_eq_ok proper filled).1
  obtain ⟨_, _, url, parsed, samePath, web, _⟩ := Plan.build_eq_ok built
  have unmarked := fillPath_unmarked proper filled
  rw [pathText] at unmarked
  have address : (service.callPlan token path options).address.toList =
      base.text ++ joined (endpoint.map (Segment.text arguments)) := by
    rw [Service.callPlan, String.toList_append, located, pathText]
  rw [address] at parsed
  have read := BaseAddress.path_of_parse? (by simpa using nonempty) unmarked parsed web
  have shown := OrderedPath.addAll_texts_iff base.ordered_stands
    (@plain_of_mem_seenAll (endpoint.map (Segment.text arguments)))
  rw [LeadsTo, samePath, read, identifiersStand_iff proper, meantPath_eq proper]
  rw [AddressPath.segments.injEq, BaseAddress.segments, shown, List.mem_map]
  constructor
  · rintro ⟨stand, filled⟩ text member
    refine ⟨?_, stand text member⟩
    rintro rfl
    exact filled ⟨[], member, rfl⟩
  · intro stand
    refine ⟨fun text member => (stand text member).2, ?_⟩
    rintro ⟨text, member, empty⟩
    exact (stand text member).1 (percentEncode_eq_nil.mp empty)

end

section

variable {tool : Tool} {server : ToolServer} {cached? : Option Docs.Cached} {given : Given}
variable {method : String} {endpoint : List Segment} {use : InputUse} {reaction : Reaction}

/-- The options of a call keep its method, whatever is done with the input. -/
theorem callOptions_method (tool : Tool) (method : String) (use : InputUse) (input : Arguments) :
    (tool.callOptions method use input).method = method := by
  have kept (parameters : List Parameter) (options : RequestOptions) :
      (parameters.foldl (fun options parameter =>
        options.withQuery parameter.name (filledText? input parameter.name)) options).method =
        options.method := by
    induction parameters generalizing options with
    | nil => rfl
    | cons parameter rest inductionHypothesis =>
      rw [List.foldl_cons, inductionHypothesis]
      cases filledText? input parameter.name <;> rfl
  cases use with
  | unused => rfl
  | body => rfl
  | query => exact kept _ _

/-- What a tool call sends under a token is the request of its endpoint. -/
theorem sent_by_tool (operation : tool.operation = .call method endpoint use reaction) (world : World) :
    ∀ exchange ∈
      ((tool.perform server cached? given).run Chronicle.handle (.start world)).2.exchanges,
      ∀ token : String, bearer token.toList ∈ exchange.request.authorization →
        ∃ path, fillPath given.own endpoint = .ok path ∧ ∃ under,
          (server.service.callPlan under path (tool.callOptions method use given.input)).build =
            .ok exchange.request := by
  intro exchange member token carries
  simp only [perform, operation, callEndpoint] at member
  cases filled : fillPath given.own endpoint with
  | error problem =>
    rw [filled] at member
    exact absurd member List.not_mem_nil
  | ok path =>
    rw [filled] at member
    rw [Program.run_sequence, Service.run_call] at member
    dsimp only [Program.run_pure] at member
    rcases Service.sent_by_call _ _ _ _ exchange member with before | ⟨other, built⟩ | built
    · exact absurd before List.not_mem_nil
    · have ofRenewal := (Plan.bearer_mem_iff built token).mp carries
      cases ofRenewal
    · exact ⟨path, rfl, built⟩

/-- With a token at hand a call to an endpoint makes the exchange of the request that is built for
it. -/
theorem made_by_callEndpoint {service : Service} {path token : String}
    (filled : fillPath given.own endpoint = .ok path) {world : World}
    (hasToken : service.accessToken?.run Chronicle.handle (.start world) =
      (some token, .start world))
    {request : Request}
    (built : (service.callPlan token path (tool.callOptions method use given.input)).build =
      .ok request) :
    .of request world ∈ ((tool.callEndpoint service given method endpoint use).run
      Chronicle.handle (.start world)).2.exchanges := by
  have sent := (Service.run_callUnder service
    (service.callPlan token path (tool.callOptions method use given.input)) (.start world)).2
  rw [callEndpoint, filled]
  dsimp only
  rw [Service.run_call, Service.run_callForBody_under _ hasToken, sent]
  unfold Plan.exchange?
  rw [built]
  exact List.mem_append_right _ List.mem_cons_self

/-- Whatever a tool of the catalogue is called with, each request that it sends under a token has
the method of the tool, and leads to the endpoint of the tool exactly when the identifiers stand.
Then it stays below the dashboard of the service. -/
theorem tool_requests_lead_to_endpoint_iff (server : ToolServer) (base : BaseAddress)
    (located : server.service.base.toList = base.text) (tool : Tool) (listed : tool ∈ catalogue)
    (method : String) (endpoint : List Segment) (use : InputUse) (reaction : Reaction)
    (operation : tool.operation = .call method endpoint use reaction) (cached? : Option Docs.Cached)
    (given : Given) (world : World) :
    ∀ exchange ∈
      ((tool.perform server cached? given).run Chronicle.handle (.start world)).2.exchanges,
      ∀ token : String, bearer token.toList ∈ exchange.request.authorization →
        exchange.request.method = method ∧
        (LeadsTo base given.own endpoint exchange.request.url ↔
          IdentifiersStand given.own endpoint) ∧
        (IdentifiersStand given.own endpoint → ∃ rest, rest.length + 2 = endpoint.length ∧
          exchange.request.url.path =
            .segments (base.segments ++ "v1".toList :: "dashboard".toList :: rest)) := by
  intro exchange member token carries
  obtain ⟨path, filled, under, built⟩ := sent_by_tool operation world exchange member token carries
  have proper := catalogue_proper tool listed
  simp only [IsProper, operation] at proper
  obtain ⟨ofDashboard, words⟩ := proper
  have nonempty : endpoint ≠ [] := by
    rw [ofDashboard]
    exact List.cons_ne_nil _ _
  have leads := leadsTo_iff located nonempty words filled built
  refine ⟨?_, leads, fun stand => ?_⟩
  · rw [(Plan.build_eq_ok built).1]
    exact callOptions_method tool method use given.input
  · have reached := (leads.mpr stand).1
    obtain ⟨rest, rfl⟩ : ∃ rest, endpoint = dashboard rest := ⟨_, ofDashboard⟩
    refine ⟨meantPath given.own rest, ?_, reached⟩
    rw [meantPath_length]
    rfl

end

/-- A server of the sample service, with documentation at an address of its own. -/
def sampleServer : ToolServer := ⟨Service.sampleService, ⟨"http://docs.test", 0⟩⟩

/-- The parts of the address that the sample service is reached at. -/
def sampleBase : BaseAddress where
  scheme := "http".toList
  authority := "api.test".toList
  path := []
  startsScheme := by decide
  isScheme := by decide
  named := by decide
  noSlash c member := by
    have none : ("api.test".toList.all fun c => !isSlash c) = true := by decide
    simpa using List.all_eq_true.mp none c member
  unmarked c member := by
    have none : ("api.test".toList.all fun c => c != '?' && c != '#') = true := by decide
    simpa using List.all_eq_true.mp none c (by simpa [joined] using member)

/-- The arguments that name a key of the project `p`. -/
def keyOf (key : String) : Given := ⟨[("key_id", .text key), ("project_id", .text "p")], []⟩

/-- The tool that revokes a key, as it stands in the catalogue. -/
def revocation : Tool := keyTools[2]

/-- The request that revokes a key under the token of the sample session, if one can be built. -/
def revocationRequest? (key : String) : Option Request :=
  match fillPath (keyOf key).own (keySegments [.identifier "key_id"]) with
  | .error _ => none
  | .ok path =>
    match (Service.sampleService.callPlan Credential.sampleCredential.accessToken path
        (.ofMethod "DELETE")).build with
    | .error _ => none
    | .ok request => some request

/-- Revoking a key in the sample world sends that request. -/
theorem run_revocation (key : String) {request : Request}
    (wanted : revocationRequest? key = some request) :
    bearer Credential.sampleCredential.accessToken.toList ∈ request.authorization ∧
      ∃ exchange ∈ ((revocation.perform sampleServer none (keyOf key)).run Chronicle.handle
        (.start Service.sampleWorld)).2.exchanges, exchange.request = request := by
  unfold revocationRequest? at wanted
  split at wanted
  · cases wanted
  next path filled =>
    have built : (Service.sampleService.callPlan Credential.sampleCredential.accessToken path
        (.ofMethod "DELETE")).build = .ok request := by
      split at wanted
      · cases wanted
      next built => rw [built, Option.some.inj wanted]
    have hasToken : Service.sampleService.accessToken?.run Chronicle.handle
        (.start Service.sampleWorld) =
          (some Credential.sampleCredential.accessToken, .start Service.sampleWorld) :=
      Service.run_accessToken_fresh _ Credential.sampleCredential_loaded (by decide +kernel)
    have operation : revocation.operation = .call "DELETE" (keySegments [.identifier "key_id"])
      .unused (.acknowledged "API key revoked") := rfl
    refine ⟨(Plan.bearer_mem_iff built _).mpr rfl, .of request Service.sampleWorld, ?_, rfl⟩
    simp only [perform, operation, Program.run_sequence, Program.run_pure]
    exact made_by_callEndpoint filled hasToken built

/-- A key whose identifier is made of letters is revoked at its own address: the request is a DELETE
that leads to the key. -/
theorem key_of_letters_is_revoked :
    ∃ exchange ∈ ((revocation.perform sampleServer none (keyOf "k1")).run Chronicle.handle
        (.start Service.sampleWorld)).2.exchanges,
      exchange.request.method = "DELETE" ∧
        LeadsTo sampleBase (keyOf "k1").own (keySegments [.identifier "key_id"])
          exchange.request.url := by
  have some : (revocationRequest? "k1").isSome = true := by decide +kernel
  obtain ⟨request, wanted⟩ := Option.isSome_iff_exists.mp some
  obtain ⟨carries, exchange, sent, rfl⟩ := run_revocation "k1" wanted
  obtain ⟨method, leads, _⟩ := tool_requests_lead_to_endpoint_iff sampleServer sampleBase
    (by decide) revocation (by decide) "DELETE" (keySegments [.identifier "key_id"]) .unused
    (.acknowledged "API key revoked") rfl none (keyOf "k1") Service.sampleWorld exchange sent _
    carries
  exact ⟨exchange, sent, method, leads.mpr (by decide +kernel)⟩

/-- A key that is named by two dots passes the check, and revoking it asks to delete its project. -/
theorem key_of_dots_leads_to_its_project :
    ∃ exchange ∈ ((revocation.perform sampleServer none (keyOf "..")).run Chronicle.handle
        (.start Service.sampleWorld)).2.exchanges,
      exchange.request.method = "DELETE" ∧
      bearer Credential.sampleCredential.accessToken.toList ∈ exchange.request.authorization ∧
      exchange.request.url.path = .segments ["v1".toList, "dashboard".toList, "projects".toList,
        "p".toList, []] ∧
      ¬ LeadsTo sampleBase (keyOf "..").own (keySegments [.identifier "key_id"])
        exchange.request.url := by
  have place : (revocationRequest? "..").map (fun request => (request.method, request.url.path)) =
      some ("DELETE", .segments ["v1".toList, "dashboard".toList, "projects".toList, "p".toList,
        []]) := by decide +kernel
  obtain ⟨request, wanted, same⟩ := Option.map_eq_some_iff.mp place
  obtain ⟨carries, exchange, sent, rfl⟩ := run_revocation ".." wanted
  obtain ⟨method, path⟩ := Prod.mk.inj same
  refine ⟨exchange, sent, method, carries, path, ?_⟩
  rintro ⟨meant, _⟩
  rw [path] at meant
  exact absurd meant (by decide +kernel)

end DashboardTools.Tool
