import DashboardTools.Proofs.Http.Queries
import DashboardTools.Proofs.Tool.Calls
import DashboardTools.Proofs.Tool.Endpoints
import DashboardTools.Proofs.Url.Forms

/-!
# Dates in requests for analytics

A request for the analytics of a project has the dates that were given in its query, and nothing
else of it comes from them. Whatever characters the dates have, the query states them as they were
given, the start before the end; an empty date counts as none, and without dates there is no query.
A date can only keep a request from being sent by making its address too long.
-/

namespace DashboardTools.Service

open DashboardTools.Api
open DashboardTools.Credential
open DashboardTools.Http

/-- The request of an exchange asks for access by a token. -/
def IsUnderToken (exchange : Exchange) : Prop :=
  ∃ token : String, bearer token.toList ∈ exchange.request.authorization

/-- The exchange of a renewal is not under a token. Its token is sent in the body, and no header
carries one. -/
theorem not_isUnderToken_of_refresh {service : Service} {refreshToken : String} {exchange : Exchange}
    (built : (service.refreshPlan refreshToken).build = .ok exchange.request) :
    ¬ IsUnderToken exchange := by
  rintro ⟨token, carries⟩
  cases (Plan.bearer_mem_iff built token).mp carries

/-- Looking for a token sends nothing under one. At most it sends a renewal, whose token stands in
the body. -/
theorem not_isUnderToken_of_accessToken (service : Service) (world : World) : ∀ exchange ∈
    (service.accessToken?.run Chronicle.handle (.start world)).2.exchanges,
      ¬ IsUnderToken exchange := by
  intro exchange member
  cases loaded : load? world.disk service.credentialFile with
  | none =>
    rw [run_accessToken_none (.start world) loaded] at member
    cases member
  | some credential =>
    cases due : credential.needsRefresh world.now with
    | false =>
      rw [run_accessToken_fresh (.start world) loaded due] at member
      cases member
    | true =>
      have sent := (run_refresh service credential.refreshToken (.start world)).2
      rw [run_accessToken_due (.start world) loaded due] at member
      dsimp only at member
      rw [sent, List.mem_append, Option.mem_toList] at member
      rcases member with earlier | made
      · cases earlier
      · exact not_isUnderToken_of_refresh (Plan.exchange?_eq_some made).1

/-- All that a call sends under a token is the request of its plan, once it has a token. -/
theorem sent_under_token_iff (service : Service) (path : String) (options : RequestOptions)
    (world : World) (exchange : Exchange) :
    (exchange ∈ ((service.call path options).run Chronicle.handle (.start world)).2.exchanges ∧
      IsUnderToken exchange) ↔
    ∃ token next, service.accessToken?.run Chronicle.handle (.start world) = (some token, next) ∧
      (service.callPlan token path options).exchange? next.world = some exchange := by
  have before := not_isUnderToken_of_accessToken service world
  rw [run_call]
  cases ran : service.accessToken?.run Chronicle.handle (.start world) with
  | mk token? next =>
    rw [ran] at before
    cases token? with
    | none =>
      rw [run_callForBody_without _ ran]
      constructor
      · rintro ⟨member, under⟩
        exact absurd under (before exchange member)
      · rintro ⟨token, _, impossible, _⟩
        cases impossible
    | some token =>
      rw [run_callForBody_under _ ran, (run_callUnder _ _ _).2, List.mem_append, Option.mem_toList]
      constructor
      · rintro ⟨earlier | made, under⟩
        · exact absurd under (before exchange earlier)
        · exact ⟨token, next, rfl, made⟩
      · rintro ⟨_, _, same, made⟩
        cases same
        have built := (Plan.exchange?_eq_some made).1
        exact ⟨.inr made, token, (Plan.bearer_mem_iff built token).mpr rfl⟩

end DashboardTools.Service

namespace DashboardTools.Tool

open DashboardTools.Api
open DashboardTools.Http
open DashboardTools.Json
open DashboardTools.Service
open DashboardTools.Url

/-- The arguments that ask for the analytics of a project in a range of dates, either end of which
may be left open. -/
def rangeFields (identifier : String) (start? stop? : Option String) : List (String × Value) :=
  (stop?.toList.map fun date => ("end_date", .string date)) ++ ("project_id", .string identifier) ::
    start?.toList.map fun date => ("start_date", .string date)

/-- The dates of a range that are there and not empty, under their names. -/
def givenDates (start? stop? : Option String) : List (String × String) :=
  ((start?.filter fun date => !date.isEmpty).toList.map fun date => ("start_date", date)) ++
    (stop?.filter fun date => !date.isEmpty).toList.map fun date => ("end_date", date)

/-- Asking for the analytics of a project in a range of dates makes an exchange under a token. -/
def AsksForAnalytics (server : ToolServer) (identifier : String) (start? stop? : Option String)
    (world : World) (exchange : Exchange) : Prop :=
  exchange ∈ ((server.call none "astralform_get_analytics" (rangeFields identifier start? stop?)).run
    Chronicle.handle (.start world)).2.exchanges ∧ IsUnderToken exchange

/-- Two addresses have the same path, and the same in all else but their queries. -/
def SameUpToQuery (one other : Url) : Prop := { one with query? := none } = { other with query? := none }

/-- An address with pairs added to its query is the same address up to the query. -/
theorem sameUpToQuery_withPairs (url : Url) (pairs : List (List Char × List Char)) :
    SameUpToQuery (url.withPairs pairs) url := by
  unfold SameUpToQuery Url.withPairs
  split <;> rfl

/-- The tool that reads the analytics of a project, as it stands in the catalogue. -/
def analyticsTool : Tool := platformTools[4]

/-- The endpoint of that tool, below the project that it is asked about. -/
def analyticsSegments : List Segment := project [.fixed "analytics"]

/-- What is read of the arguments: the identifier, and those dates that are given. -/
def rangeOf (identifier : String) (start? stop? : Option String) : Given where
  own := [("project_id", .text identifier)]
  input := (stop?.toList.map fun date => ("end_date", .text date)) ++
    start?.toList.map fun date => ("start_date", .text date)

/-- The tool that reports analytics is found under its name. -/
theorem analyticsTool_named : named? "astralform_get_analytics" = some analyticsTool := by
  decide +kernel

/-- The fields of a range are read as the arguments that state it. A date that is left out is not
among them. -/
theorem readGiven_rangeFields (identifier : String) (start? stop? : Option String) :
    analyticsTool.readGiven (rangeFields identifier start? stop?) =
      .ok (rangeOf identifier start? stop?) := by
  cases start? <;> cases stop? <;> rfl

/-- The query of the call has the dates that are given, and nothing else. -/
theorem callOptions_rangeOf (identifier : String) (start? stop? : Option String) :
    analyticsTool.callOptions "GET" .query (rangeOf identifier start? stop?).input =
      { RequestOptions.ofMethod "GET" with query := givenDates start? stop? } := by
  have start : filledText? (rangeOf identifier start? stop?).input "start_date" =
      start?.filter fun date => !date.isEmpty := by
    cases start? <;> cases stop? <;> rfl
  have stop : filledText? (rangeOf identifier start? stop?).input "end_date" =
      stop?.filter fun date => !date.isEmpty := by
    cases start? <;> cases stop? <;> rfl
  have parameters : analyticsTool.input.map (·.name) = ["start_date", "end_date"] := by
    decide +kernel
  have folded : analyticsTool.callOptions "GET" .query (rangeOf identifier start? stop?).input =
      (analyticsTool.input.map (·.name)).foldl (fun options name =>
        options.withQuery name (filledText? (rangeOf identifier start? stop?).input name))
        (RequestOptions.ofMethod "GET") := by
    rw [List.foldl_map]
    rfl
  rw [folded, parameters, List.foldl_cons, List.foldl_cons, List.foldl_nil, start, stop, givenDates]
  cases start?.filter fun date => !date.isEmpty <;> cases stop?.filter fun date => !date.isEmpty <;>
    rfl

/-- The plan of the request, once the identifier is in its path. -/
def rangePlan (service : Service) (path token : String) (start? stop? : Option String) : Plan :=
  service.callPlan token path
    { RequestOptions.ofMethod "GET" with query := givenDates start? stop? }

section

variable {server : ToolServer} {identifier : String} {start? stop? : Option String} {world : World}

/-- The exchange that is made is the one of that plan, once there is a token. -/
theorem asksForAnalytics_iff (server : ToolServer) (identifier : String)
    (start? stop? : Option String) (world : World) (exchange : Exchange) :
    AsksForAnalytics server identifier start? stop? world exchange ↔ ∃ path token next,
      fillPath [("project_id", .text identifier)] analyticsSegments = .ok path ∧
      server.service.accessToken?.run Chronicle.handle (.start world) = (some token, next) ∧
      (rangePlan server.service path token start? stop?).exchange? next.world = some exchange := by
  have operation : analyticsTool.operation = .call "GET" analyticsSegments .query .passed := by
    decide +kernel
  have own : (rangeOf identifier start? stop?).own = [("project_id", .text identifier)] := rfl
  rw [AsksForAnalytics, run_call_given _ _ _ analyticsTool_named (readGiven_rangeFields _ _ _),
    run_operate_call _ _ _ operation, callEndpoint, callOptions_rangeOf, own]
  cases fillPath [("project_id", .text identifier)] analyticsSegments with
  | error problem =>
    constructor
    · rintro ⟨member, _⟩
      exact absurd member List.not_mem_nil
    · rintro ⟨_, _, _, impossible, _⟩
      cases impossible
  | ok path =>
    dsimp only
    rw [sent_under_token_iff]
    constructor
    · rintro ⟨token, next, hasToken, made⟩
      exact ⟨path, token, next, rfl, hasToken, made⟩
    · rintro ⟨_, token, next, same, hasToken, made⟩
      cases same
      exact ⟨token, next, hasToken, made⟩

/-- The address without dates comes from the base and the identifier alone. -/
theorem address_without_dates {plain : Exchange}
    (asks : AsksForAnalytics server identifier none none world plain) :
    ∃ path url, fillPath [("project_id", .text identifier)] analyticsSegments = .ok path ∧
      Url.parse? (server.service.base ++ path).toList = some url ∧
      plain.request.url = (takeUser url).1 := by
  obtain ⟨path, token, next, filled, _, made⟩ := (asksForAnalytics_iff _ _ _ _ _ _).mp asks
  obtain ⟨url, parsed, _, _, _, _, same⟩ :=
    (Plan.build_eq_ok_iff _ _).mp (Plan.exchange?_eq_some made).1
  exact ⟨path, url, filled, parsed, congrArg Request.url same⟩

/-- Without dates the address that is asked is determined by the server and the identifier. It does
not depend on the world. -/
theorem address_without_dates_unique {otherWorld : World} {plain other : Exchange}
    (asks : AsksForAnalytics server identifier none none world plain)
    (otherAsks : AsksForAnalytics server identifier none none otherWorld other) :
    plain.request.url = other.request.url := by
  obtain ⟨path, url, filled, parsed, same⟩ := address_without_dates asks
  obtain ⟨otherPath, otherUrl, otherFilled, otherParsed, otherSame⟩ :=
    address_without_dates otherAsks
  obtain rfl : path = otherPath := Except.ok.inj (filled.symm.trans otherFilled)
  obtain rfl : url = otherUrl := Option.some.inj (parsed.symm.trans otherParsed)
  exact same.trans otherSame.symm

/-- The segments of the analytics endpoint are proper ones, so its address can be told by its
texts. -/
theorem analyticsSegments_proper : ∀ segment ∈ analyticsSegments, segment.IsProper := by
  decide +kernel

/-- Without dates there is no query, not even an empty one, if the server's address has none. -/
theorem query_without_dates (unmarked : ∀ c ∈ server.service.base.toList, c ≠ '?' ∧ c ≠ '#')
    {plain : Exchange} (asks : AsksForAnalytics server identifier none none world plain) :
    plain.request.url.query? = none := by
  obtain ⟨path, url, filled, parsed, same⟩ := address_without_dates asks
  have pathUnmarked := fillPath_unmarked analyticsSegments_proper filled
  rw [String.toList_append] at parsed
  rw [same, takeUser_query]
  refine (parse?_unmarked (fun c member => ?_) parsed).1
  exact (List.mem_append.mp member).elim (unmarked c) (pathUnmarked c)

/-- To ask with dates is to ask without them, with the dates added to the query. -/
theorem asksForAnalytics_iff_without_dates (exchange : Exchange) :
    AsksForAnalytics server identifier start? stop? world exchange ↔
      ∃ plain, AsksForAnalytics server identifier none none world plain ∧
        (plain.request.url.withPairs (pairTexts (givenDates start? stop?))).text.length ≤
          addressLimit ∧
        exchange = .of { plain.request with
          url := plain.request.url.withPairs (pairTexts (givenDates start? stop?)) } plain.before := by
  simp only [asksForAnalytics_iff, Plan.exchange?_eq_some_iff]
  constructor
  · rintro ⟨path, token, next, filled, hasToken, request, built, rfl⟩
    obtain ⟨bare, bareBuilt, short, rfl⟩ := (Plan.build_eq_ok_iff_bare _ _).mp built
    exact ⟨.of bare next.world, ⟨path, token, next, filled, hasToken, bare, bareBuilt, rfl⟩, short, rfl⟩
  · rintro ⟨_, ⟨path, token, next, filled, hasToken, bare, bareBuilt, rfl⟩, short, rfl⟩
    refine ⟨path, token, next, filled, hasToken, _, ?_, rfl⟩
    exact (Plan.build_eq_ok_iff_bare _ _).mpr ⟨bare, bareBuilt, short, rfl⟩

/-- The address that is asked with dates is the one asked without them, with the dates added as
pairs of its query. -/
theorem address_with_dates {exchange : Exchange}
    (asks : AsksForAnalytics server identifier start? stop? world exchange) :
    ∃ plain, AsksForAnalytics server identifier none none world plain ∧
      exchange.request.url = plain.request.url.withPairs (pairTexts (givenDates start? stop?)) := by
  obtain ⟨plain, plainAsks, _, dated⟩ := (asksForAnalytics_iff_without_dates exchange).mp asks
  exact ⟨plain, plainAsks, congrArg (·.request.url) dated⟩

end

/-- Whatever dates are given, the query of a request for analytics states those that are not empty,
as they were given, and without any there is no query. Nothing else of the address depends on them,
and they keep a request that would be made without them from being made only if its address gets too
long. -/
theorem dates_stay_in_their_query (server : ToolServer)
    (unmarked : ∀ c ∈ server.service.base.toList, c ≠ '?' ∧ c ≠ '#') (identifier : String)
    (start? stop? : Option String) (world : World) :
    (∀ exchange, AsksForAnalytics server identifier start? stop? world exchange →
      statedPairs (exchange.request.url.query?.getD []) = pairTexts (givenDates start? stop?) ∧
      (exchange.request.url.query? = none ↔ givenDates start? stop? = []) ∧
      ∀ otherStart? otherStop? otherWorld other,
        AsksForAnalytics server identifier otherStart? otherStop? otherWorld other →
          SameUpToQuery exchange.request.url other.request.url) ∧
    ((∃ exchange, AsksForAnalytics server identifier start? stop? world exchange) ↔
      ∃ plain, AsksForAnalytics server identifier none none world plain ∧
        (plain.request.url.withPairs (pairTexts (givenDates start? stop?))).text.length ≤
          addressLimit) := by
  refine ⟨fun exchange asks => ?_, ?_⟩
  · obtain ⟨plain, plainAsks, address⟩ := address_with_dates asks
    have noQuery := query_without_dates unmarked plainAsks
    rw [address]
    refine ⟨statedPairs_withPairs noQuery _, ?_, ?_⟩
    · rw [withPairs_query_eq_none_iff noQuery, pairTexts, List.map_eq_nil_iff]
    · intro otherStart? otherStop? otherWorld other otherAsks
      obtain ⟨otherPlain, otherPlainAsks, otherAddress⟩ := address_with_dates otherAsks
      rw [otherAddress, address_without_dates_unique plainAsks otherPlainAsks]
      exact (sameUpToQuery_withPairs _ _).trans (sameUpToQuery_withPairs _ _).symm
  · constructor
    · rintro ⟨exchange, asks⟩
      obtain ⟨plain, plainAsks, short, _⟩ := (asksForAnalytics_iff_without_dates exchange).mp asks
      exact ⟨plain, plainAsks, short⟩
    · rintro ⟨plain, plainAsks, short⟩
      exact ⟨_, (asksForAnalytics_iff_without_dates _).mpr ⟨plain, plainAsks, short, rfl⟩⟩

/-- A date that would end the query and begin others, if it stood there as it is. -/
def markedDate : String := "1&end_date=2#+%41 é\n"

/-- A date made of marks is stated whole. The signs that would end a query or a pair are encoded,
and an empty second date is left out. -/
theorem date_with_marks_is_stated : (∀ c ∈ sampleServer.service.base.toList, c ≠ '?' ∧ c ≠ '#') ∧
    ∃ exchange, AsksForAnalytics sampleServer "p" (some markedDate) (some "") sampleWorld exchange ∧
      statedPairs (exchange.request.url.query?.getD []) =
        [("start_date".toList, markedDate.toList)] := by
  have unmarked : ∀ c ∈ sampleServer.service.base.toList, c ≠ '?' ∧ c ≠ '#' := by
    have none : (sampleServer.service.base.toList.all fun c => c != '?' && c != '#') = true := by
      decide
    intro c member
    simpa using List.all_eq_true.mp none c member
  obtain ⟨path, filled, works⟩ : ∃ path,
      fillPath [("project_id", .text "p")] analyticsSegments = .ok path ∧
      (rangePlan sampleService path Credential.sampleCredential.accessToken (some markedDate)
        (some "")).build.isOk = true := ⟨_, rfl, by decide +kernel⟩
  obtain ⟨request, built⟩ := Plan.exists_request works
  have hasToken := @run_accessToken_fresh sampleService (.start sampleWorld) _
    Credential.sampleCredential_loaded (by decide +kernel)
  have asks : AsksForAnalytics sampleServer "p" (some markedDate) (some "") sampleWorld
      (.of request sampleWorld) := (asksForAnalytics_iff _ _ _ _ _ _).mpr
    ⟨path, _, _, filled, hasToken, Plan.exchange?_eq_some_iff.mpr ⟨request, built, rfl⟩⟩
  have stated := (dates_stay_in_their_query sampleServer unmarked "p" (some markedDate) (some "")
    sampleWorld).1 _ asks
  exact ⟨unmarked, _, asks, stated.1⟩

end DashboardTools.Tool
