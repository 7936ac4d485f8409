import DashboardTools.Proofs.Http.Queries

/-!
# Where a request goes

An address as it was configured need not lead anywhere. Where it does, a request sent there has that
address without its user and with its query, and it asks for access by the token of its plan and in
the name of a user whom the address names, and by nothing else. A plan comes to a request exactly
when its address leads somewhere and a header can hold its token; what that request is can be told
from the plan's own entries.
-/

namespace DashboardTools.Http

/-- A request with this query can be sent to an address, which is read as this one: it has a host,
leads to a web server, and is short enough to be written in a request together with the query. -/
structure Reaches (address : String) (query : List (String × String)) (url : Url) : Prop where
  parsed : Url.parse? address.toList = some url
  hosted : url.hasHost = true
  web : url.scheme = "http".toList ∨ url.scheme = "https".toList
  writable : isWritable ((takeUser url).1.withPairs (pairTexts query)) = true

/-- Requests with this query can be sent to an address. -/
def IsReachable (address : String) (query : List (String × String)) : Prop :=
  ∃ url, Reaches address query url

/-- A request goes to an address with a query. It asks for access by a token, if there is one, and
in the name of a user whom the address names. Where the address names nobody, it stands in the
request as it was read. -/
structure GoesTo (url : Url) (query : List (String × String)) (token? : Option String)
    (request : Request) : Prop where
  place : request.url = (takeUser url).1.withPairs (pairTexts query)
  authorization : request.authorization =
    (takeUser url).2 ++ token?.toList.map fun token => bearer token.toList
  unnamed : url.user? = none → request.url = url.withPairs (pairTexts query) ∧
    request.authorization = token?.toList.map fun token => bearer token.toList

/-- Taking the user out of an address and adding a query to it leave its scheme. So it is enough to
look at the scheme of the address itself. -/
theorem isWeb_place_iff (url : Url) (query : List (String × String)) :
    isWeb ((takeUser url).1.withPairs (pairTexts query)) = true ↔
      url.scheme = "http".toList ∨ url.scheme = "https".toList := by
  rw [isWeb, withPairs_scheme, (takeUser_place url).1]
  simp only [Bool.or_eq_true, beq_iff_eq]

/-- An address is read in one way, so it leads to one place at most. -/
theorem Reaches.unique {address : String} {query : List (String × String)} {url other : Url}
    (reaches : Reaches address query url) (again : Reaches address query other) : url = other :=
  Option.some.inj (reaches.parsed.symm.trans again.parsed)

/-- A header can hold a token exactly when the token has no characters that a header cannot have,
since the word in front of it has none. -/
theorem isHeaderText_bearer (token : List Char) :
    isHeaderText (bearer token) = isHeaderText token := by
  have plain : isHeaderText "Bearer ".toList = true := by decide
  unfold isHeaderText bearer at *
  rw [List.all_append, plain, Bool.true_and]

/-- A plan comes to a request exactly when its address leads somewhere and a header can hold its
token. The request has the method, the content and the body of the plan, and goes where the address
leads. -/
theorem Plan.build_eq_ok_iff_goesTo (plan : Plan) (request : Request) :
    plan.build = .ok request ↔
      (∀ token ∈ plan.token?, isHeaderText token.toList = true) ∧
      request.method = plan.method ∧ request.isJson = plan.isJson ∧ request.body? = plan.body? ∧
      ∃ url, Reaches plan.address plan.query url ∧ GoesTo url plan.query plan.token? request := by
  have legal_iff :
      (plan.token?.toList.map fun token => bearer token.toList).all isHeaderText = true ↔
      ∀ token ∈ plan.token?, isHeaderText token.toList = true := by
    simp [isHeaderText_bearer]
  rw [Plan.build_eq_ok_iff, legal_iff]
  constructor
  · rintro ⟨url, parsed, hosted, legal, web, writable, rfl⟩
    refine ⟨legal, rfl, rfl, rfl, url,
      ⟨parsed, hosted, (isWeb_place_iff url plan.query).mp web, writable⟩, rfl, rfl,
        fun nobody => ?_⟩
    rw [Plan.requestTo, takeUser_of_none nobody]
    exact ⟨rfl, List.nil_append _⟩
  · rintro ⟨legal, method, isJson, body, url, reaches, goes⟩
    refine ⟨url, reaches.parsed, reaches.hosted, legal,
      (isWeb_place_iff url plan.query).mpr reaches.web, reaches.writable, ?_⟩
    cases request
    simp only [Plan.requestTo, Request.mk.injEq]
    exact ⟨method, goes.place, isJson, goes.authorization, body⟩

/-- A plan whose address leads somewhere comes to a request, if a header can hold its token. -/
theorem Plan.exists_build_of_isReachable (plan : Plan)
    (reachable : IsReachable plan.address plan.query)
    (legal : ∀ token ∈ plan.token?, isHeaderText token.toList = true) :
    ∃ request, plan.build = .ok request := by
  obtain ⟨url, reaches⟩ := reachable
  refine ⟨plan.requestTo url, (plan.build_eq_ok_iff_goesTo _).mpr
    ⟨legal, rfl, rfl, rfl, url, reaches, rfl, rfl, fun nobody => ?_⟩⟩
  rw [Plan.requestTo, takeUser_of_none nobody]
  exact ⟨rfl, List.nil_append _⟩

end DashboardTools.Http
