import DashboardTools.Proofs.Http.Building
import DashboardTools.Proofs.Url.Extending

/-!
# Requests with a query

The query of a plan changes nothing of a request but the query of its address. A plan with a query
is built exactly when the plan without it is and the longer address still fits into a request.
-/

namespace DashboardTools.Http

open DashboardTools.Text
open DashboardTools.Url

/-- The pairs of a query as characters, which is how they are added to an address. -/
def pairTexts (query : List (String × String)) : List (List Char × List Char) :=
  query.map fun pair => (pair.1.toList, pair.2.toList)

/-- A plan without its query, and otherwise the same. -/
def Plan.bare (plan : Plan) : Plan := { plan with query := [] }

/-- Adding pairs to a query never shortens it, because what is there already stays in front. -/
theorem length_le_addPairs (query : List Char) (pairs : List (List Char × List Char)) :
    query.length ≤ (addPairs query pairs).length := by
  induction pairs generalizing query with
  | nil => exact Nat.le_refl _
  | cons pair rest inductionHypothesis =>
    refine Nat.le_trans ?_ (inductionHypothesis _)
    split
    next empty => simp [List.isEmpty_iff.mp empty]
    next => simp

/-- Pairs that are added to an address do not make it shorter. -/
theorem length_text_le_withPairs (url : Url) (pairs : List (List Char × List Char)) :
    url.text.length ≤ (url.withPairs pairs).text.length := by
  unfold Url.withPairs
  split
  · exact Nat.le_refl _
  · have longer : url.queryText.length ≤ ('?' :: addPairs (url.query?.getD []) pairs).length := by
      unfold Url.queryText
      split
      next query found =>
        rw [found, List.length_cons, List.length_cons]
        exact Nat.succ_le_succ (length_le_addPairs _ _)
      next => exact Nat.zero_le _
    have samePath : Url.pathText
        { url with query? := some (addPairs (url.query?.getD []) pairs) } = url.pathText := rfl
    simp only [Url.text, Url.target, List.length_append, samePath]
    simp only [Url.queryText] at longer ⊢
    omega

/-- Whether an address is on the web does not depend on its query. -/
theorem isWeb_withPairs (url : Url) (pairs : List (List Char × List Char)) :
    isWeb (url.withPairs pairs) = isWeb url := by
  rw [isWeb, isWeb, withPairs_scheme]

/-- An address with more pairs in its query can be written exactly when it could be written without
them and still keeps to the longest length. -/
theorem isWritable_withPairs_iff (url : Url) (pairs : List (List Char × List Char)) :
    isWritable (url.withPairs pairs) = true ↔
      isWritable url = true ∧ (url.withPairs pairs).text.length ≤ addressLimit := by
  have sameHost : (url.withPairs pairs).host? = url.host? := by
    unfold Url.withPairs
    split <;> rfl
  have longer := length_text_le_withPairs url pairs
  simp only [isWritable, sameHost, Bool.and_eq_true, decide_eq_true_eq]
  constructor
  · rintro ⟨host, short⟩
    exact ⟨⟨host, Nat.le_trans longer short⟩, short⟩
  · rintro ⟨⟨host, _⟩, short⟩
    exact ⟨host, short⟩

/-- The request that a plan comes to when its address is read as this one. -/
def Plan.requestTo (plan : Plan) (url : Url) : Request where
  method := plan.method
  url := (takeUser url).1.withPairs (pairTexts plan.query)
  isJson := plan.isJson
  authorization := (takeUser url).2 ++ plan.token?.toList.map fun token => bearer token.toList
  body? := plan.body?

/-- What a plan needs to be built: an address with a host, a token that a header can hold, and a web
server at an address that can be written. -/
theorem Plan.build_eq_ok_iff (plan : Plan) (request : Request) :
    plan.build = .ok request ↔ ∃ url, Url.parse? plan.address.toList = some url ∧
      url.hasHost = true ∧
      (plan.token?.toList.map fun token => bearer token.toList).all isHeaderText = true ∧
      isWeb (plan.requestTo url).url = true ∧ isWritable (plan.requestTo url).url = true ∧
      request = plan.requestTo url := by
  unfold Plan.build
  cases Url.parse? plan.address.toList with
  | none => simp
  | some url =>
    have same : (takeUser url).1.withPairs
        (plan.query.map fun pair => (pair.1.toList, pair.2.toList)) = (plan.requestTo url).url := rfl
    simp only [same, Option.some.injEq, exists_eq_left']
    cases url.hasHost with
    | false => simp
    | true =>
      cases (plan.token?.toList.map fun token => bearer token.toList).all isHeaderText with
      | false => simp
      | true =>
        cases isWeb (plan.requestTo url).url with
        | false => simp
        | true =>
          cases isWritable (plan.requestTo url).url with
          | false => simp
          | true => simp [eq_comm, Plan.requestTo, pairTexts]

/-- A plan comes to the request of the plan without its query, with the query added to the address,
as long as that address fits. -/
theorem Plan.build_eq_ok_iff_bare (plan : Plan) (request : Request) :
    plan.build = .ok request ↔ ∃ bare, plan.bare.build = .ok bare ∧
      (bare.url.withPairs (pairTexts plan.query)).text.length ≤ addressLimit ∧
      request = { bare with url := bare.url.withPairs (pairTexts plan.query) } := by
  have added (url : Url) : (plan.requestTo url).url =
      (plan.bare.requestTo url).url.withPairs (pairTexts plan.query) := rfl
  simp only [Plan.build_eq_ok_iff, added, isWeb_withPairs, isWritable_withPairs_iff]
  constructor
  · rintro ⟨url, parsed, hosted, headers, web, ⟨writable, short⟩, rfl⟩
    exact ⟨_, ⟨url, parsed, hosted, headers, web, writable, rfl⟩, short, rfl⟩
  · rintro ⟨_, ⟨url, parsed, hosted, headers, web, writable, rfl⟩, short, rfl⟩
    exact ⟨url, parsed, hosted, headers, web, ⟨writable, short⟩, rfl⟩

/-- An address without question mark and number sign is read as one without query and fragment. -/
theorem parse?_unmarked {text : List Char} (unmarked : ∀ c ∈ text, c ≠ '?' ∧ c ≠ '#') {url : Url}
    (parsed : Url.parse? text = some url) : url.query? = none ∧ url.fragment? = none := by
  have kept : ∀ c ∈ trimBy (fun c => decide (c.toNat ≤ 0x20)) text, c ≠ '?' ∧ c ≠ '#' := by
    intro c member
    have inRest := (show trimBy _ text <+: _ from dropEnd_prefix _ _).subset member
    exact unmarked c ((List.dropWhile_suffix _).subset inRest)
  have noHash := splitAt?_of_not_mem fun member => (kept '#' member).2 rfl
  have noQuestion := splitAt?_of_not_mem fun member => (kept '?' member).1 rfl
  unfold Url.parse? at parsed
  simp only [noHash, noQuestion] at parsed
  split at parsed
  next => cases parsed
  next =>
    obtain ⟨read, _, rfl⟩ := Option.map_eq_some_iff.mp parsed
    exact ⟨rfl, rfl⟩

/-- Taking the user out of an address leaves its query. -/
theorem takeUser_query (url : Url) : (takeUser url).1.query? = url.query? := by
  unfold takeUser
  split
  · rfl
  · split
    · rfl
    · dsimp only
      split <;> rfl

end DashboardTools.Http
