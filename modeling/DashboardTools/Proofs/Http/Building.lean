import DashboardTools.Http.Request

/-!
# What a built request carries

A request that was built goes to the path of its plan's address by the plan's method. It carries the
plan's body and the headers that ask for access: the one of a user named in the address, if there is
one, and the one of the plan's token. A header with a token is no header with a user's name.
-/

namespace DashboardTools.Http

/-- Adding pairs to the query of an address keeps its scheme. -/
@[simp] theorem withPairs_scheme (url : Url) (pairs : List (List Char × List Char)) :
    (url.withPairs pairs).scheme = url.scheme := by
  unfold Url.withPairs
  split <;> rfl

/-- Adding pairs to the query of an address keeps its path. -/
@[simp] theorem withPairs_path (url : Url) (pairs : List (List Char × List Char)) :
    (url.withPairs pairs).path = url.path := by
  unfold Url.withPairs
  split <;> rfl

/-- Taking the user out of an address changes nothing else. -/
theorem takeUser_place (url : Url) :
    (takeUser url).1.scheme = url.scheme ∧ (takeUser url).1.path = url.path := by
  unfold takeUser
  split
  · exact ⟨rfl, rfl⟩
  · split
    · exact ⟨rfl, rfl⟩
    · dsimp only
      split <;> exact ⟨rfl, rfl⟩

/-- An address that names no user stays as it is, and nobody is asked for. -/
theorem takeUser_of_none {url : Url} (nobody : url.user? = none) : takeUser url = (url, []) := by
  unfold takeUser
  rw [nobody]

/-- An address on the web has one of the two schemes of the web. -/
theorem isWebScheme_of_isWeb {url : Url} (web : isWeb url = true) :
    Url.isWebScheme url.scheme = true := by
  have either : url.scheme = "http".toList ∨ url.scheme = "https".toList := by
    simpa only [isWeb, Bool.or_eq_true, beq_iff_eq] using web
  rcases either with same | same
  · rw [same]
    rfl
  · rw [same]
    rfl

/-- What a request that was built has of its plan: the method, the body, the path of the address
and the headers that ask for access. -/
theorem Plan.build_eq_ok {plan : Plan} {request : Request} (built : plan.build = .ok request) :
    request.method = plan.method ∧ request.body? = plan.body? ∧
      ∃ url, Url.parse? plan.address.toList = some url ∧ request.url.path = url.path ∧
        Url.isWebScheme url.scheme = true ∧ request.authorization =
          (takeUser url).2 ++ plan.token?.toList.map fun token => bearer token.toList := by
  unfold Plan.build at built
  split at built
  · cases built
  next url parsed =>
    dsimp only at built
    split at built
    · cases built
    split at built
    · cases built
    split at built
    · cases built
    next reachable =>
      obtain rfl := Except.ok.inj built
      obtain ⟨scheme, path⟩ := takeUser_place url
      simp only [Bool.or_eq_true, Bool.not_eq_true', not_or, Bool.not_eq_false] at reachable
      have webScheme := isWebScheme_of_isWeb reachable.1
      rw [withPairs_scheme, scheme] at webScheme
      refine ⟨rfl, rfl, url, parsed, ?_, webScheme, rfl⟩
      rw [withPairs_path, path]

/-- A plan that can be built has a request that it builds. -/
theorem Plan.exists_request {plan : Plan} (works : plan.build.isOk = true) :
    ∃ request, plan.build = .ok request := by
  cases built : plan.build with
  | ok request => exact ⟨request, rfl⟩
  | error cause =>
    rw [built] at works
    cases works

/-- A user's header is never the one of a token. -/
theorem bearer_not_of_user (url : Url) (token : List Char) : bearer token ∉ (takeUser url).2 := by
  have differs (name password : List Char) : bearer token ≠ basic name password := by
    intro same
    have starts := congrArg (List.take 2) same
    have long : 2 ≤ "Bearer ".toList.length ∧ 2 ≤ "Basic ".toList.length := by decide
    have apart : List.take 2 "Bearer ".toList ≠ List.take 2 "Basic ".toList := by decide
    unfold bearer basic at starts
    rw [List.take_append_of_le_length long.1, List.take_append_of_le_length long.2] at starts
    exact apart starts
  intro member
  have user : (takeUser url).2 = [] ∨ ∃ name password, (takeUser url).2 = [basic name password] := by
    unfold takeUser
    split
    · exact .inl rfl
    · split
      · exact .inl rfl
      · dsimp only
        split
        · exact .inl rfl
        · exact .inr ⟨_, _, rfl⟩
  rcases user with none | ⟨name, password, one⟩
  · rw [none] at member
    exact List.not_mem_nil member
  · rw [one] at member
    exact differs _ _ (List.mem_singleton.mp member)

/-- Different tokens make different bearer values, so the header determines the token. -/
theorem bearer_injective {first second : List Char} (same : bearer first = bearer second) :
    first = second := List.append_cancel_left same

/-- A request carries a token in its header exactly when its plan has that token. -/
theorem Plan.bearer_mem_iff {plan : Plan} {request : Request} (built : plan.build = .ok request)
    (token : String) : bearer token.toList ∈ request.authorization ↔ plan.token? = some token := by
  obtain ⟨_, _, url, _, _, _, headers⟩ := Plan.build_eq_ok built
  rw [headers, List.mem_append]
  constructor
  · rintro (user | ofPlan)
    · exact absurd user (bearer_not_of_user url _)
    · obtain ⟨other, member, same⟩ := List.mem_map.mp ofPlan
      have equal : other = token := String.toList_inj.mp (bearer_injective same)
      rw [← equal]
      simpa using member
  · intro has
    exact .inr (List.mem_map.mpr ⟨token, by simp [has], rfl⟩)

end DashboardTools.Http
