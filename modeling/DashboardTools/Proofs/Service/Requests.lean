import DashboardTools.Proofs.Http.Addressing
import DashboardTools.Service.Call
import DashboardTools.Service.Device

/-!
# The requests of a service

A service is sent requests of two kinds. A request to one of its authorization endpoints posts a
JSON body and carries no token. A call carries the token that it is made under, and has the method,
the query and the body that it was given. Both are described here by what stands in them; that they
are what the plans of the service come to is a consequence, and not part of the description.
-/

namespace DashboardTools.Service

open DashboardTools.Api
open DashboardTools.Http
open DashboardTools.Json

/-- A request posts a JSON body to a path of the service. It carries no token, so it asks for access
only in the name of a user whom the service's address names. -/
structure Posts (service : Service) (path : String) (body : Value) (request : Request) : Prop where
  method : request.method = "POST"
  isJson : request.isJson = true
  body : request.body? = some body
  place : ∃ url, Reaches (service.base ++ path) [] url ∧ GoesTo url [] none request

/-- A request asks for a new credential in exchange for a refresh token, which stands in its
body. -/
def IsRenewalRequest (service : Service) (token : String) (request : Request) : Prop :=
  service.Posts "/v1/auth/refresh"
    (.object [("grant_type", .string "refresh_token"), ("refresh_token", .string token)]) request

/-- A request asks whether a login was completed by now. The device code in its body names the
login. -/
def IsPollRequest (service : Service) (deviceCode : String) (request : Request) : Prop :=
  service.Posts "/v1/auth/device/token"
    (.object [("client_id", .string clientName), ("device_code", .string deviceCode),
      ("grant_type", .string deviceGrantType)]) request

/-- A request calls a path of the service under a token: it carries the token in a header, and has
the method, the query and the body of the options. -/
structure IsCallRequest (service : Service) (token path : String) (options : RequestOptions)
    (request : Request) : Prop where
  method : request.method = options.method
  isJson : request.isJson = true
  body : request.body? = options.body?
  place : ∃ url, Reaches (service.base ++ path) options.query url ∧
    GoesTo url options.query (some token) request

variable {service : Service} {path token : String} {request : Request}

/-- A request posts a body to a path exactly when it is what the plan for that comes to. -/
theorem posts_iff_build {body : Value} :
    service.Posts path body request ↔ (service.authPlan path body).build = .ok request := by
  rw [Plan.build_eq_ok_iff_goesTo]
  constructor
  · intro posts
    refine ⟨fun token impossible => ?_, posts.method, posts.isJson, posts.body, posts.place⟩
    cases impossible
  · rintro ⟨_, method, isJson, body, place⟩
    exact ⟨method, isJson, body, place⟩

/-- A request calls a path under a token that a header can hold exactly when it is what the plan of
the call comes to. -/
theorem isCallRequest_iff_build {options : RequestOptions} :
    isHeaderText token.toList = true ∧ service.IsCallRequest token path options request ↔
      (service.callPlan token path options).build = .ok request := by
  rw [Plan.build_eq_ok_iff_goesTo]
  constructor
  · rintro ⟨legal, calls⟩
    refine ⟨fun other same => ?_, calls.method, calls.isJson, calls.body, calls.place⟩
    rw [← Option.some.inj same]
    exact legal
  · rintro ⟨legal, method, isJson, body, place⟩
    exact ⟨legal token rfl, method, isJson, body, place⟩

end DashboardTools.Service
