import DashboardTools.Json.Value

/-!
# Request options

What a call to the service asks for, besides the path: a method, a JSON body and query pairs.
-/

namespace DashboardTools.Api

open DashboardTools.Json

/-- Method, body and query of a call, apart from its path. Without a body none is sent, not even an
empty one. -/
structure RequestOptions where
  method : String
  body? : Option Value
  query : List (String × String)

namespace RequestOptions

/-- Options with a method alone, without a body and with an empty query. -/
def ofMethod (method : String) : RequestOptions := ⟨method, none, []⟩

/-- The options with this body in place of any other. -/
def withBody (options : RequestOptions) (body : Value) : RequestOptions :=
  { options with body? := some body }

/-- The options with one more query pair, if there is a value for it. -/
def withQuery (options : RequestOptions) (key : String) (value? : Option String) :
    RequestOptions :=
  match value? with
  | some value => { options with query := options.query ++ [(key, value)] }
  | none => options

end RequestOptions

end DashboardTools.Api
