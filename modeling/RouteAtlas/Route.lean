import RouteAtlas.Path
import RouteAtlas.Site

/-!
# RouteAtlas.Route — routes

A route is a verb and a path, perhaps with a condition on the parameters of a request.  It knows
the declarations it comes from and which of their paths and conditions it was made of.
-/

namespace RouteAtlas

/-- The places of a class path, a method path and a condition in their lists. -/
structure RouteOrigin where
  classIndex : Nat := 0
  methodIndex : Nat := 0
  paramIndex : Nat := 0
deriving DecidableEq

/-- A route. -/
structure Route where
  verb : String
  path : String
  /-- The condition on the parameters; empty where there is none. -/
  params : String
  vars : List PathVariable
  source : SourceHandle
  origin : RouteOrigin
deriving DecidableEq

namespace Route

/-- The route on one line. -/
def label (r : Route) : String :=
  if r.params.isEmpty then r.verb ++ " " ++ r.path
  else r.verb ++ " " ++ r.path ++ " [" ++ r.params ++ "]"

/-- The type of the first variable of a name. -/
def typeOf? (r : Route) (name : String) : Option String :=
  (r.vars.find? (·.name == name)).bind (·.typeName)

end Route

end RouteAtlas
