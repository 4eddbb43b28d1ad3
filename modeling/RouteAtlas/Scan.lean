import RouteAtlas.Assembly

/-!
# RouteAtlas.Scan — the routes of a tree

A scan goes through the kinds of its settings and through the sites of each.  A site gives routes,
or an issue, or nothing when it is a class mapping on a type.
-/

namespace RouteAtlas

/-- A site that gives no routes, and why. -/
structure ScanIssue where
  location : String
  kind : String
  message : String
deriving DecidableEq

/-- The issue that an error is reported as. -/
def ScanIssue.ofError (e : AssemblyError) : ScanIssue := ⟨e.location, e.kind, e.message⟩

/-- What a scan finds. -/
structure ScanReport where
  routes : List Route
  issues : List ScanIssue
deriving DecidableEq

/-- What a scan makes of one site. -/
inductive Outcome where
  | routes (rs : List Route)
  /-- A class mapping on a type: its paths come before those of the methods. -/
  | classMapping
  | failure (e : AssemblyError)

namespace Outcome

/-- The routes of an outcome. -/
def routeList : Outcome → List Route
  | routes rs => rs
  | classMapping | failure _ => []

/-- The issue of an outcome. -/
def issue? : Outcome → Option ScanIssue
  | failure e => some (.ofError e)
  | routes _ | classMapping => none

end Outcome

/-- What a scan makes of a site of a kind. -/
def Site.outcome (symbols : SyntaxTree) (config : ScanConfig) (k : MappingKind) (s : Site) :
    Outcome :=
  if s.method.isNone && k.qualifiedName == config.classMapping then .classMapping
  else
    match s.assemble symbols config k with
    | .ok rs => .routes rs
    | .error e => .failure e

/-- What a scan makes of the sites of a kind. -/
def outcomesOf (index symbols : SyntaxTree) (config : ScanConfig) (k : MappingKind) :
    List Outcome :=
  (index.occurrences k.qualifiedName).map (·.outcome symbols config k)

/-- What a scan makes of all sites of the kinds it looks for. -/
def outcomes (index symbols : SyntaxTree) (config : ScanConfig) : List Outcome :=
  config.kinds.flatMap (outcomesOf index symbols config)

/-- The routes and issues of the sites in `index`, with names looked up in `symbols`. -/
def collect (index symbols : SyntaxTree) (config : ScanConfig) : ScanReport :=
  let os := outcomes index symbols config
  ⟨os.flatMap (·.routeList), os.filterMap (·.issue?)⟩

/-- The routes and issues of a tree. -/
def SyntaxTree.scan (tree : SyntaxTree) (config : ScanConfig) : ScanReport :=
  collect tree tree config

end RouteAtlas
