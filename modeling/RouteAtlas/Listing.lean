import RouteAtlas.Scan
import RouteAtlas.Text.Uppercase

/-!
# RouteAtlas.Listing — routes shown one per line

A line holds the label of a route and the place it comes from: the type and the method, followed by
a label for the build module where there is one.
-/

namespace RouteAtlas

/-- The label of a build module: the segment before the last one, or the only one, in capitals. -/
def moduleLabel? (name : String) : Option String :=
  if name.isEmpty then none
  else
    let segment :=
      match (Text.segments isDot name.toList).reverse with
      | _ :: s :: _ => s
      | [s] => s
      | [] => []
    some (Text.uppercase (String.ofList segment))

namespace Route

/-- The build module in parentheses. -/
def moduleSuffix (moduleOf : SourceHandle → Option String) (r : Route) : String :=
  match (moduleOf r.source).bind moduleLabel? with
  | some label => " (" ++ label ++ ")"
  | none => ""

/-- The place that a route comes from. -/
def location (moduleOf : SourceHandle → Option String) (r : Route) : String :=
  let owner := r.source.simpleTypeName?.or r.source.fileName?
  match r.source.methodName, r.source.typeName with
  | some method, _ => owner.getD "unknownFile" ++ "." ++ method ++ r.moduleSuffix moduleOf
  | none, some _ => owner.getD ("unknownFile" ++ r.moduleSuffix moduleOf)
  | none, none => "unknownLocation"

/-- The route and its place, with a tab between them. -/
def line (moduleOf : SourceHandle → Option String) (r : Route) : String :=
  r.label ++ "\t" ++ r.location moduleOf

end Route

/-- One line per route, with the build modules looked up in `modules`. -/
def ScanReport.lines (modules : SyntaxTree) (report : ScanReport) : List String :=
  report.routes.map (·.line modules.moduleOf)

end RouteAtlas
