import RouteAtlas.Document.Json.Printer
import RouteAtlas.Scan

/-!
# RouteAtlas.Format.Report — reports in documents

The fields of a route and of an issue stand in a fixed order; what is empty or absent is left out.
-/

namespace RouteAtlas

/-- The document of a path variable. -/
def PathVariable.toDocument (v : PathVariable) : Document :=
  .ofFields [("name", some (.text v.name)), ("type_name", v.typeName.map .text)]

/-- The document of the names around a route. -/
def SourceHandle.toDocument (h : SourceHandle) : Document :=
  .ofFields
    [("file", h.file.map .text), ("type_name", h.typeName.map .text),
      ("method_name", h.methodName.map .text)]

/-- The document of an origin. -/
def RouteOrigin.toDocument (o : RouteOrigin) : Document :=
  .ofFields
    [("class_index", some (.integer o.classIndex)), ("method_index", some (.integer o.methodIndex)),
      ("param_index", some (.integer o.paramIndex))]

/-- The document of a route. -/
def Route.toDocument (r : Route) : Document :=
  .ofFields
    [("http_method", some (.text r.verb)), ("full_path", some (.text r.path)),
      ("params", if r.params.isEmpty then none else some (.text r.params)),
      ("path_variables",
        if r.vars.isEmpty then none else some (.ofList PathVariable.toDocument r.vars)),
      ("source", some r.source.toDocument), ("origin", some r.origin.toDocument)]

/-- The document of an issue. -/
def ScanIssue.toDocument (i : ScanIssue) : Document :=
  .ofFields
    [("location", some (.text i.location)), ("kind", some (.text i.kind)),
      ("message", some (.text i.message))]

namespace ScanReport

/-- The document of a report. -/
def toDocument (r : ScanReport) : Document :=
  .ofFields
    [("routes", some (.ofList Route.toDocument r.routes)),
      ("issues", some (.ofList ScanIssue.toDocument r.issues))]

/-- The report in JSON, with each field on a line of its own. -/
def json (r : ScanReport) : String := Document.Json.pretty r.toDocument

end ScanReport

end RouteAtlas
