import RouteAtlas.Config
import RouteAtlas.Document.Record

/-!
# RouteAtlas.Format.Config — settings in documents

Settings that are left out keep their default; a field of another name is a fault.
-/

namespace RouteAtlas

/-- Reads the name of a kind. -/
def MappingKind.ofDocument (d : Document) : Except Fault MappingKind := do
  let s ← d.readText
  match MappingKind.parse? s with
  | some k => .ok k
  | none => .error (.unknownKind s)

namespace ScanConfig

/-- The fields of settings. -/
def fields : List String :=
  ["kinds", "class_mapping_annotation", "path_variable_annotation", "wildcard_method"]

/-- Reads settings. -/
def ofDocument (d : Document) : Except Fault ScanConfig := do
  let r ← d.record fields
  let default : ScanConfig := {}
  r.finish fields (fun name _ => .error (.unknownField name))
    (ScanConfig.mk <$>
      r.optional "kinds" default.kinds (Document.readList MappingKind.ofDocument) <*>
      r.optional "class_mapping_annotation" default.classMapping Document.readText <*>
      r.optional "path_variable_annotation" default.pathVariable Document.readText <*>
      r.optional "wildcard_method" default.wildcard Document.readText)

/-- The document of settings. -/
def toDocument (c : ScanConfig) : Document :=
  .ofFields
    [("kinds", some (.ofList (.text ·.simpleName) c.kinds)),
      ("class_mapping_annotation", some (.text c.classMapping)),
      ("path_variable_annotation", some (.text c.pathVariable)),
      ("wildcard_method", some (.text c.wildcard))]

end ScanConfig

end RouteAtlas
