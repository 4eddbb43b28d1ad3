import RouteAtlas.Mapping.Kind
import RouteAtlas.Text.Blank

/-!
# RouteAtlas.Config — what a scan looks for

The annotations to look for, the annotation whose paths come before those of the methods of a type,
the marker of path variables, and the verb of generic routes that name none.
-/

namespace RouteAtlas

/-- What a scan looks for. -/
structure ScanConfig where
  kinds : List MappingKind := MappingKind.all
  classMapping : String := MappingKind.request.qualifiedName
  pathVariable : String := MappingKind.package ++ ".PathVariable"
  wildcard : String := "*"
deriving DecidableEq

/-- The environment variable that replaces the wildcard verb. -/
def wildcardVariable : String := "ROUTELENS_WILDCARD_METHOD"

/-- The settings with the wildcard verb that the environment asks for, where it is not blank. -/
def ScanConfig.withEnvironment (config : ScanConfig) (env : String → Option String) :
    ScanConfig :=
  match env wildcardVariable with
  | some value =>
    if Text.isBlank value then config else { config with wildcard := Text.trimmed value }
  | none => config

end RouteAtlas
