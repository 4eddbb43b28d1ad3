import RouteAtlas.Log.Filter

/-!
# RouteAtlas.Log.Settings — what the environment says about logging

Environment variables choose the level, the form of the lines and the limits of single targets.  A
filter of the whole environment goes before the level.
-/

namespace RouteAtlas.Log

/-- What the environment says about logging. -/
structure Settings where
  level : String := "info"
  format : Format := .pretty
  targetFilter : Option String := none
  includeLocation : Bool := false

namespace Settings

/-- Any text but the name of the one form is the other form. -/
def formatOf (s : String) : Format :=
  if s.toList.map Char.toLower == "json".toList then .json else .pretty

/-- The settings of an environment. -/
def ofEnvironment (env : String → Option String) : Settings where
  level := (env "ROUTELENS_LOG_LEVEL").getD "info"
  format := ((env "ROUTELENS_LOG_FORMAT").map formatOf).getD .pretty
  targetFilter := env "ROUTELENS_LOG_TARGET_FILTER"
  includeLocation := env "ROUTELENS_LOG_INCLUDE_LOCATION" == some "true"

/-- The words of the target filter. -/
def filterWords (s : Settings) : List String :=
  match s.targetFilter with
  | none => []
  | some t =>
    ((Text.segments (· == ',') t.toList).map fun w => String.ofList (Text.trim w)).filter
      (!·.isEmpty)

/-- What is said of the words that are no directives. -/
def warnings (s : Settings) : List String :=
  (s.filterWords.filter fun w => (Directive.parse? w).isNone).map
    ("Warning: Invalid log filter directive: " ++ ·)

/-- The filter: that of the environment or else of the level, with the target filter added. -/
def filter (s : Settings) (env : String → Option String) : Filter :=
  let start :=
    ((env "RUST_LOG").bind Filter.parse?).getD
      (Filter.ofLevel ((Level.ofWord? s.level).getD .info))
  (s.filterWords.filterMap Directive.parse?).foldl Filter.add start

end Settings

end RouteAtlas.Log
