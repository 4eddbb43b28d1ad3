import RouteAtlas.Format.Report
import RouteAtlas.Listing
import RouteAtlas.Load
import RouteAtlas.Log.Settings
import RouteAtlas.Log.Trail
import RouteAtlas.Options

/-!
# RouteAtlas.Command — what a command answers

An answer is all that a command leaves behind: its output, the lines it tells about its work, and
its exit code.  It is determined by the arguments, the environment, the contents of the files and how
these are read.
-/

namespace RouteAtlas

/-- What a command leaves behind. -/
structure Answer where
  code : Nat
  output : String := ""
  /-- The lines about its work, in their order. -/
  notes : List String := []

/-- What a command sees of its surroundings. -/
structure World where
  /-- The value of an environment variable. -/
  env : String → Option String
  /-- The text in a file; none where it is missing or no text. -/
  content : String → Option String

namespace Command

/-- The environment variables that an answer depends on. -/
def environment : List String :=
  [wildcardVariable, "RUST_LOG", "ROUTELENS_LOG_LEVEL", "ROUTELENS_LOG_FORMAT",
    "ROUTELENS_LOG_TARGET_FILTER", "ROUTELENS_LOG_INCLUDE_LOCATION"]

/-- The files that an answer depends on. -/
def files (args : List String) : List String :=
  match Options.parse args with
  | .ok (.scan o) => o.config.toList ++ [o.tree]
  | .ok .kinds | .error _ => []

/-- Lines with their ends. -/
def linesText (lines : List String) : String := String.join (lines.map (· ++ "\n"))

theorem toList_linesText (lines : List String) :
    (linesText lines).toList = lines.flatMap fun line => line.toList ++ ['\n'] := by
  simp [linesText, String.toList_join, List.flatMap_map]

/-- How the command is used. -/
def help : String :=
  linesText
    ["List HTTP routes declared by mapping annotations", "", "Usage: routeatlas <COMMAND>", "",
      "Commands:",
      "  scan --tree <FILE> [--config <FILE>] [--format <text|json>] [--fail-on-issues]",
      "  kinds"]

/-- The lines about the issues of a report. -/
def issueNotes (issues : List ScanIssue) : List String :=
  if issues.isEmpty then []
  else
    ["", "⚠️  " ++ toString issues.length ++ " annotation occurrence(s) skipped:", ""] ++
      (issues.map fun i => "[" ++ i.kind ++ "] " ++ i.location ++ ": " ++ i.message) ++ [""]

/-- The kinds of annotations, each with its verb. -/
def kindLines : List String :=
  MappingKind.all.map fun k => k.qualifiedName ++ "\t" ++ k.verb?.getD "<method attribute>"

/-- The settings of a scan: those of the file or else the default, changed by the environment. -/
def scanConfig (readers : Readers) (w : World) (o : ScanOptions) : Except LoadError ScanConfig := do
  let config ←
    match o.config with
    | some file => ScanConfig.load readers file (w.content file)
    | none => pure {}
  return config.withEnvironment w.env

/-- A failure to load a file. -/
def failed (notes : List String) (e : LoadError) : Answer :=
  { code := 1, notes := notes ++ ["Error: " ++ e.message] }

/-- The answer of a scan, after the lines about logging itself. -/
def scan (readers : Readers) (w : World) (notes : List String) (o : ScanOptions) : Answer :=
  match scanConfig readers w o with
  | .error e => failed notes e
  | .ok config =>
    match SyntaxTree.load readers o.tree (w.content o.tree) with
    | .error e => failed notes e
    | .ok tree =>
      let settings := Log.Settings.ofEnvironment w.env
      let filter := settings.filter w.env
      let report := tree.scan config
      let events := (tree.loaded o.tree :: tree.scanTrail config).filter filter.enables
      let notes := notes ++ events.map (·.line settings.format)
      let code := if o.failOnIssues && !report.issues.isEmpty then 1 else 0
      match o.format with
      | .text =>
        { code, output := linesText (report.lines tree)
          notes := notes ++ issueNotes report.issues }
      | .json => { code, output := report.json ++ "\n", notes }

/-- The answer to arguments. -/
def run (readers : Readers) (w : World) (args : List String) : Answer :=
  let notes := (Log.Settings.ofEnvironment w.env).warnings
  match Options.parse args with
  | .error .displayHelp => { code := 0, output := help, notes }
  | .error e => { code := 2, notes := notes ++ ["error: " ++ e.name] }
  | .ok .kinds => { code := 0, output := linesText kindLines, notes }
  | .ok (.scan o) => scan readers w notes o

end Command

end RouteAtlas
