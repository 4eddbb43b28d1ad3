import RouteAtlas.Log.Event
import RouteAtlas.Scan

/-!
# RouteAtlas.Log.Trail — what a scan tells about its work

The trail of a computation is the list of its events, in the order in which it goes through its
input.  It is told beside the result: the events follow from the same pieces that the result is
made of.
-/

namespace RouteAtlas

open Log (Event)

/-- What is told of the constants that a folding does not find. -/
def Piece.event? : Piece → Option Event
  | literal .. | textless => none
  | unresolved name =>
    some
      { level := .debug
        area := .folding
        message := "Unresolved reference, folding to empty string"
        fields := [("reference", .quoted name)] }
  | cyclic name id =>
    some
      { level := .debug
        area := .folding
        message := "Reference cycle, folding to empty string"
        fields := [("reference", .quoted name), ("symbol", .shown id.text)] }
  | undeclared name id =>
    some
      { level := .debug
        area := .folding
        message := "Symbol not found in snapshot"
        fields := [("reference", .quoted name), ("symbol", .shown id.text)] }

/-- The trail of folding an expression. -/
def Expr.trail (tree : SyntaxTree) (e : Expr) : List Event :=
  (e.expand tree []).filterMap (·.event?)

namespace Annotation

/-- The trail of reading an attribute. -/
def trail (tree : SyntaxTree) (a : Annotation) (name : String) : List Event :=
  (a.entries name).flatMap (·.trail tree)

/-- The trail of reading the paths of an annotation. -/
def pathsTrail (tree : SyntaxTree) (a : Annotation) : List Event :=
  if (a.entries "path").isEmpty then a.trail tree "value" else a.trail tree "path"

/-- What is told of a text that names no verb. -/
def ignoredVerb (value : String) : Event where
  level := .debug
  area := .assembly
  message := "Ignoring unrecognised request method"
  fields := [("value", .shown value)]

/-- The trail of finding the verb of an annotation's routes. -/
def httpMethodTrail (tree : SyntaxTree) (a : Annotation) (k : MappingKind) : List Event :=
  if k.verb?.isSome then []
  else
    a.trail tree "method" ++
      ((a.read tree "method").filter fun v => (Verb.parse? v).isNone).map ignoredVerb

end Annotation

/-- The trail of asking attributes for the name of a variable, up to the first that gives one. -/
def namingTrail (tree : SyntaxTree) : List Expr → List Event
  | [] => []
  | e :: es =>
    match e with
    | .literal .. | .reference .. =>
      e.trail tree ++ if (e.variableName? tree).isSome then [] else namingTrail tree es
    | .concat .. | .polyadic .. | .array .. | .other .. => namingTrail tree es

/-- What is told of a variable that an earlier parameter binds too. -/
def boundTwice (name parameter : String) : Event where
  level := .debug
  area := .binding
  message := "Path variable bound twice, keeping the later parameter"
  fields := [("variable", .shown name), ("parameter", .shown parameter)]

/-- The trail of binding path variables, of which those in `bound` are bound already. -/
def bindTrail (tree : SyntaxTree) (marker : String) (bound : List String) :
    List Parameter → List Event
  | [] => []
  | p :: ps =>
    match p.annotation? marker with
    | none => bindTrail tree marker bound ps
    | some a =>
      let name := p.exposedName tree a
      namingTrail tree (namingAttributes.filterMap a.attribute?) ++
        (if bound.contains name then [boundTwice name p.name] else []) ++
          bindTrail tree marker (name :: bound) ps

namespace Site

/-- What is told of the routes of a site. -/
def assembled (tree : SyntaxTree) (config : ScanConfig) (s : Site) (m : Method) (verb : String) :
    Event :=
  let b := binding tree config m
  let classPaths := (s.classPaths tree config b).length
  let methodPaths := (s.methodPaths tree b).length
  let params := (s.subject.params tree).length
  { level := .debug
    area := .assembly
    message := "Assembled routes"
    fields :=
      [("location", .shown s.location), ("http_method", .quoted verb),
        ("class_paths", .count classPaths), ("method_paths", .count methodPaths),
        ("params", .count params), ("routes", .count (classPaths * methodPaths * params))] }

/-- The trail of assembling the routes of a site. -/
def assembleTrail (tree : SyntaxTree) (config : ScanConfig) (s : Site) (k : MappingKind) :
    List Event :=
  s.subject.httpMethodTrail tree k ++
    match s.method with
    | none => []
    | some m =>
      bindTrail tree config.pathVariable [] m.parameters ++
        (classMappings config s.owner).flatMap (·.pathsTrail tree) ++
          s.subject.pathsTrail tree ++ s.subject.trail tree "params" ++
            [s.assembled tree config m (s.subject.httpMethod tree config k)]

/-- The trail of a site. -/
def trail (symbols : SyntaxTree) (config : ScanConfig) (k : MappingKind) (s : Site) :
    List Event :=
  match s.outcome symbols config k with
  | .classMapping =>
    [{ level := .debug
       area := .scan
       message := "Class-level mapping, used as prefix only"
       fields := [("location", .shown s.location)] }]
  | .routes _ => s.assembleTrail symbols config k
  | .failure e =>
    s.assembleTrail symbols config k ++
      [{ level := .warn
         area := .scan
         message := "Skipping annotation occurrence"
         fields := [("error", .shown e.message)] }]

end Site

/-- The trail of the sites of a kind. -/
def kindTrail (index symbols : SyntaxTree) (config : ScanConfig) (k : MappingKind) :
    List Event :=
  let sites := index.occurrences k.qualifiedName
  sites.flatMap (·.trail symbols config k) ++
    [{ level := .debug
       area := .scan
       message := "Scanned mapping annotation"
       fields := [("kind", .shown k.simpleName), ("occurrences", .count sites.length)] }]

/-- The trail of a scan. -/
def SyntaxTree.scanTrail (tree : SyntaxTree) (config : ScanConfig) : List Event :=
  let report := tree.scan config
  config.kinds.flatMap (kindTrail tree tree config) ++
    [{ level := .info
       area := .scan
       message := "Route scan complete"
       fields :=
        [("routes", .count report.routes.length), ("skipped", .count report.issues.length)] }]

/-- What is told of a tree that was read from a file. -/
def SyntaxTree.loaded (tree : SyntaxTree) (file : String) : Event where
  level := .debug
  area := .loading
  message := "Loaded syntax tree snapshot"
  fields := [("path", .shown file), ("units", .count tree.units.length)]

end RouteAtlas
