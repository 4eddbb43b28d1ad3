import RouteAtlas.Config
import RouteAtlas.Mapping.Verb
import RouteAtlas.Route

/-!
# RouteAtlas.Assembly — the routes of one annotation

An annotation on a method declares one route for each class path, each method path and each
condition on parameters.  Each of the three lists has at least one entry.
-/

namespace RouteAtlas

/-- Why an annotation declares no route. -/
inductive AssemblyError where
  /-- The annotation does not stand on a method. -/
  | malformedTarget (name location : String)
deriving DecidableEq

namespace AssemblyError

/-- A short name of the reason. -/
def kind : AssemblyError → String
  | malformedTarget .. => "MalformedTarget"

/-- The place that is at fault. -/
def location : AssemblyError → String
  | malformedTarget _ location => location

/-- What is said of it. -/
def message : AssemblyError → String
  | malformedTarget name location =>
    "malformed target for @" ++ name ++ " at " ++ location ++
      ": annotation is not attached to a method"

end AssemblyError

/-- The list, or `x` alone when it is empty. -/
def orSingle {α : Type} (xs : List α) (x : α) : List α := if xs.isEmpty then [x] else xs

namespace Annotation

/-- The paths of an annotation: its `path`, else its `value`, else the empty path. -/
def paths (tree : SyntaxTree) (a : Annotation) : List String :=
  let path := a.read tree "path"
  if path.isEmpty then orSingle (a.read tree "value") "" else path

/-- The conditions on parameters, or the empty one. -/
def params (tree : SyntaxTree) (a : Annotation) : List String := orSingle (a.read tree "params") ""

/-- The verbs that the annotation names, each once, in the order of first appearance. -/
def verbs (tree : SyntaxTree) (a : Annotation) : List String :=
  ((a.read tree "method").filterMap Verb.parse?).eraseDups

/-- The verb of the annotation's routes: the one that its kind fixes, else those that it names,
else the wildcard. -/
def httpMethod (tree : SyntaxTree) (config : ScanConfig) (a : Annotation) (k : MappingKind) :
    String :=
  match k.verb? with
  | some verb => verb
  | none =>
    let verbs := a.verbs tree
    if verbs.isEmpty then config.wildcard else "|".intercalate verbs

end Annotation

/-- The annotations of a type whose paths come before those of its methods. -/
def classMappings (config : ScanConfig) (owner : Option TypeDecl) : List Annotation :=
  match owner with
  | some t => t.annotations.filter (·.qualifiedName == config.classMapping)
  | none => []

namespace Site

/-- The types of path variables at the site of a method. -/
def binding (tree : SyntaxTree) (config : ScanConfig) (m : Method) : Binding :=
  bind tree config.pathVariable m.parameters

/-- The class paths at a site, or the empty path. -/
def classPaths (tree : SyntaxTree) (config : ScanConfig) (s : Site) (b : Binding) :
    List PathFragment :=
  orSingle
    (((classMappings config s.owner).flatMap (·.paths tree)).map fun p =>
      (PathFragment.ofText p).withTypes b)
    .empty

/-- The method paths at a site. -/
def methodPaths (tree : SyntaxTree) (s : Site) (b : Binding) : List PathFragment :=
  (s.subject.paths tree).map fun p => (PathFragment.ofText p).withTypes b

/-- The routes of all combinations, the condition varying fastest. -/
def combinations (s : Site) (verb : String) (classPaths methodPaths : List PathFragment)
    (params : List String) : List Route :=
  classPaths.zipIdx.flatMap fun (cls, i) =>
    methodPaths.zipIdx.flatMap fun (method, j) =>
      let joined := cls.join method
      params.zipIdx.map fun (param, k) =>
        { verb, path := joined.text, params := param, vars := joined.vars,
          source := s.handle, origin := ⟨i, j, k⟩ }

/-- The routes of an annotation whose verb is known. -/
def assembleWith (tree : SyntaxTree) (config : ScanConfig) (s : Site) (verb : String) :
    Except AssemblyError (List Route) :=
  match s.method with
  | none => .error (.malformedTarget s.subject.qualifiedName s.location)
  | some m =>
    let b := binding tree config m
    .ok (s.combinations verb (s.classPaths tree config b) (s.methodPaths tree b)
      (s.subject.params tree))

/-- The routes of an annotation. -/
def assemble (tree : SyntaxTree) (config : ScanConfig) (s : Site) (k : MappingKind) :
    Except AssemblyError (List Route) :=
  s.assembleWith tree config (s.subject.httpMethod tree config k)

end Site

end RouteAtlas
