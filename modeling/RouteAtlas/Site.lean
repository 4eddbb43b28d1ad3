import RouteAtlas.Tree.Basic

/-!
# RouteAtlas.Site — where annotations stand

A site is an annotation together with the declarations around it.  `occurrences` lists the sites of
a qualified name in the order of the tree; `SourceHandle` keeps only the names of a site.
-/

namespace RouteAtlas

/-- The names of the declarations around a route. -/
structure SourceHandle where
  file : Option String := none
  typeName : Option String := none
  methodName : Option String := none
deriving DecidableEq

/-- The name of the type without its qualification. -/
def SourceHandle.simpleTypeName? (h : SourceHandle) : Option String := h.typeName.map simpleName

/-- The name of the file without its directories. -/
def SourceHandle.fileName? (h : SourceHandle) : Option String :=
  h.file.map fun f => String.ofList (Text.afterLast (fun c => c == '/' || c == '\\') f.toList)

/-- An annotation and the declarations around it. -/
structure Site where
  subject : Annotation
  /-- The method that is annotated; none where the type is. -/
  method : Option Method := none
  owner : Option TypeDecl := none
  file : Option String := none

namespace Site

/-- The place as it is shown to people. -/
def location (s : Site) : String :=
  match s.owner, s.method with
  | some t, some m => t.qualifiedName ++ "#" ++ m.name
  | some t, none => t.qualifiedName
  | none, some m => m.name
  | none, none => s.file.getD "<unknown>"

/-- The names of the declarations around the annotation. -/
def handle (s : Site) : SourceHandle where
  file := s.file
  typeName := s.owner.map (·.qualifiedName)
  methodName := s.method.map (·.name)

end Site

/-- The annotations of a qualified name on a type. -/
def TypeDecl.typeSites (t : TypeDecl) (file : Option String) (qualifiedName : String) :
    List Site :=
  (t.annotations.filter (·.qualifiedName == qualifiedName)).map fun a =>
    { subject := a, owner := some t, file }

/-- The annotations of a qualified name on the methods of a type. -/
def TypeDecl.methodSites (t : TypeDecl) (file : Option String) (qualifiedName : String) :
    List Site :=
  t.methods.flatMap fun m =>
    (m.annotations.filter (·.qualifiedName == qualifiedName)).map fun a =>
      { subject := a, method := some m, owner := some t, file }

/-- The sites of a qualified name in one unit: for each type those on it, then those on its
methods. -/
def SourceUnit.occurrences (u : SourceUnit) (qualifiedName : String) : List Site :=
  u.types.flatMap fun t => t.typeSites u.file qualifiedName ++ t.methodSites u.file qualifiedName

/-- The sites of a qualified name, in the order of the tree. -/
def SyntaxTree.occurrences (tree : SyntaxTree) (qualifiedName : String) : List Site :=
  tree.units.flatMap (·.occurrences qualifiedName)

/-- The build module of the type that a handle names. -/
def SyntaxTree.moduleOf (tree : SyntaxTree) (h : SourceHandle) : Option String :=
  h.typeName.bind fun name => (tree.type? name).bind (·.module)

end RouteAtlas
