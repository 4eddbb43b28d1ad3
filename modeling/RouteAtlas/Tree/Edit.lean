import RouteAtlas.Tree.Basic

/-!
# RouteAtlas.Tree.Edit — trees built step by step

Each step adds one declaration inside the last one that can hold it.  A step that finds no such
declaration changes nothing.
-/

namespace RouteAtlas

/-- One step of building a tree. -/
inductive TreeStep where
  | unit (file : Option String)
  | type (qualifiedName : String)
  | annotateType (a : Annotation)
  | module (name : String)
  | constant (c : Constant)
  | method (name : String)
  | annotateMethod (a : Annotation)
  | parameter (name typeName : String)
  | annotateParameter (a : Annotation)

/-- The list with its last element changed; nothing when there is none or it cannot be changed. -/
def changeLast? {α : Type} (change : α → Option α) : List α → Option (List α)
  | [] => none
  | [x] => (change x).map ([·])
  | x :: xs => (changeLast? change xs).map (x :: ·)

/-- The annotation with the attributes added in order; a later one of a name replaces an earlier
one. -/
def Annotation.withAttributes (a : Annotation) (attributes : List (String × Expr)) : Annotation :=
  { a with attributes := attributes.foldl (fun d e => d.insert e.1 e.2) a.attributes }

namespace SyntaxTree

/-- Changes the last type of the last unit. -/
def changeType? (tree : SyntaxTree) (change : TypeDecl → Option TypeDecl) : Option SyntaxTree :=
  (changeLast?
      (fun u : SourceUnit =>
        (changeLast? change u.types).map fun types => { u with types })
      tree.units).map (⟨·⟩)

/-- Changes the last method of that type. -/
def changeMethod? (tree : SyntaxTree) (change : Method → Option Method) : Option SyntaxTree :=
  tree.changeType? fun t => (changeLast? change t.methods).map fun methods => { t with methods }

/-- Changes the last parameter of that method. -/
def changeParameter? (tree : SyntaxTree) (change : Parameter → Option Parameter) :
    Option SyntaxTree :=
  tree.changeMethod? fun m =>
    (changeLast? change m.parameters).map fun parameters => { m with parameters }

/-- The tree after a step, where the step finds its place. -/
def step? (tree : SyntaxTree) : TreeStep → Option SyntaxTree
  | .unit file => some ⟨tree.units ++ [{ file }]⟩
  | .type qualifiedName =>
    (changeLast? (fun u : SourceUnit => some { u with types := u.types ++ [{ qualifiedName }] })
      tree.units).map (⟨·⟩)
  | .annotateType a =>
    tree.changeType? fun t => some { t with annotations := t.annotations ++ [a] }
  | .module name => tree.changeType? fun t => some { t with module := some name }
  | .constant c => tree.changeType? fun t => some { t with constants := t.constants ++ [c] }
  | .method name => tree.changeType? fun t => some { t with methods := t.methods ++ [{ name }] }
  | .annotateMethod a =>
    tree.changeMethod? fun m => some { m with annotations := m.annotations ++ [a] }
  | .parameter name typeName =>
    tree.changeMethod? fun m => some { m with parameters := m.parameters ++ [{ name, typeName }] }
  | .annotateParameter a =>
    tree.changeParameter? fun p => some { p with annotations := p.annotations ++ [a] }

end SyntaxTree

end RouteAtlas
