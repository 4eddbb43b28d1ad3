import RouteAtlas.Attribute

/-!
# RouteAtlas.Binding — types of path variables

A parameter that carries the marker annotation binds a path variable to the type of the parameter.
The marker may name the variable, else it is named like the parameter.  The last parameter that
binds a variable decides its type.
-/

namespace RouteAtlas

/-- The types of path variables. -/
abbrev Binding := Dictionary String

/-- The name an expression gives to a variable; only literals and names give one. -/
def Expr.variableName? (tree : SyntaxTree) (e : Expr) : Option String :=
  match e with
  | .literal .. | .reference .. =>
    let name := e.fold tree
    if Text.isBlank name then none else some name
  | .concat .. | .polyadic .. | .array .. | .other .. => none

/-- The attributes of the marker that name a variable, the more important one first. -/
def namingAttributes : List String := ["value", "name"]

namespace Parameter

/-- The variable that the parameter binds by a marker. -/
def exposedName (tree : SyntaxTree) (p : Parameter) (marker : Annotation) : String :=
  ((namingAttributes.filterMap marker.attribute?).findSome? (·.variableName? tree)).getD p.name

/-- The variable that the parameter binds and the type it gives to it. -/
def bound? (tree : SyntaxTree) (marker : String) (p : Parameter) : Option (String × String) :=
  (p.annotation? marker).map fun a => (p.exposedName tree a, p.typeName)

end Parameter

/-- The types that parameters give to path variables. -/
def bind (tree : SyntaxTree) (marker : String) (parameters : List Parameter) : Binding :=
  .ofList (parameters.filterMap (·.bound? tree marker))

end RouteAtlas
