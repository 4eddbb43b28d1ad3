import RouteAtlas.Folding

/-!
# RouteAtlas.Attribute — attributes read as lists of texts

An attribute holds one entry, or the elements of an array.  An entry is read as the text that its
expression folds to; one that folds to blanks is read as it is written, without quotes around it.
-/

namespace RouteAtlas

/-- The text of one entry of an attribute. -/
def Expr.entryText (tree : SyntaxTree) (e : Expr) : String :=
  let folded := e.fold tree
  if Text.isBlank folded then
    let written := e.sourceText
    if Text.isBlank written then "" else unquote written
  else folded

namespace Annotation

/-- The attribute of a name. -/
def attribute? (a : Annotation) (name : String) : Option Expr := a.attributes.get? name

/-- The entries of an attribute; none when it is not written. -/
def entries (a : Annotation) (name : String) : List Expr :=
  match a.attribute? name with
  | none => []
  | some (.array elements) => elements
  | some e => [e]

/-- The texts of an attribute, in the order they are written. -/
def read (tree : SyntaxTree) (a : Annotation) (name : String) : List String :=
  (a.entries name).map (·.entryText tree)

end Annotation

end RouteAtlas
