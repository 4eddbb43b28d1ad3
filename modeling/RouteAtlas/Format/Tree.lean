import RouteAtlas.Format.Expr
import RouteAtlas.Tree.Basic

/-!
# RouteAtlas.Format.Tree — trees in documents

Each declaration is an object with fixed fields; fields of other names are read over.  Lists that
are left out are empty, and a declaration is always written with all its lists.
-/

namespace RouteAtlas

open Document (readText readText? readList)

/-- Reads a declaration with the fields `known`; all other fields mean nothing. -/
def Document.readDeclaration {α : Type} (known : List String)
    (fields : Record Document → Verdict α) (d : Document) : Except Fault α := do
  let r ← d.record known
  r.finish known (fun _ d => d.skip) (fields r)

namespace Annotation

/-- The fields of an annotation. -/
def fields : List String := ["qualified_name", "attributes"]

/-- Reads an annotation. -/
def ofDocument : Document → Except Fault Annotation :=
  Document.readDeclaration fields fun r =>
    Annotation.mk <$> r.required "qualified_name" readText <*>
      r.optional "attributes" .empty fun d => (d.readEntries Expr.read).map Dictionary.ofList

/-- The document of an annotation. -/
def toDocument (a : Annotation) : Document :=
  .ofFields
    [("qualified_name", some (.text a.qualifiedName)),
      ("attributes", some (.map (a.attributes.entries.map fun (name, e) => (name, e.write)) true))]

end Annotation

namespace Parameter

/-- The fields of a parameter. -/
def fields : List String := ["name", "type_name", "annotations"]

/-- Reads a parameter. -/
def ofDocument : Document → Except Fault Parameter :=
  Document.readDeclaration fields fun r =>
    Parameter.mk <$> r.required "name" readText <*> r.required "type_name" readText <*>
      r.optional "annotations" [] (readList Annotation.ofDocument)

/-- The document of a parameter. -/
def toDocument (p : Parameter) : Document :=
  .ofFields
    [("name", some (.text p.name)), ("type_name", some (.text p.typeName)),
      ("annotations", some (.ofList Annotation.toDocument p.annotations))]

end Parameter

namespace Method

/-- The fields of a method. -/
def fields : List String := ["name", "parameters", "annotations"]

/-- Reads a method. -/
def ofDocument : Document → Except Fault Method :=
  Document.readDeclaration fields fun r =>
    Method.mk <$> r.required "name" readText <*>
      r.optional "parameters" [] (readList Parameter.ofDocument) <*>
      r.optional "annotations" [] (readList Annotation.ofDocument)

/-- The document of a method. -/
def toDocument (m : Method) : Document :=
  .ofFields
    [("name", some (.text m.name)),
      ("parameters", some (.ofList Parameter.toDocument m.parameters)),
      ("annotations", some (.ofList Annotation.toDocument m.annotations))]

end Method

namespace Constant

/-- The fields of a constant. -/
def fields : List String := ["name", "initializer"]

/-- Reads a constant. -/
def ofDocument : Document → Except Fault Constant :=
  Document.readDeclaration fields fun r =>
    Constant.mk <$> r.required "name" readText <*> r.optional "initializer" none Expr.read?

/-- The document of a constant. -/
def toDocument (c : Constant) : Document :=
  .ofFields [("name", some (.text c.name)), ("initializer", c.initializer.map Expr.write)]

end Constant

namespace TypeDecl

/-- The fields of a type. -/
def fields : List String := ["qualified_name", "annotations", "methods", "constants", "module"]

/-- Reads a type. -/
def ofDocument : Document → Except Fault TypeDecl :=
  Document.readDeclaration fields fun r =>
    TypeDecl.mk <$> r.required "qualified_name" readText <*>
      r.optional "annotations" [] (readList Annotation.ofDocument) <*>
      r.optional "methods" [] (readList Method.ofDocument) <*>
      r.optional "constants" [] (readList Constant.ofDocument) <*>
      r.optional "module" none readText?

/-- The document of a type. -/
def toDocument (t : TypeDecl) : Document :=
  .ofFields
    [("qualified_name", some (.text t.qualifiedName)),
      ("annotations", some (.ofList Annotation.toDocument t.annotations)),
      ("methods", some (.ofList Method.toDocument t.methods)),
      ("constants", some (.ofList Constant.toDocument t.constants)),
      ("module", t.module.map .text)]

end TypeDecl

namespace SourceUnit

/-- The fields of a source unit. -/
def fields : List String := ["file", "types"]

/-- Reads a source unit. -/
def ofDocument : Document → Except Fault SourceUnit :=
  Document.readDeclaration fields fun r =>
    SourceUnit.mk <$> r.optional "file" none readText? <*>
      r.optional "types" [] (readList TypeDecl.ofDocument)

/-- The document of a source unit. -/
def toDocument (u : SourceUnit) : Document :=
  .ofFields [("file", u.file.map .text), ("types", some (.ofList TypeDecl.toDocument u.types))]

end SourceUnit

namespace SyntaxTree

/-- The fields of a tree. -/
def fields : List String := ["units"]

/-- Reads a tree. -/
def ofDocument : Document → Except Fault SyntaxTree :=
  Document.readDeclaration fields fun r =>
    SyntaxTree.mk <$> r.optional "units" [] (readList SourceUnit.ofDocument)

/-- The document of a tree. -/
def toDocument (tree : SyntaxTree) : Document :=
  .ofFields [("units", some (.ofList SourceUnit.toDocument tree.units))]

end SyntaxTree

end RouteAtlas
