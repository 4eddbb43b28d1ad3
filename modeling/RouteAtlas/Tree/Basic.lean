import RouteAtlas.Dictionary
import RouteAtlas.Expr.Basic

/-!
# RouteAtlas.Tree.Basic — declarations of a source tree

A tree is a list of source units with the types they declare.  Names are looked up in the order of
declaration, and the first declaration of a name is the one that counts.
-/

namespace RouteAtlas

/-- An annotation with the attributes written in it. -/
structure Annotation where
  qualifiedName : String
  attributes : Dictionary Expr := .empty

/-- A parameter; its type is kept as it is written. -/
structure Parameter where
  name : String
  typeName : String
  annotations : List Annotation := []

/-- A method. -/
structure Method where
  name : String
  parameters : List Parameter := []
  annotations : List Annotation := []

/-- A named constant and what it is initialized with. -/
structure Constant where
  name : String
  initializer : Option Expr := none

/-- A type with its members. -/
structure TypeDecl where
  qualifiedName : String
  annotations : List Annotation := []
  methods : List Method := []
  constants : List Constant := []
  /-- The build module that the type belongs to. -/
  module : Option String := none

/-- The types declared together in one place. -/
structure SourceUnit where
  file : Option String := none
  types : List TypeDecl := []

/-- All source units. -/
structure SyntaxTree where
  units : List SourceUnit := []

/-- The first annotation of a qualified name. -/
def Parameter.annotation? (p : Parameter) (qualifiedName : String) : Option Annotation :=
  p.annotations.find? (·.qualifiedName == qualifiedName)

/-- The initializer, where it is one that a name may stand for. -/
def Constant.folded? (c : Constant) : Option Expr :=
  c.initializer.filter Expr.isFoldable

namespace TypeDecl

/-- The name without its qualification. -/
def simpleName (t : TypeDecl) : String := RouteAtlas.simpleName t.qualifiedName

/-- The first constant of a name. -/
def constant? (t : TypeDecl) (name : String) : Option Constant :=
  t.constants.find? (·.name == name)

/-- The symbols of the constants, in the order of declaration. -/
def symbols (t : TypeDecl) : List SymbolId :=
  t.constants.map fun c => .ofParts t.qualifiedName c.name

end TypeDecl

namespace SyntaxTree

/-- All types, in the order of declaration. -/
def types (tree : SyntaxTree) : List TypeDecl := tree.units.flatMap (·.types)

/-- The first type of a qualified name. -/
def type? (tree : SyntaxTree) (qualifiedName : String) : Option TypeDecl :=
  tree.types.find? (·.qualifiedName == qualifiedName)

/-- The constant that a symbol names. -/
def constant? (tree : SyntaxTree) (id : SymbolId) : Option Constant :=
  (tree.type? id.owner).bind (·.constant? id.field)

/-- The symbols of all declared constants. -/
def symbols (tree : SyntaxTree) : List SymbolId := tree.types.flatMap (·.symbols)

/-- A symbol that names a constant is the symbol of a declared constant. -/
theorem mem_symbols_of_constant? {tree : SyntaxTree} {id : SymbolId} {c : Constant}
    (h : tree.constant? id = some c) : id ∈ tree.symbols := by
  obtain ⟨t, ht, hc⟩ := Option.bind_eq_some_iff.1 h
  have htm := List.mem_of_find?_eq_some ht
  have hcm := List.mem_of_find?_eq_some hc
  have hto : t.qualifiedName = id.owner := by simpa using List.find?_some ht
  have hcf : c.name = id.field := by simpa using List.find?_some hc
  refine List.mem_flatMap.2 ⟨t, htm, List.mem_map.2 ⟨c, hcm, ?_⟩⟩
  rw [hto, hcf, SymbolId.ofParts_owner_field]

end SyntaxTree

end RouteAtlas
