import RouteAtlas.Listing
import RouteAtlas.Proofs.Folding.Steps
import RouteAtlas.Proofs.Scan.ByType

/-!
# RouteAtlas.Proofs.Scan.Growth — units added to a tree

Units are added at the end of a tree.  The types that were there keep their names, so nothing that
is written in the old units changes its meaning, unless it names a type that only the new units
declare.  The main statement is that a scan for one kind then keeps its report and adds to it what
the sites in the new units give.
-/

namespace RouteAtlas

namespace SyntaxTree

/-- The tree with units added at its end. -/
def withUnits (tree : SyntaxTree) (units : List SourceUnit) : SyntaxTree := ⟨tree.units ++ units⟩

variable {tree : SyntaxTree} {units : List SourceUnit}

theorem types_withUnits (tree : SyntaxTree) (units : List SourceUnit) :
    (tree.withUnits units).types = tree.types ++ (⟨units⟩ : SyntaxTree).types := by
  rw [types, withUnits, List.flatMap_append]
  rfl

theorem filedTypes_withUnits (tree : SyntaxTree) (units : List SourceUnit) :
    (tree.withUnits units).filedTypes =
      tree.filedTypes ++ (⟨units⟩ : SyntaxTree).filedTypes := by
  rw [filedTypes, withUnits, List.flatMap_append]
  rfl

theorem type?_withUnits (tree : SyntaxTree) (units : List SourceUnit) (name : String) :
    (tree.withUnits units).type? name =
      (tree.type? name).or ((⟨units⟩ : SyntaxTree).type? name) := by
  rw [type?, types_withUnits, List.find?_append]
  rfl

/-- A name keeps its meaning when it is declared already or not declared by what is added. -/
theorem type?_withUnits_of_declared {name : String}
    (h : ∀ u ∈ units, ∀ t ∈ u.types, t.qualifiedName = name →
      ∃ t' ∈ tree.types, t'.qualifiedName = name) :
    (tree.withUnits units).type? name = tree.type? name := by
  rw [type?_withUnits]
  cases hfind : tree.type? name with
  | some t => rfl
  | none =>
    rw [Option.none_or]
    -- an added type of that name would be declared in the tree too, and found there
    refine List.find?_eq_none.2 fun t ht hname => ?_
    obtain ⟨u, hu, htu⟩ := List.mem_flatMap.1 ht
    obtain ⟨t', ht', htname⟩ := h u hu t htu (by simpa using hname)
    exact List.find?_eq_none.1 hfind t' ht' (by simpa using htname)

/-- A type of the tree is not shadowed by one that is added. -/
theorem type?_withUnits_of_mem {t : TypeDecl} (ht : t ∈ tree.types) :
    (tree.withUnits units).type? t.qualifiedName = tree.type? t.qualifiedName :=
  type?_withUnits_of_declared fun _ _ _ _ _ => ⟨t, ht, rfl⟩

/-- No name in the tree means a constant of a type that only the added units declare. -/
def IndependentOf (tree : SyntaxTree) (units : List SourceUnit) : Prop :=
  ∀ id ∈ tree.mentions, ∀ u ∈ units, ∀ t ∈ u.types, t.qualifiedName = id.owner →
    ∃ t' ∈ tree.types, t'.qualifiedName = id.owner

theorem IndependentOf.constant?_eq (h : tree.IndependentOf units) {id : SymbolId}
    (hid : id ∈ tree.mentions) : (tree.withUnits units).constant? id = tree.constant? id := by
  rw [constant?, constant?, type?_withUnits_of_declared (h id hid)]

/-- What is written in the tree, and what it leads to, stands in the tree. -/
theorem IndependentOf.foldsAlike (h : tree.IndependentOf units) :
    tree.FoldsAlike (tree.withUnits units) tree.mentions := by
  intro e he
  refine Expr.foldIn_eq_of_agreesAt fun id hid => ?_
  exact .of_constant?_eq (h.constant?_eq (hid.mem_mentions he)).symm

end SyntaxTree

/-! ## What is added to a report -/

section Growth

variable {tree : SyntaxTree} {units : List SourceUnit} {config : ScanConfig} {k : MappingKind}

theorem routes_collect_withUnits (symbols : SyntaxTree) (hkind : config.kinds = [k]) :
    (collect (tree.withUnits units) symbols config).routes =
      (collect tree symbols config).routes ++ (collect ⟨units⟩ symbols config).routes := by
  -- with a second kind, its routes in the tree would come after those of the first in the units
  rw [routes_collect_types, routes_collect_types, routes_collect_types, hkind,
    List.flatMap_singleton, List.flatMap_singleton, List.flatMap_singleton,
    SyntaxTree.filedTypes_withUnits, List.flatMap_append]

theorem issues_collect_withUnits (symbols : SyntaxTree) (hkind : config.kinds = [k]) :
    (collect (tree.withUnits units) symbols config).issues =
      (collect tree symbols config).issues ++ (collect ⟨units⟩ symbols config).issues := by
  rw [issues_collect_types, issues_collect_types, issues_collect_types, hkind, List.filter_cons,
    List.filter_nil]
  cases k.qualifiedName != config.classMapping with
  | false => rfl
  | true =>
    rw [if_pos rfl, List.flatMap_singleton, List.flatMap_singleton, List.flatMap_singleton,
      SyntaxTree.types_withUnits, List.flatMap_append]

/-- Issues do not depend on where names are looked up. -/
theorem issues_collect_congr (index symbols symbols' : SyntaxTree) (config : ScanConfig) :
    (collect index symbols config).issues = (collect index symbols' config).issues := by
  rw [issues_collect_types, issues_collect_types]

/-- The sites of the tree give what they gave before the units were added. -/
theorem routes_collect_of_independentOf (h : tree.IndependentOf units) (config : ScanConfig) :
    (collect tree (tree.withUnits units) config).routes = (tree.scan config).routes := by
  refine (routes_collect_congr (SyntaxTree.corresponds_self fun t ht => ?_)).symm
  exact TypeDecl.readAlike_self (h.foldsAlike.of_mem ht)

theorem Route.line_congr {r : Route} {moduleOf moduleOf' : SourceHandle → Option String}
    (h : moduleOf r.source = moduleOf' r.source) : r.line moduleOf = r.line moduleOf' := by
  rw [line, line, location, location, moduleSuffix, moduleSuffix, h]

/-- The types of the tree keep their modules. -/
theorem lines_withUnits (tree : SyntaxTree) (units : List SourceUnit) (config : ScanConfig) :
    (tree.scan config).lines (tree.withUnits units) = (tree.scan config).lines tree := by
  refine List.map_congr_left fun r hr => Route.line_congr ?_
  obtain ⟨t, ht, hname⟩ := exists_type_of_mem_routes hr
  rw [SyntaxTree.moduleOf, SyntaxTree.moduleOf, hname, Option.bind_some, Option.bind_some,
    SyntaxTree.type?_withUnits_of_mem ht]

/-- **A scan grows with its tree.**  Where the tree names no type that only the added units declare,
a scan for one kind keeps its routes, issues and lines in their order and adds those of the sites in
the units, for which names and modules are looked up in the whole tree.  The units may declare types
again that the tree declares. -/
theorem scan_withUnits (hkind : config.kinds = [k]) (h : tree.IndependentOf units) :
    let whole := tree.withUnits units
    let added := collect ⟨units⟩ whole config
    (whole.scan config).routes = (tree.scan config).routes ++ added.routes ∧
    (whole.scan config).issues = (tree.scan config).issues ++ added.issues ∧
    (whole.scan config).lines whole = (tree.scan config).lines tree ++ added.lines whole := by
  intro whole added
  have hroutes : (whole.scan config).routes = (tree.scan config).routes ++ added.routes := by
    rw [SyntaxTree.scan, routes_collect_withUnits whole hkind, routes_collect_of_independentOf h]
  have hissues : (whole.scan config).issues = (tree.scan config).issues ++ added.issues := by
    rw [SyntaxTree.scan, issues_collect_withUnits whole hkind, SyntaxTree.scan,
      issues_collect_congr tree whole tree]
  refine ⟨hroutes, hissues, ?_⟩
  rw [← lines_withUnits tree units config, ScanReport.lines, hroutes, List.map_append]
  rfl

end Growth

/-- A type `Paths` with the constant `BASE`. -/
def pathsType (base : String) : TypeDecl where
  qualifiedName := "Paths"
  constants := [{ name := "BASE", initializer := some (.string base) }]

/-- A type with one method, mapped to the constant `BASE` of `Paths`. -/
def basedType (qualifiedName : String) : TypeDecl where
  qualifiedName
  methods := [.mappedTo "list" (.pathsReference "BASE")]

/-- `Shop` and the constant it is based on. -/
def shopTree : SyntaxTree := ⟨[{ types := [pathsType "/old", basedType "Shop"] }]⟩

/-- `Cart` and another declaration of the constant. -/
def cartUnit : SourceUnit := { types := [pathsType "/new", basedType "Cart"] }

/-- `Paths` is declared again, and the old declaration counts for both types. -/
theorem scan_withUnits_redeclared :
    let config : ScanConfig := { kinds := [.get] }
    let whole := shopTree.withUnits [cartUnit]
    shopTree.IndependentOf [cartUnit] ∧
      (whole.scan config).routes =
        (shopTree.scan config).routes ++ (collect ⟨[cartUnit]⟩ whole config).routes ∧
      (whole.scan config).routes.map (·.source.typeName) = [some "Shop", some "Cart"] ∧
      (whole.scan config).routes.map (·.path) = ["/old", "/old"] := by
  intro config whole
  have hindependent : shopTree.IndependentOf [cartUnit] := by
    unfold SyntaxTree.IndependentOf
    decide
  have hkind : config.kinds = [.get] := rfl
  obtain ⟨hroutes, -, -⟩ := scan_withUnits hkind hindependent
  have htext : (Expr.pathsReference "BASE").entryText whole = "/old" := by
    have hfold : (Expr.pathsReference "BASE").fold whole = "/old" := by
      have hpieces : (Expr.pathsReference "BASE").expand whole [] = _ :=
        Folding.expand_eq_of_run (n := 5) rfl
      rw [Expr.fold, Expr.foldIn, hpieces]
      rfl
    rw [Expr.entryText, hfold]
    rfl
  have hread : (whole.scan config).routes.map (·.path) =
      List.replicate 2 (String.ofList
        (Path.joinText [] ((Expr.pathsReference "BASE").entryText whole).toList)) := rfl
  refine ⟨hindependent, hroutes, rfl, ?_⟩
  rw [hread, htext]
  decide

end RouteAtlas
