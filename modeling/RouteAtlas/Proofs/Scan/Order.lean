import RouteAtlas.Listing
import RouteAtlas.Proofs.Scan.ByType

/-!
# RouteAtlas.Proofs.Scan.Order — declarations listed in another order

Where the names of types are distinct, the order of units and of the types in them decides nothing
but the order of a report: the main statement is that every expression stands for the same text, and
that the routes, the issues and the lines are the same up to their order.
-/

namespace RouteAtlas

section Rearranged

variable {tree tree' : SyntaxTree}

theorem SyntaxTree.Rearranged.constant?_eq (hnames : (tree.types.map (·.qualifiedName)).Nodup)
    (h : tree.Rearranged tree') (id : SymbolId) : tree.constant? id = tree'.constant? id := by
  rw [constant?, constant?, h.type?_eq hnames]

theorem SyntaxTree.Rearranged.fold_eq (hnames : (tree.types.map (·.qualifiedName)).Nodup)
    (h : tree.Rearranged tree') (e : Expr) : e.fold tree = e.fold tree' :=
  Expr.foldIn_eq_of_agreesAt fun id _ => .of_constant?_eq (h.constant?_eq hnames id)

theorem SyntaxTree.Rearranged.moduleOf_eq (hnames : (tree.types.map (·.qualifiedName)).Nodup)
    (h : tree.Rearranged tree') : tree.moduleOf = tree'.moduleOf := by
  funext handle
  simp only [moduleOf, h.type?_eq hnames]

/-- Every type adds the same routes, and they come in another order. -/
theorem SyntaxTree.Rearranged.routes_perm (hnames : (tree.types.map (·.qualifiedName)).Nodup)
    (h : tree.Rearranged tree') (config : ScanConfig) :
    (tree.scan config).routes.Perm (tree'.scan config).routes := by
  rw [scan, scan, routes_collect_types, routes_collect_types]
  -- the kinds keep their order, and for each of them the types come in another one
  apply List.Perm.flatMap_left
  intro k _
  refine h.filedTypes.flatMap fun p _ => ?_
  have hread : p.2.ReadAlike config tree tree' p.2 :=
    TypeDecl.readAlike_self fun e _ => h.fold_eq hnames e
  rw [hread.routes_eq]

theorem SyntaxTree.Rearranged.issues_perm (h : tree.Rearranged tree') (config : ScanConfig) :
    (tree.scan config).issues.Perm (tree'.scan config).issues := by
  rw [scan, scan, issues_collect_types, issues_collect_types]
  apply List.Perm.flatMap_left
  intro k _
  exact h.types.flatMap_right _

/-- **The order of declarations decides only the order of a report.**  Where no two types have the
same qualified name, units and the types in them may be listed in any order: expressions stand for
the same texts, and the routes, the issues and the lines are the same, each as often. -/
theorem scan_perm_of_rearranged (hnames : (tree.types.map (·.qualifiedName)).Nodup)
    (h : tree.Rearranged tree') (config : ScanConfig) :
    (∀ e : Expr, e.fold tree = e.fold tree') ∧
    (tree.scan config).routes.Perm (tree'.scan config).routes ∧
    (tree.scan config).issues.Perm (tree'.scan config).issues ∧
    ((tree.scan config).lines tree).Perm ((tree'.scan config).lines tree') := by
  have hroutes := h.routes_perm hnames config
  refine ⟨h.fold_eq hnames, hroutes, h.issues_perm config, ?_⟩
  rw [ScanReport.lines, ScanReport.lines, h.moduleOf_eq hnames]
  exact hroutes.map _

end Rearranged

/-- A type with one mapped method. -/
def mappedType (qualifiedName : String) : TypeDecl where
  qualifiedName
  methods := [.mappedTo "list" (.string "/list")]

/-- Two units, the first of them with two types. -/
def forwardTree : SyntaxTree :=
  ⟨[{ types := [mappedType "Shop", mappedType "Cart"] }, { types := [mappedType "Admin"] }]⟩

/-- The same units, and the types in them, from the last one to the first. -/
def reversedTree : SyntaxTree :=
  ⟨[{ types := [mappedType "Admin"] }, { types := [mappedType "Cart", mappedType "Shop"] }]⟩

/-- Three types from the last one to the first give their routes in that order. -/
theorem scan_perm_of_rearranged_reversed :
    (forwardTree.types.map (·.qualifiedName)).Nodup ∧ forwardTree.Rearranged reversedTree ∧
      (forwardTree.scan {}).routes.Perm (reversedTree.scan {}).routes ∧
      (forwardTree.scan {}).routes.map (·.source.typeName) =
        [some "Shop", some "Cart", some "Admin"] ∧
      (reversedTree.scan {}).routes.map (·.source.typeName) =
        [some "Admin", some "Cart", some "Shop"] := by
  have hnames : (forwardTree.types.map (·.qualifiedName)).Nodup := by decide
  have hrearranged : forwardTree.Rearranged reversedTree :=
    ⟨_, .swap _ _ _, .cons ⟨rfl, .refl _⟩ (.cons ⟨rfl, .swap _ _ _⟩ .nil)⟩
  obtain ⟨-, hroutes, -, -⟩ := scan_perm_of_rearranged hnames hrearranged {}
  exact ⟨hnames, hrearranged, hroutes, rfl, rfl⟩

end RouteAtlas
