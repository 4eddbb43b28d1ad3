import RouteAtlas.Proofs.Scan.ByType

/-!
# RouteAtlas.Proofs.Scan.Misplaced — annotations on types that are no class mappings

An annotation on a type that is no class mapping is misplaced: it adds an issue at most.  The main
statement is that the routes of a tree do not depend on such annotations, whichever of them are left
out, and that the issues are those of the annotations that remain.
-/

namespace RouteAtlas

/-- The second list is the first one with some elements left out, all of them with the property. -/
inductive Deletion {α : Type} (p : α → Prop) : List α → List α → Prop
  | nil : Deletion p [] []
  | keep (x : α) {xs ys : List α} : Deletion p xs ys → Deletion p (x :: xs) (x :: ys)
  | delete {x : α} {xs ys : List α} : p x → Deletion p xs ys → Deletion p (x :: xs) ys

section Deletion

variable {α : Type} {p : α → Prop} {xs ys : List α}

theorem Deletion.sublist (h : Deletion p xs ys) : ys.Sublist xs := by
  induction h with
  | nil => exact .slnil
  | keep x _ ih => exact ih.cons_cons x
  | delete _ _ ih => exact ih.cons _

/-- Nothing changes for those who do not look at elements with the property. -/
theorem Deletion.filter_eq (h : Deletion p xs ys) {q : α → Bool} (hq : ∀ x, p x → q x = false) :
    xs.filter q = ys.filter q := by
  induction h with
  | nil => rfl
  | keep x _ ih => rw [List.filter_cons, List.filter_cons, ih]
  | delete hx _ ih => rw [List.filter_cons_of_neg (by simp [hq _ hx]), ih]

end Deletion

/-- The types differ in annotations that are left out, none of them a class mapping. -/
structure TypeDecl.Pruned (config : ScanConfig) (t t' : TypeDecl) : Prop where
  eq_with_annotations : t' = { t with annotations := t'.annotations }
  annotations : Deletion (fun a : Annotation => a.qualifiedName ≠ config.classMapping)
    t.annotations t'.annotations

section Pruned

variable {config : ScanConfig} {t t' : TypeDecl} {tree tree' : SyntaxTree}

theorem TypeDecl.Pruned.qualifiedName_eq (h : t.Pruned config t') :
    t.qualifiedName = t'.qualifiedName := by
  rw [h.eq_with_annotations]

theorem TypeDecl.Pruned.methods_eq (h : t.Pruned config t') : t.methods = t'.methods := by
  rw [h.eq_with_annotations]

theorem TypeDecl.Pruned.constant?_eq (h : t.Pruned config t') (name : String) :
    t.constant? name = t'.constant? name := by
  rw [h.eq_with_annotations]
  rfl

theorem TypeDecl.Pruned.classMappings_eq (h : t.Pruned config t') :
    classMappings config (some t) = classMappings config (some t') :=
  h.annotations.filter_eq fun a ha => by simpa using ha

theorem TypeDecl.Pruned.misplaced_eq (h : t.Pruned config t') : t.misplaced = t'.misplaced := by
  funext a
  rw [misplaced, misplaced, h.qualifiedName_eq]

theorem TypeDecl.Pruned.issues_sublist (h : t.Pruned config t') (k : MappingKind) :
    (t'.issues k).Sublist (t.issues k) := by
  rw [issues, issues, h.misplaced_eq]
  exact (h.annotations.sublist.filter _).map _

theorem SyntaxTree.Corresponds.constant?_eq_of_pruned
    (h : tree.Corresponds (TypeDecl.Pruned config) tree') (id : SymbolId) :
    tree.constant? id = tree'.constant? id :=
  bind_eq_of_rel (fun _ _ ht => ht.constant?_eq id.field)
    (h.type? (fun _ _ ht => ht.qualifiedName_eq) id.owner)

/-- Class mappings and methods stay, so the types are read alike. -/
theorem TypeDecl.Pruned.readAlike (hfold : ∀ e : Expr, e.fold tree = e.fold tree')
    (h : t.Pruned config t') : t.ReadAlike config tree tree' t' := by
  refine ⟨h.qualifiedName_eq, ?_, ?_⟩
  · rw [h.classMappings_eq]
    exact List.forall₂_same.2 fun a _ => a.readAlike_self fun e _ => hfold e
  · rw [h.methods_eq]
    exact List.forall₂_same.2 fun m _ => m.readAlike_self fun e _ => hfold e

end Pruned

/-- **Misplaced annotations add no routes and take none away.**  Whichever annotations on types are
left out, as long as the class mappings stay, the routes are the same in the same order, and the
issues are those of the annotations that remain; without misplaced annotations there are none. -/
theorem scan_without_misplaced {config : ScanConfig} {tree tree' : SyntaxTree}
    (h : tree.Corresponds (TypeDecl.Pruned config) tree') :
    (tree'.scan config).routes = (tree.scan config).routes ∧
    (tree'.scan config).issues =
      ((config.kinds.filter (·.qualifiedName != config.classMapping)).flatMap fun k =>
        tree'.types.flatMap fun t =>
          (t.annotations.filter (·.qualifiedName == k.qualifiedName)).map t.misplaced) ∧
    (tree'.scan config).issues.Sublist (tree.scan config).issues ∧
    ((∀ t ∈ tree'.types, ∀ a ∈ t.annotations, a.qualifiedName = config.classMapping) →
      (tree'.scan config).issues = []) := by
  have hissues := issues_collect_types tree' tree' config
  refine ⟨?_, hissues, ?_, fun hmappings => ?_⟩
  · have hfold : ∀ e : Expr, e.fold tree = e.fold tree' := fun e =>
      Expr.foldIn_eq_of_agreesAt fun id _ => .of_constant?_eq (h.constant?_eq_of_pruned id)
    exact (routes_collect_congr (h.mono fun _ _ ht => ht.readAlike hfold)).symm
  · rw [SyntaxTree.scan, SyntaxTree.scan, hissues, issues_collect_types]
    refine flatMap_sublist_of_rel (R := Eq) ?_ (List.forall₂_refl _)
    rintro k _ rfl
    exact flatMap_sublist_of_rel (fun _ _ ht => ht.issues_sublist k) h.types
  · rw [SyntaxTree.scan, hissues, List.flatMap_eq_nil_iff]
    intro k hk
    rw [List.flatMap_eq_nil_iff]
    intro t ht
    -- what stands on the types are class mappings, and the kinds that give issues are others
    have hkind : k.qualifiedName ≠ config.classMapping := by simpa using (List.mem_filter.1 hk).2
    rw [TypeDecl.issues, List.map_eq_nil_iff, List.filter_eq_nil_iff]
    intro a ha
    rw [hmappings t ht a ha]
    simpa using hkind.symm

/-- A type below `/shop`, with a mapped method and further annotations. -/
def shopType (annotations : List Annotation) : TypeDecl where
  qualifiedName := "Shop"
  annotations :=
    { qualifiedName := MappingKind.request.qualifiedName
      attributes := Dictionary.empty.insert "path" (.string "/shop") } :: annotations
  methods := [.mappedTo "list" (.string "/list")]

/-- A `GET` annotation on the type is the only issue; the route of the method stays without it. -/
theorem scan_without_misplaced_get :
    let get : Annotation := { qualifiedName := MappingKind.get.qualifiedName }
    let tree : SyntaxTree := ⟨[{ types := [shopType [get]] }]⟩
    let tree' : SyntaxTree := ⟨[{ types := [shopType []] }]⟩
    tree.Corresponds (TypeDecl.Pruned {}) tree' ∧
      (tree'.scan {}).routes = (tree.scan {}).routes ∧
      (tree'.scan {}).routes.length = 1 ∧
      (tree.scan {}).issues = [(shopType [get]).misplaced get] ∧ (tree'.scan {}).issues = [] := by
  intro get tree tree'
  have hpruned : (shopType [get]).Pruned {} (shopType []) :=
    ⟨rfl, .keep _ (.delete (by decide) .nil)⟩
  have hcorresponds : tree.Corresponds (TypeDecl.Pruned {}) tree' :=
    .cons ⟨rfl, .cons hpruned .nil⟩ .nil
  obtain ⟨hroutes, -, -, hnone⟩ := scan_without_misplaced hcorresponds
  have hmappings : ∀ t ∈ tree'.types, ∀ a ∈ t.annotations,
      a.qualifiedName = ({} : ScanConfig).classMapping := by decide
  exact ⟨hcorresponds, hroutes, rfl, rfl, hnone hmappings⟩

end RouteAtlas
