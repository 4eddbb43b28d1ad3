import RouteAtlas.Proofs.Assembly.ReadAlike
import RouteAtlas.Proofs.Scan.Accounting

/-!
# RouteAtlas.Proofs.Scan.ByType — a report as the reports of its types

Each type adds its own routes and its own issues to a report, so reports are compared type by type:
`routes_collect_congr` states that types that are read alike add the same routes.
-/

namespace RouteAtlas

namespace TypeDecl

/-- The routes of the annotations of a kind on the methods of the type. -/
def routes (symbols : SyntaxTree) (config : ScanConfig) (k : MappingKind) (file : Option String)
    (t : TypeDecl) : List Route :=
  t.methods.flatMap fun m =>
    (m.annotations.filter (·.qualifiedName == k.qualifiedName)).flatMap fun a =>
      (Site.onMethod { file } t m a).routes symbols config k

/-- The issues of the annotations of a kind on the type. -/
def issues (k : MappingKind) (t : TypeDecl) : List ScanIssue :=
  (t.annotations.filter (·.qualifiedName == k.qualifiedName)).map t.misplaced

variable {symbols symbols' : SyntaxTree} {config : ScanConfig}

theorem ReadAlike.routes_eq {t t' : TypeDecl} (h : t.ReadAlike config symbols symbols' t')
    (k : MappingKind) (file : Option String) :
    t.routes symbols config k file = t'.routes symbols' config k file := by
  refine flatMap_eq_of_rel (fun m m' hm => ?_) h.methods
  refine flatMap_eq_of_rel (fun a a' ha => ?_)
    (filter_rel (fun a a' ha => by rw [ha.qualifiedName]) hm.annotations)
  have hsite : (Site.onMethod { file } t m a).ReadAlike config symbols symbols'
      (Site.onMethod { file } t' m' a') := ⟨ha, .some hm, .some h, rfl⟩
  rw [Site.routes, Site.routes, hsite.assemble_eq]

/-- Routes come from an annotation of the kind on a method, and know where that stands. -/
theorem exists_of_mem_routes {k : MappingKind} {file : Option String} {t : TypeDecl} {r : Route}
    (h : r ∈ t.routes symbols config k file) :
    ∃ m ∈ t.methods, ∃ a ∈ m.annotations, a.qualifiedName = k.qualifiedName ∧
      r.source = { file, typeName := some t.qualifiedName, methodName := some m.name } := by
  obtain ⟨m, hm, h⟩ := List.mem_flatMap.1 h
  obtain ⟨a, ha, h⟩ := List.mem_flatMap.1 h
  obtain ⟨hamem, hname⟩ := List.mem_filter.1 ha
  exact ⟨m, hm, a, hamem, by simpa using hname, Site.source_of_mem_routes k h⟩

theorem typeName_of_mem_routes {k : MappingKind} {file : Option String} {t : TypeDecl} {r : Route}
    (h : r ∈ t.routes symbols config k file) : r.source.typeName = some t.qualifiedName := by
  obtain ⟨m, -, a, -, -, hsource⟩ := exists_of_mem_routes h
  rw [hsource]

end TypeDecl

section Report

variable (index symbols : SyntaxTree) (config : ScanConfig)

theorem routes_collect_types :
    (collect index symbols config).routes =
      config.kinds.flatMap fun k =>
        index.filedTypes.flatMap fun p => p.2.routes symbols config k p.1 := by
  rw [routes_collect]
  apply List.flatMap_congr
  intro k _
  rw [SyntaxTree.filedTypes, List.flatMap_assoc]
  apply List.flatMap_congr
  intro u _
  rw [List.flatMap_map]
  rfl

theorem issues_collect_types :
    (collect index symbols config).issues =
      (config.kinds.filter (·.qualifiedName != config.classMapping)).flatMap fun k =>
        index.types.flatMap (·.issues k) := by
  rw [issues_collect]
  apply List.flatMap_congr
  intro k _
  rw [SyntaxTree.types, List.flatMap_assoc]
  rfl

variable {index symbols config}

/-- **Types that are read alike add the same routes**, wherever names are looked up. -/
theorem routes_collect_congr {index' symbols' : SyntaxTree}
    (h : index.Corresponds (TypeDecl.ReadAlike config symbols symbols') index') :
    (collect index symbols config).routes = (collect index' symbols' config).routes := by
  rw [routes_collect_types, routes_collect_types]
  apply List.flatMap_congr
  intro k _
  refine flatMap_eq_of_rel (fun p p' hp => ?_) h.filedTypes
  rw [hp.1, hp.2.routes_eq]

/-- Trees whose types are read alike and have the same issues have the same report. -/
theorem scan_congr {tree tree' : SyntaxTree}
    (hread : tree.Corresponds (TypeDecl.ReadAlike config tree tree') tree')
    (hissues : tree.Corresponds (fun t t' => ∀ k, t.issues k = t'.issues k) tree') :
    tree.scan config = tree'.scan config := by
  have hroutes : (tree.scan config).routes = (tree'.scan config).routes :=
    routes_collect_congr hread
  have hissues : (tree.scan config).issues = (tree'.scan config).issues := by
    rw [SyntaxTree.scan, SyntaxTree.scan, issues_collect_types, issues_collect_types]
    apply List.flatMap_congr
    intro k _
    exact flatMap_eq_of_rel (fun t t' ht => ht k) hissues.types
  exact congrArg₂ ScanReport.mk hroutes hissues

theorem exists_type_of_mem_routes {r : Route} (h : r ∈ (collect index symbols config).routes) :
    ∃ t ∈ index.types, r.source.typeName = some t.qualifiedName := by
  rw [routes_collect_types] at h
  obtain ⟨k, -, h⟩ := List.mem_flatMap.1 h
  obtain ⟨p, hp, h⟩ := List.mem_flatMap.1 h
  exact ⟨p.2, index.mem_types_of_mem_filedTypes hp, TypeDecl.typeName_of_mem_routes h⟩

end Report

/-- A method that a `GET` annotation maps to a path. -/
def Method.mappedTo (name : String) (path : Expr) : Method where
  name
  annotations :=
    [{ qualifiedName := MappingKind.get.qualifiedName
       attributes := Dictionary.empty.insert "path" path }]

end RouteAtlas
