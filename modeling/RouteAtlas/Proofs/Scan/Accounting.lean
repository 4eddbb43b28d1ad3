import Mathlib.Data.List.Basic
import RouteAtlas.Proofs.Assembly.Combinations
import RouteAtlas.Scan

/-!
# RouteAtlas.Proofs.Scan.Accounting — what each annotation adds to a report

`flatMap_occurrences` goes through the sites of a qualified name by the declarations that they stand
on.  The main statement gives both lists of a report in these terms: annotations on methods add
their routes, annotations on types add an issue or nothing, and nothing else adds anything.
-/

namespace RouteAtlas

/-- The issue of an annotation on a type. -/
def TypeDecl.misplaced (t : TypeDecl) (a : Annotation) : ScanIssue where
  location := t.qualifiedName
  kind := "MalformedTarget"
  message := "malformed target for @" ++ a.qualifiedName ++ " at " ++ t.qualifiedName ++
    ": annotation is not attached to a method"

namespace Site

/-- The site of an annotation on a type. -/
def onType (u : SourceUnit) (t : TypeDecl) (a : Annotation) : Site :=
  { subject := a, owner := some t, file := u.file }

/-- The site of an annotation on a method. -/
def onMethod (u : SourceUnit) (t : TypeDecl) (m : Method) (a : Annotation) : Site :=
  { subject := a, method := some m, owner := some t, file := u.file }

/-- The routes at a site; none where the site has no method. -/
def routes (symbols : SyntaxTree) (config : ScanConfig) (k : MappingKind) (s : Site) :
    List Route :=
  match s.assemble symbols config k with
  | .ok rs => rs
  | .error _ => []

variable {symbols : SyntaxTree} {config : ScanConfig} (k : MappingKind)

theorem assemble_eq_ok_routes {s : Site} {m : Method} (hm : s.method = some m) :
    s.assemble symbols config k = .ok (s.routes symbols config k) := by
  rw [routes, assemble_of_method k hm]

/-- There is a route for each way to combine, and there is a way to combine. -/
theorem routes_ne_nil {s : Site} {m : Method} (hm : s.method = some m) :
    s.routes symbols config k ≠ [] := by
  rw [routes, assemble_of_method k hm, ← List.length_pos_iff, length_combinations, List.length_map,
    List.length_map]
  exact Nat.mul_pos
    (Nat.mul_pos (List.length_pos_iff.2 (s.classTexts_ne_nil symbols config))
      (List.length_pos_iff.2 (s.subject.pathTexts_ne_nil symbols)))
    (List.length_pos_iff.2 (s.subject.paramTexts_ne_nil symbols))

theorem routes_of_no_method {s : Site} (hm : s.method = none) : s.routes symbols config k = [] := by
  rw [routes, assemble_of_no_method k hm]

theorem source_of_mem_routes {s : Site} {r : Route} (h : r ∈ s.routes symbols config k) :
    r.source = s.handle := by
  cases hm : s.method with
  | none =>
    rw [routes_of_no_method k hm] at h
    cases h
  | some m =>
    rw [routes, assemble_of_method k hm] at h
    exact s.source_of_mem_combinations _ _ _ _ h

/-! ## What a scan makes of a site -/

/-- A scan adds the routes at each site. -/
theorem routeList_outcome (s : Site) :
    (s.outcome symbols config k).routeList = s.routes symbols config k := by
  cases hm : s.method with
  | none =>
    rw [routes_of_no_method k hm, outcome, assemble_of_no_method k hm]
    split <;> rfl
  | some m =>
    rw [outcome, hm, if_neg (by simp), assemble_eq_ok_routes k hm]
    rfl

section Declarations

variable (u : SourceUnit) (t : TypeDecl) (m : Method) (a : Annotation)

theorem outcome_onMethod :
    (onMethod u t m a).outcome symbols config k =
      .routes ((onMethod u t m a).routes symbols config k) := by
  have hm : (onMethod u t m a).method = some m := rfl
  rw [outcome, if_neg (by rw [hm]; exact Bool.false_ne_true), assemble_eq_ok_routes k hm]

theorem outcome_onType :
    (onType u t a).outcome symbols config k =
      if k.qualifiedName = config.classMapping then .classMapping
      else .failure (.malformedTarget a.qualifiedName t.qualifiedName) := by
  have hm : (onType u t a).method = none := rfl
  rw [outcome, hm]
  by_cases hk : k.qualifiedName = config.classMapping
  · rw [if_pos hk, if_pos (by rw [hk]; simp)]
  · rw [if_neg hk, if_neg (by simp [hk]), assemble_of_no_method k hm]
    rfl

theorem issue?_onMethod : ((onMethod u t m a).outcome symbols config k).issue? = none := by
  rw [outcome_onMethod]
  rfl

theorem issue?_onType :
    ((onType u t a).outcome symbols config k).issue? =
      if k.qualifiedName = config.classMapping then none else some (t.misplaced a) := by
  rw [outcome_onType]
  by_cases hk : k.qualifiedName = config.classMapping
  · rw [if_pos hk, if_pos hk]
    rfl
  · rw [if_neg hk, if_neg hk]
    rfl

end Declarations

end Site

/-! ## The sites of a qualified name -/

section Occurrences

variable {β : Type} (g : Site → List β) (qualifiedName : String)

theorem flatMap_typeSites (u : SourceUnit) (t : TypeDecl) :
    (t.typeSites u.file qualifiedName).flatMap g =
      (t.annotations.filter (·.qualifiedName == qualifiedName)).flatMap fun a =>
        g (.onType u t a) := by
  rw [TypeDecl.typeSites, List.flatMap_map]
  rfl

theorem flatMap_methodSites (u : SourceUnit) (t : TypeDecl) :
    (t.methodSites u.file qualifiedName).flatMap g =
      t.methods.flatMap fun m =>
        (m.annotations.filter (·.qualifiedName == qualifiedName)).flatMap fun a =>
          g (.onMethod u t m a) := by
  rw [TypeDecl.methodSites, List.flatMap_assoc]
  apply List.flatMap_congr
  intro m _
  rw [List.flatMap_map]
  rfl

/-- Whatever is made of the sites, it is made of the annotations on the declarations in order. -/
theorem flatMap_occurrences (tree : SyntaxTree) :
    (tree.occurrences qualifiedName).flatMap g =
      tree.units.flatMap fun u => u.types.flatMap fun t =>
        ((t.annotations.filter (·.qualifiedName == qualifiedName)).flatMap fun a =>
          g (.onType u t a)) ++
        t.methods.flatMap fun m =>
          (m.annotations.filter (·.qualifiedName == qualifiedName)).flatMap fun a =>
            g (.onMethod u t m a) := by
  rw [SyntaxTree.occurrences, List.flatMap_assoc]
  apply List.flatMap_congr
  intro u _
  rw [SourceUnit.occurrences, List.flatMap_assoc]
  apply List.flatMap_congr
  intro t _
  rw [List.flatMap_append, flatMap_typeSites, flatMap_methodSites]

end Occurrences

/-! ## The two lists of a report -/

theorem flatMap_filter {α β : Type} (p : α → Bool) (f : α → List β) (xs : List α) :
    (xs.filter p).flatMap f = xs.flatMap fun x => if p x then f x else [] := by
  induction xs with
  | nil => rfl
  | cons x xs ih =>
    rw [List.filter_cons, List.flatMap_cons, ← ih]
    cases h : p x with
    | true => rfl
    | false => rfl

section Report

variable (index symbols : SyntaxTree) (config : ScanConfig)

theorem flatMap_outcomes {β : Type} (g : Outcome → List β) :
    (outcomes index symbols config).flatMap g =
      config.kinds.flatMap fun k => (index.occurrences k.qualifiedName).flatMap fun s =>
        g (s.outcome symbols config k) := by
  rw [outcomes, List.flatMap_assoc]
  apply List.flatMap_congr
  intro k _
  rw [outcomesOf, List.flatMap_map]

/-- The routes of a report are those at its sites. -/
theorem routes_collect_sites :
    (collect index symbols config).routes =
      config.kinds.flatMap fun k =>
        (index.occurrences k.qualifiedName).flatMap (·.routes symbols config k) := by
  show (outcomes index symbols config).flatMap (·.routeList) = _
  rw [flatMap_outcomes]
  simp only [Site.routeList_outcome]

theorem routes_collect :
    (collect index symbols config).routes =
      config.kinds.flatMap fun k => index.units.flatMap fun u => u.types.flatMap fun t =>
        t.methods.flatMap fun m =>
          (m.annotations.filter (·.qualifiedName == k.qualifiedName)).flatMap fun a =>
            (Site.onMethod u t m a).routes symbols config k := by
  rw [routes_collect_sites]
  apply List.flatMap_congr
  intro k _
  rw [flatMap_occurrences]
  apply List.flatMap_congr
  intro u _
  apply List.flatMap_congr
  intro t _
  rw [List.flatMap_eq_nil_iff.2 fun a _ => Site.routes_of_no_method k rfl, List.nil_append]

theorem issues_collect :
    (collect index symbols config).issues =
      (config.kinds.filter (·.qualifiedName != config.classMapping)).flatMap fun k =>
        index.units.flatMap fun u => u.types.flatMap fun t =>
          (t.annotations.filter (·.qualifiedName == k.qualifiedName)).map t.misplaced := by
  show (outcomes index symbols config).filterMap (·.issue?) = _
  rw [List.filterMap_eq_flatMap_toList, flatMap_outcomes, flatMap_filter]
  apply List.flatMap_congr
  intro k _
  rw [flatMap_occurrences]
  have hmethods : ∀ (u : SourceUnit) (t : TypeDecl), (t.methods.flatMap fun m =>
      (m.annotations.filter (·.qualifiedName == k.qualifiedName)).flatMap fun a =>
        ((Site.onMethod u t m a).outcome symbols config k).issue?.toList) = [] := by
    intro u t
    simp [Site.issue?_onMethod]
  simp only [hmethods, List.append_nil]
  by_cases hk : k.qualifiedName = config.classMapping
  · simp [Site.issue?_onType, hk]
  · simp [Site.issue?_onType, hk, List.map_eq_flatMap]

/-- **A report accounts for every annotation**, once for each time that its kind is listed.  On a
method it adds the routes that `assemble` gives, of which there is at least one; on a type it adds
one issue, or nothing where it is a class mapping.  Nothing else adds anything. -/
theorem collect_accounts :
    (∀ k u t m a, (Site.onMethod u t m a).assemble symbols config k =
        .ok ((Site.onMethod u t m a).routes symbols config k) ∧
      (Site.onMethod u t m a).routes symbols config k ≠ []) ∧
    (collect index symbols config).routes =
      (config.kinds.flatMap fun k => index.units.flatMap fun u => u.types.flatMap fun t =>
        t.methods.flatMap fun m =>
          (m.annotations.filter (·.qualifiedName == k.qualifiedName)).flatMap fun a =>
            (Site.onMethod u t m a).routes symbols config k) ∧
    (collect index symbols config).issues =
      (config.kinds.filter (·.qualifiedName != config.classMapping)).flatMap fun k =>
        index.units.flatMap fun u => u.types.flatMap fun t =>
          (t.annotations.filter (·.qualifiedName == k.qualifiedName)).map t.misplaced := by
  refine ⟨?_, routes_collect index symbols config, issues_collect index symbols config⟩
  intro k u t m a
  have hm : (Site.onMethod u t m a).method = some m := rfl
  exact ⟨Site.assemble_eq_ok_routes k hm, Site.routes_ne_nil k hm⟩

end Report

end RouteAtlas
