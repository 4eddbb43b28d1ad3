import Mathlib
import RouteAtlas.Proofs.Assembly.Combinations
import RouteAtlas.Proofs.Path.Variables

/-!
# RouteAtlas.Proofs.Assembly.Typing — the variables of routes and their types

A variable of a route may stand in the class path, in the method path or in both, and a parameter
may bind it by the marker or by its own name.  The main statement gives the variables of each route
of a site in order, each with the type of the last parameter that binds it.
-/

namespace RouteAtlas

/-! ## The last parameter decides -/

/-- The parameter binds the variable by the marker. -/
def Parameter.binds (tree : SyntaxTree) (marker name : String) (p : Parameter) : Bool :=
  (p.annotation? marker).any fun a => p.exposedName tree a == name

/-- The last of the parameters that bind the variable. -/
def lastBinding? (tree : SyntaxTree) (marker name : String) (parameters : List Parameter) :
    Option Parameter :=
  (parameters.filter (·.binds tree marker name)).getLast?

section Bind

variable (tree : SyntaxTree) (marker : String) (parameters : List Parameter) (p : Parameter)

theorem bind_concat_of_unmarked (h : p.annotation? marker = none) :
    bind tree marker (parameters ++ [p]) = bind tree marker parameters := by
  have hbound : p.bound? tree marker = none := by rw [Parameter.bound?, h]; rfl
  rw [bind, bind, List.filterMap_append, List.filterMap_cons_none hbound, List.filterMap_nil,
    List.append_nil]

theorem bind_concat_of_marked {a : Annotation} (h : p.annotation? marker = some a) :
    bind tree marker (parameters ++ [p]) =
      (bind tree marker parameters).insert (p.exposedName tree a) p.typeName := by
  have hbound : p.bound? tree marker = some (p.exposedName tree a, p.typeName) := by
    rw [Parameter.bound?, h]
    rfl
  rw [bind, bind, List.filterMap_append, List.filterMap_cons_some hbound, List.filterMap_nil]
  exact List.foldl_concat _ _ _ _

theorem lastBinding?_concat (name : String) :
    lastBinding? tree marker name (parameters ++ [p]) =
      if p.binds tree marker name then some p else lastBinding? tree marker name parameters := by
  rw [lastBinding?, List.filter_append, List.getLast?_append]
  cases h : p.binds tree marker name with
  | true =>
    rw [List.filter_cons_of_pos h]
    rfl
  | false =>
    rw [List.filter_cons_of_neg (by simp [h])]
    rfl

/-- A variable is bound to the type of the last parameter that binds it. -/
theorem get?_bind (name : String) :
    (bind tree marker parameters).get? name =
      (lastBinding? tree marker name parameters).map (·.typeName) := by
  induction parameters using List.reverseRecOn with
  | nil => rfl
  | append_singleton parameters p ih =>
    rw [lastBinding?_concat, Parameter.binds]
    cases h : p.annotation? marker with
    | none =>
      rw [bind_concat_of_unmarked tree marker parameters p h]
      exact ih
    | some a =>
      rw [bind_concat_of_marked tree marker parameters p h, Dictionary.get?_insert, ih]
      by_cases hname : p.exposedName tree a = name
      · simp [hname]
      · simp [hname]

end Bind

namespace Site

/-! ## The variables of a route -/

variable {tree : SyntaxTree} {config : ScanConfig} {s : Site}

theorem exists_of_mem_combinations {verb : String} {classPaths methodPaths : List PathFragment}
    {params : List String} {r : Route}
    (h : r ∈ s.combinations verb classPaths methodPaths params) :
    ∃ cls method param, classPaths[r.origin.classIndex]? = some cls ∧
      methodPaths[r.origin.methodIndex]? = some method ∧
      r = s.combination verb cls method param r.origin := by
  rw [combinations_eq_flatMap] at h
  obtain ⟨⟨cls, i⟩, hcls, h⟩ := List.mem_flatMap.1 h
  obtain ⟨⟨method, j⟩, hmethod, h⟩ := List.mem_flatMap.1 h
  obtain ⟨⟨param, l⟩, -, rfl⟩ := List.mem_map.1 h
  exact ⟨cls, method, param, List.mem_zipIdx_iff_getElem?.1 hcls,
    List.mem_zipIdx_iff_getElem?.1 hmethod, rfl⟩

/-- Each class path and each method path make a route. -/
theorem exists_mem_combinations {verb : String} {classPaths methodPaths : List PathFragment}
    {params : List String} (hparams : params ≠ []) {i j : Nat} (hi : i < classPaths.length)
    (hj : j < methodPaths.length) :
    ∃ r ∈ s.combinations verb classPaths methodPaths params,
      r.origin.classIndex = i ∧ r.origin.methodIndex = j := by
  obtain ⟨param, rest, rfl⟩ := List.exists_cons_of_ne_nil hparams
  have hparam : (param :: rest)[0]? = some param := rfl
  have hroute := s.getElem?_combinations verb classPaths methodPaths (param :: rest)
    (List.getElem?_eq_getElem hi) (List.getElem?_eq_getElem hj) hparam
  exact ⟨_, List.mem_of_getElem? hroute, rfl, rfl⟩

section Fragments

variable (m : Method) (text : String)

theorem names_fragment :
    (fragment tree config m text).names = (PathFragment.ofText text).names :=
  PathFragment.names_withTypes _ _

theorem nodup_names_fragment : (fragment tree config m text).names.Nodup := by
  rw [names_fragment]
  exact PathFragment.nodup_names_ofText text

variable {m text}

theorem typeName_of_mem_fragment {v : PathVariable}
    (h : v ∈ (fragment tree config m text).vars) :
    v.typeName =
      (lastBinding? tree config.pathVariable v.name m.parameters).map (·.typeName) := by
  rw [PathFragment.typeName_of_mem_vars h, binding, get?_bind]

end Fragments

/-- **The variables of a route** are those of its class path, then those that only its method path
has, each once and in the order of first appearance; wherever a variable stands, its type is the one
of the last parameter that binds it, and it has none where no parameter does. -/
theorem vars_of_assemble (tree : SyntaxTree) (config : ScanConfig) (k : MappingKind) (s : Site)
    {m : Method} (hm : s.method = some m) :
    let cs := s.classTexts tree config
    let ms := s.subject.pathTexts tree
    ∃ routes, s.assemble tree config k = .ok routes ∧
      (∀ i j, i < cs.length → j < ms.length →
        ∃ r ∈ routes, r.origin.classIndex = i ∧ r.origin.methodIndex = j) ∧
      ∀ r ∈ routes, ∃ classText methodText,
        cs[r.origin.classIndex]? = some classText ∧
        ms[r.origin.methodIndex]? = some methodText ∧
        (let inClass := (PathFragment.ofText classText).names
         let inMethod := (PathFragment.ofText methodText).names
         r.vars.map (·.name) = inClass ++ inMethod.filter (· ∉ inClass)) ∧
        (r.vars.map (·.name)).Nodup ∧
        ∀ v ∈ r.vars, v.typeName =
          (lastBinding? tree config.pathVariable v.name m.parameters).map (·.typeName) := by
  intro cs ms
  refine ⟨_, assemble_of_method k hm, fun i j hi hj => ?_, fun r hr => ?_⟩
  · exact exists_mem_combinations (s.subject.paramTexts_ne_nil tree)
      (by rw [List.length_map]; exact hi) (by rw [List.length_map]; exact hj)
  · obtain ⟨cls, method, param, hcls, hmethod, hroute⟩ := exists_of_mem_combinations hr
    rw [List.getElem?_map] at hcls hmethod
    obtain ⟨classText, hclassText, rfl⟩ := Option.map_eq_some_iff.1 hcls
    obtain ⟨methodText, hmethodText, rfl⟩ := Option.map_eq_some_iff.1 hmethod
    have hvars : r.vars =
        ((fragment tree config m classText).join (fragment tree config m methodText)).vars := by
      rw [hroute]
      rfl
    have hnames : r.vars.map (·.name) =
        ((fragment tree config m classText).join (fragment tree config m methodText)).names :=
      congrArg (List.map (·.name)) hvars
    refine ⟨classText, methodText, hclassText, hmethodText, ?_, ?_, fun v hv => ?_⟩
    · rw [hnames, PathFragment.names_join (nodup_names_fragment m methodText), names_fragment,
        names_fragment]
    · rw [hnames]
      exact PathFragment.nodup_names_join (nodup_names_fragment m classText)
        (nodup_names_fragment m methodText)
    · rw [hvars] at hv
      -- the same binding types both paths, so it does not matter which of them `v` comes from
      rcases PathFragment.mem_vars_join hv with hv | hv
      · exact typeName_of_mem_fragment hv
      · exact typeName_of_mem_fragment hv

/-- A method with the parameters `Long id` and `String other`; both bind the variable `id`. -/
def rebindingMethod : Method where
  name := "show"
  parameters :=
    [{ name := "id", typeName := "Long"
       annotations := [{ qualifiedName := ({} : ScanConfig).pathVariable }] },
      { name := "other", typeName := "String"
        annotations :=
          [{ qualifiedName := ({} : ScanConfig).pathVariable
             attributes := Dictionary.empty.insert "value" (.string "id") }] }]

/-- The method mapped to `/users/{id}/{slug}` in a type mapped to `/orgs/{id}/{org}`. -/
def rebindingSite : Site where
  subject :=
    { qualifiedName := MappingKind.get.qualifiedName
      attributes := Dictionary.empty.insert "path" (.string "/users/\x7bid\x7d/\x7bslug\x7d") }
  method := some rebindingMethod
  owner := some {
    qualifiedName := "Shop"
    annotations :=
      [{ qualifiedName := MappingKind.request.qualifiedName
         attributes :=
          Dictionary.empty.insert "path" (.string "/orgs/\x7bid\x7d/\x7borg\x7d") }] }

/-- `id` stands in both paths and keeps its place in the class path; the later one of the parameters
that bind it gives the type. -/
theorem vars_of_assemble_rebound :
    rebindingSite.method = some rebindingMethod ∧
      ∃ routes, rebindingSite.assemble {} {} .get = .ok routes ∧ routes ≠ [] ∧
        ∀ r ∈ routes, r.vars.map (·.name) = ["id", "org", "slug"] ∧
          r.vars.map (·.typeName) = [some "String", none, none] := by
  have hcs : rebindingSite.classTexts {} {} = ["/orgs/\x7bid\x7d/\x7borg\x7d"] := by
    have hread : rebindingSite.classTexts {} {} =
        [(Expr.string "/orgs/\x7bid\x7d/\x7borg\x7d").entryText {}] := rfl
    rw [hread, Expr.entryText_string {} (by decide)]
  have hms : rebindingSite.subject.pathTexts {} = ["/users/\x7bid\x7d/\x7bslug\x7d"] := by
    have hread : rebindingSite.subject.pathTexts {} =
        [(Expr.string "/users/\x7bid\x7d/\x7bslug\x7d").entryText {}] := rfl
    rw [hread, Expr.entryText_string {} (by decide)]
  have hinClass :
      (PathFragment.ofText "/orgs/\x7bid\x7d/\x7borg\x7d").names = ["id", "org"] := by cbv
  have hinMethod :
      (PathFragment.ofText "/users/\x7bid\x7d/\x7bslug\x7d").names = ["id", "slug"] := by cbv
  obtain ⟨routes, hok, hall, hvars⟩ :=
    vars_of_assemble {} {} .get rebindingSite (m := rebindingMethod) rfl
  refine ⟨rfl, routes, hok, ?_, fun r hr => ?_⟩
  · obtain ⟨r, hr, -⟩ := hall 0 0 (by rw [hcs]; decide) (by rw [hms]; decide)
    exact List.ne_nil_of_mem hr
  · obtain ⟨classText, methodText, hcls, hmethod, hnames, -, htypes⟩ := hvars r hr
    rw [hcs] at hcls
    rw [hms] at hmethod
    rw [List.mem_singleton.1 (List.mem_of_getElem? hcls),
      List.mem_singleton.1 (List.mem_of_getElem? hmethod), hinClass, hinMethod] at hnames
    refine ⟨hnames, ?_⟩
    have hlast : r.vars.map (·.typeName) = (r.vars.map (·.name)).map fun name =>
        (lastBinding? {} ({} : ScanConfig).pathVariable name rebindingMethod.parameters).map
          (·.typeName) := by
      rw [List.map_map]
      exact List.map_congr_left htypes
    rw [hlast, hnames]
    cbv

end Site

end RouteAtlas
