import RouteAtlas.Listing
import RouteAtlas.Proofs.Scan.ByType

/-!
# RouteAtlas.Proofs.Scan.Sources — handles lead back to declarations

A handle keeps only the names of the declarations around a site.  Where no two types have the same
qualified name, that is enough to find them again: the type, the module and the file that it is
declared with, and the annotated method.  The main statement follows the handles through a scan to
the lines of its routes.
-/

namespace RouteAtlas

/-! ## Sites and the declarations around them -/

/-- The site of an annotation is on a type of a unit, or on a method of that type. -/
structure Site.StandsOn (tree : SyntaxTree) (qualifiedName : String) (s : Site) (u : SourceUnit)
    (t : TypeDecl) : Prop where
  unit_mem : u ∈ tree.units
  type_mem : t ∈ u.types
  owner : s.owner = some t
  file : s.file = u.file
  subject : s.subject.qualifiedName = qualifiedName
  method : ∀ m, s.method = some m → m ∈ t.methods ∧ s.subject ∈ m.annotations

section Sites

variable {tree : SyntaxTree} {qualifiedName : String} {s : Site} {u : SourceUnit} {t : TypeDecl}

theorem SyntaxTree.exists_standsOn (h : s ∈ tree.occurrences qualifiedName) :
    ∃ u t, s.StandsOn tree qualifiedName u t := by
  obtain ⟨u, hu, h⟩ := List.mem_flatMap.1 h
  obtain ⟨t, ht, h⟩ := List.mem_flatMap.1 h
  refine ⟨u, t, ?_⟩
  rcases List.mem_append.1 h with h | h
  · obtain ⟨a, ha, rfl⟩ := List.mem_map.1 h
    obtain ⟨-, hname⟩ := List.mem_filter.1 ha
    exact ⟨hu, ht, rfl, rfl, by simpa using hname, nofun⟩
  · obtain ⟨m, hm, h⟩ := List.mem_flatMap.1 h
    obtain ⟨a, ha, rfl⟩ := List.mem_map.1 h
    obtain ⟨hmem, hname⟩ := List.mem_filter.1 ha
    refine ⟨hu, ht, rfl, rfl, by simpa using hname, ?_⟩
    rintro _ ⟨⟩
    exact ⟨hm, hmem⟩

/-- Where the names of types are distinct, a type is declared in one file. -/
theorem SyntaxTree.file_eq_of_mem (hnames : (tree.types.map (·.qualifiedName)).Nodup)
    {u' : SourceUnit} (hu : u ∈ tree.units) (hu' : u' ∈ tree.units) (ht : t ∈ u.types)
    (ht' : t ∈ u'.types) : u.file = u'.file := by
  have hfiled : ∀ {v : SourceUnit}, v ∈ tree.units → t ∈ v.types → (v.file, t) ∈ tree.filedTypes :=
    fun hv ht => List.mem_flatMap.2 ⟨_, hv, List.mem_map.2 ⟨t, ht, rfl⟩⟩
  -- a type with its file is known by the type's name alone
  have hkeys : (tree.filedTypes.map (·.2.qualifiedName)).Nodup := by
    rw [← tree.map_filedTypes, List.map_map] at hnames
    exact hnames
  exact congrArg Prod.fst (List.inj_on_of_nodup_map hkeys (hfiled hu ht) (hfiled hu' ht') rfl)

namespace Site.StandsOn

/-- The name in the handle means the type that the site is on. -/
theorem type?_handle (h : s.StandsOn tree qualifiedName u t)
    (hnames : (tree.types.map (·.qualifiedName)).Nodup) :
    s.handle.typeName.bind tree.type? = some t := by
  rw [handle, h.owner]
  exact (find?_eq_some_iff_of_nodup hnames).2 ⟨List.mem_flatMap_of_mem h.unit_mem h.type_mem, rfl⟩

theorem moduleOf_handle (h : s.StandsOn tree qualifiedName u t)
    (hnames : (tree.types.map (·.qualifiedName)).Nodup) :
    tree.moduleOf s.handle = t.module := by
  have htype := h.type?_handle hnames
  rw [SyntaxTree.moduleOf, ← Option.bind_assoc, htype]
  rfl

/-- The file of the handle is that of every unit that declares the type. -/
theorem file_handle (h : s.StandsOn tree qualifiedName u t)
    (hnames : (tree.types.map (·.qualifiedName)).Nodup) {u' : SourceUnit} (hu' : u' ∈ tree.units)
    (ht' : t ∈ u'.types) : s.handle.file = u'.file :=
  h.file.trans (SyntaxTree.file_eq_of_mem hnames h.unit_mem hu' h.type_mem ht')

/-- A method that the handle names is one of the type, and it has the annotation. -/
theorem exists_of_methodName (h : s.StandsOn tree qualifiedName u t) {name : String}
    (hname : s.handle.methodName = some name) :
    ∃ m ∈ t.methods, s.method = some m ∧ m.name = name ∧ s.subject ∈ m.annotations ∧
      s.subject.qualifiedName = qualifiedName := by
  obtain ⟨m, hm, hname⟩ := Option.map_eq_some_iff.1 hname
  obtain ⟨hmem, hsubject⟩ := h.method m hm
  exact ⟨m, hmem, hm, hname, hsubject, h.subject⟩

end Site.StandsOn

end Sites

/-! ## Routes and their lines -/

section Lines

variable {index symbols : SyntaxTree} {config : ScanConfig} {r : Route}

/-- A route of a scan is one of those that a site gives. -/
theorem exists_site_of_mem_routes (h : r ∈ (collect index symbols config).routes) :
    ∃ k ∈ config.kinds, ∃ s ∈ index.occurrences k.qualifiedName, ∃ rs,
      s.assemble symbols config k = .ok rs ∧ r ∈ rs := by
  rw [routes_collect_sites] at h
  obtain ⟨k, hk, h⟩ := List.mem_flatMap.1 h
  obtain ⟨s, hs, h⟩ := List.mem_flatMap.1 h
  refine ⟨k, hk, s, hs, ?_⟩
  unfold Site.routes at h
  split at h
  next rs hrs => exact ⟨rs, hrs, h⟩
  next => cases h

/-- A site that gives routes has a method, and its routes keep its handle. -/
theorem Site.source_of_mem_assemble {s : Site} {k : MappingKind} {rs : List Route}
    (h : s.assemble symbols config k = .ok rs) (hr : r ∈ rs) :
    (∃ m, s.method = some m) ∧ r.source = s.handle := by
  have hroutes : s.routes symbols config k = rs := by rw [routes, h]
  refine ⟨?_, source_of_mem_routes k (hroutes ▸ hr)⟩
  cases hm : s.method with
  | none =>
    rw [assemble_of_no_method k hm] at h
    cases h
  | some m => exact ⟨m, rfl⟩

variable {moduleOf : SourceHandle → Option String} {s : Site} {t : TypeDecl} {m : Method}

/-- The place of a route from a method of a type. -/
theorem Route.location_eq (hsource : r.source = s.handle) (howner : s.owner = some t)
    (hmethod : s.method = some m) :
    r.location moduleOf = t.simpleName ++ "." ++ m.name ++ r.moduleSuffix moduleOf := by
  rw [location, hsource, Site.handle, howner, hmethod]
  rfl

/-- The line of a route from a method of a type. -/
theorem Route.line_eq (hsource : r.source = s.handle) (howner : s.owner = some t)
    (hmethod : s.method = some m) :
    r.line moduleOf =
      r.label ++ "\t" ++ (t.simpleName ++ "." ++ m.name ++ r.moduleSuffix moduleOf) := by
  rw [line, Route.location_eq hsource howner hmethod]

theorem Route.moduleSuffix_of_some {label : String}
    (h : (moduleOf r.source).bind moduleLabel? = some label) :
    r.moduleSuffix moduleOf = " (" ++ label ++ ")" := by
  rw [moduleSuffix, h]

theorem Route.moduleSuffix_of_none (h : (moduleOf r.source).bind moduleLabel? = none) :
    r.moduleSuffix moduleOf = "" := by
  rw [moduleSuffix, h]

end Lines

/-- **Handles lead back to declarations**, where no two types have the same qualified name.  The
name of the type in the handle of a site means the type that the site is on; its module is that of
the type, its file that of the unit that declares the type, and the method that it names is one of
the type and has the annotation.  So the line of each route is its label, a tab, the simple name of
the type, a dot and the name of the method, and then the label of the type's module where there is
one. -/
theorem handles_lead_back {tree : SyntaxTree}
    (hnames : (tree.types.map (·.qualifiedName)).Nodup) :
    (∀ qualifiedName, ∀ s ∈ tree.occurrences qualifiedName, ∃ t, s.owner = some t ∧
      s.handle.typeName.bind tree.type? = some t ∧ tree.moduleOf s.handle = t.module ∧
      (∃ u ∈ tree.units, t ∈ u.types) ∧
      (∀ u ∈ tree.units, t ∈ u.types → s.handle.file = u.file) ∧
      ∀ name, s.handle.methodName = some name → ∃ m ∈ t.methods, s.method = some m ∧
        m.name = name ∧ s.subject ∈ m.annotations ∧ s.subject.qualifiedName = qualifiedName) ∧
    ∀ config, List.Forall₂
      (fun r line => ∃ k ∈ config.kinds, ∃ s ∈ tree.occurrences k.qualifiedName,
        (∃ rs, s.assemble tree config k = .ok rs ∧ r ∈ rs) ∧ r.source = s.handle ∧
        ∃ t m, s.owner = some t ∧ s.method = some m ∧
          (∀ label, t.module.bind moduleLabel? = some label → line =
            r.label ++ "\t" ++ (t.simpleName ++ "." ++ m.name ++ (" (" ++ label ++ ")"))) ∧
          (t.module.bind moduleLabel? = none →
            line = r.label ++ "\t" ++ (t.simpleName ++ "." ++ m.name)))
      (tree.scan config).routes ((tree.scan config).lines tree) := by
  constructor
  · intro qualifiedName s hs
    obtain ⟨u, t, h⟩ := SyntaxTree.exists_standsOn hs
    exact ⟨t, h.owner, h.type?_handle hnames, h.moduleOf_handle hnames,
      ⟨u, h.unit_mem, h.type_mem⟩, fun _ hu' ht' => h.file_handle hnames hu' ht',
      fun _ hname => h.exists_of_methodName hname⟩
  · intro config
    rw [ScanReport.lines, List.forall₂_map_right_iff, List.forall₂_same]
    intro r hr
    obtain ⟨k, hk, s, hs, rs, hrs, hrmem⟩ := exists_site_of_mem_routes hr
    obtain ⟨u, t, h⟩ := SyntaxTree.exists_standsOn hs
    obtain ⟨⟨m, hm⟩, hsource⟩ := Site.source_of_mem_assemble hrs hrmem
    have hmodule : tree.moduleOf r.source = t.module := by
      rw [hsource, h.moduleOf_handle hnames]
    refine ⟨k, hk, s, hs, ⟨rs, hrs, hrmem⟩, hsource, t, m, h.owner, hm, fun label hlabel => ?_,
      fun hnone => ?_⟩
    · rw [Route.line_eq hsource h.owner hm, Route.moduleSuffix_of_some (by rw [hmodule, hlabel])]
    · rw [Route.line_eq hsource h.owner hm, Route.moduleSuffix_of_none (by rw [hmodule, hnone]),
        String.append_empty]

/-- An annotation without attributes. -/
def bareGet : Annotation where
  qualifiedName := MappingKind.get.qualifiedName

/-- A type in a module, with an annotation on itself and one on its method. -/
def usersType : TypeDecl where
  qualifiedName := "shop.api.Users"
  annotations := [bareGet]
  methods := [{ name := "list", annotations := [bareGet] }]
  module := some "shop.users.main"

/-- A type of a simple name and without a module. -/
def adminType : TypeDecl where
  qualifiedName := "Admin"
  methods := [{ name := "find", annotations := [bareGet] }]

/-- Two units, one of them without a file. -/
def usersTree : SyntaxTree :=
  ⟨[{ file := some "api/Users.kt", types := [usersType] }, { types := [adminType] }]⟩

theorem handles_lead_back_users :
    let s : Site :=
      { subject := bareGet, method := some { name := "list", annotations := [bareGet] },
        owner := some usersType, file := some "api/Users.kt" }
    (usersTree.types.map (·.qualifiedName)).Nodup ∧
      s ∈ usersTree.occurrences MappingKind.get.qualifiedName ∧
      s.handle.typeName.bind usersTree.type? = some usersType ∧
      usersTree.moduleOf s.handle = some "shop.users.main" ∧
      (usersTree.scan {}).lines usersTree =
        ["GET \tUsers.list (USERS)", "GET \tAdmin.find"] := by
  intro s
  have hnames : (usersTree.types.map (·.qualifiedName)).Nodup := by decide
  have hs : s ∈ usersTree.occurrences MappingKind.get.qualifiedName :=
    List.mem_cons_of_mem _ List.mem_cons_self
  obtain ⟨hsites, -⟩ := handles_lead_back hnames
  obtain ⟨t, howner, htype, hmodule, -, -, -⟩ := hsites _ s hs
  cases howner
  refine ⟨hnames, hs, htype, hmodule, ?_⟩
  decide

end RouteAtlas
