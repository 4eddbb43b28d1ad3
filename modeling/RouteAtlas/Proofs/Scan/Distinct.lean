import Mathlib
import RouteAtlas.Proofs.Scan.ByType

/-!
# RouteAtlas.Proofs.Scan.Distinct — routes are told apart by where they come from

The routes of one annotation differ in their origins, those of different annotations in their
sources, where the names in the tree tell its declarations apart.  The main statement puts the two
together: no two routes of a scan have the same source and the same origin.
-/

namespace RouteAtlas

/-- Where a route comes from. -/
def Route.key (r : Route) : SourceHandle × RouteOrigin := (r.source, r.origin)

/-- Pieces whose keys are distinct make a list whose keys are distinct, where the tag of a piece can
be told from the keys in it and the tags are distinct. -/
theorem nodup_map_flatMap {α β γ δ : Type} {xs : List α} {f : α → List β} {key : β → γ}
    (tag : α → δ) (htags : (xs.map tag).Nodup) (hpieces : ∀ x ∈ xs, ((f x).map key).Nodup)
    (htold : ∀ x ∈ xs, ∀ x' ∈ xs, ∀ y ∈ f x, ∀ y' ∈ f x', key y = key y' → tag x = tag x') :
    ((xs.flatMap f).map key).Nodup := by
  rw [List.map_flatMap, List.nodup_flatMap]
  refine ⟨hpieces, (List.pairwise_map.1 htags).imp_of_mem fun {x x'} hx hx' hne => ?_⟩
  intro z hz hz'
  obtain ⟨y, hy, rfl⟩ := List.mem_map.1 hz
  obtain ⟨y', hy', heq⟩ := List.mem_map.1 hz'
  exact hne (htold x hx x' hx' y hy y' hy' heq.symm)

theorem Route.origin_eq_of_key_eq {r r' : Route} (h : r.key = r'.key) : r.origin = r'.origin :=
  congrArg Prod.snd h

theorem Route.source_eq_of_key_eq {r r' : Route} (h : r.key = r'.key) : r.source = r'.source :=
  congrArg Prod.fst h

/-! ## The routes of one annotation -/

namespace Site

variable (s : Site) (verb : String) (classPaths methodPaths : List PathFragment)
  (params : List String)

theorem methodIndex_of_mem {cls method : PathFragment × Nat} {r : Route}
    (h : r ∈ s.combinationsAt verb params cls method) : r.origin.methodIndex = method.2 := by
  obtain ⟨param, -, rfl⟩ := List.mem_map.1 h
  rfl

theorem classIndex_of_mem {cls : PathFragment × Nat} {r : Route}
    (h : r ∈ s.combinationsOf verb methodPaths params cls) : r.origin.classIndex = cls.2 := by
  obtain ⟨method, -, h⟩ := List.mem_flatMap.1 h
  obtain ⟨param, -, rfl⟩ := List.mem_map.1 h
  rfl

theorem nodup_keys_combinationsAt (cls method : PathFragment × Nat) :
    ((s.combinationsAt verb params cls method).map (·.key)).Nodup := by
  -- the place of the label tells them apart
  refine List.Nodup.of_map (·.2.paramIndex) ?_
  rw [combinationsAt, List.map_map, List.map_map]
  exact List.nodup_zipIdx_map_snd params

theorem nodup_keys_combinationsOf (cls : PathFragment × Nat) :
    ((s.combinationsOf verb methodPaths params cls).map (·.key)).Nodup := by
  refine nodup_map_flatMap (·.2) (List.nodup_zipIdx_map_snd methodPaths)
    (fun method _ => s.nodup_keys_combinationsAt verb params cls method) ?_
  intro method _ method' _ r hr r' hr' hkey
  rw [← s.methodIndex_of_mem verb params hr, ← s.methodIndex_of_mem verb params hr',
    Route.origin_eq_of_key_eq hkey]

/-- The origins tell the routes of one annotation apart. -/
theorem nodup_keys_combinations :
    ((s.combinations verb classPaths methodPaths params).map (·.key)).Nodup := by
  rw [combinations_eq_flatMap]
  refine nodup_map_flatMap (·.2) (List.nodup_zipIdx_map_snd classPaths)
    (fun cls _ => s.nodup_keys_combinationsOf verb methodPaths params cls) ?_
  intro cls _ cls' _ r hr r' hr' hkey
  rw [← s.classIndex_of_mem verb methodPaths params hr,
    ← s.classIndex_of_mem verb methodPaths params hr', Route.origin_eq_of_key_eq hkey]

theorem nodup_keys_routes (symbols : SyntaxTree) (config : ScanConfig) (k : MappingKind) :
    ((s.routes symbols config k).map (·.key)).Nodup := by
  cases hm : s.method with
  | none =>
    rw [routes_of_no_method k hm]
    exact List.nodup_nil
  | some m =>
    rw [routes, assemble_of_method k hm]
    exact s.nodup_keys_combinations _ _ _ _

end Site

/-! ## Names that tell declarations apart -/

/-- The annotation is of a kind that is looked for. -/
def ScanConfig.looksFor (config : ScanConfig) (a : Annotation) : Bool :=
  config.kinds.any (·.qualifiedName == a.qualifiedName)

theorem ScanConfig.looksFor_of_eq {config : ScanConfig} {k : MappingKind} {a : Annotation}
    (hk : k ∈ config.kinds) (h : a.qualifiedName = k.qualifiedName) : config.looksFor a = true :=
  List.any_eq_true.2 ⟨k, hk, beq_iff_eq.2 h.symm⟩

/-- No kind is listed twice, the names of types and of the methods of a type tell them apart, and a
method has at most one annotation of the kinds that are looked for. -/
structure SyntaxTree.Unambiguous (tree : SyntaxTree) (config : ScanConfig) : Prop where
  kinds : config.kinds.Nodup
  types : (tree.types.map (·.qualifiedName)).Nodup
  methods : ∀ t ∈ tree.types, (t.methods.map (·.name)).Nodup
  mappings : ∀ t ∈ tree.types, ∀ m ∈ t.methods,
    (m.annotations.filter config.looksFor).length ≤ 1

theorem MappingKind.simpleName_injective : Function.Injective MappingKind.simpleName := by
  intro k k'
  cases k <;> cases k' <;> decide

theorem MappingKind.qualifiedName_injective : Function.Injective MappingKind.qualifiedName := by
  intro k k' h
  refine MappingKind.simpleName_injective ?_
  simpa [MappingKind.qualifiedName, String.append_assoc] using h

theorem eq_of_length_le_one {α : Type} {xs : List α} {x y : α} (h : xs.length ≤ 1) (hx : x ∈ xs)
    (hy : y ∈ xs) : x = y := by
  match xs, h with
  | [z], _ => rw [List.mem_singleton.1 hx, List.mem_singleton.1 hy]

namespace SyntaxTree.Unambiguous

variable {tree symbols : SyntaxTree} {config : ScanConfig}

theorem length_mappings_le_one (h : tree.Unambiguous config) {k : MappingKind}
    (hk : k ∈ config.kinds) {t : TypeDecl} (ht : t ∈ tree.types) {m : Method}
    (hm : m ∈ t.methods) :
    (m.annotations.filter (·.qualifiedName == k.qualifiedName)).length ≤ 1 := by
  have hsub : (m.annotations.filter (·.qualifiedName == k.qualifiedName)).Sublist
      (m.annotations.filter config.looksFor) := by
    refine List.monotone_filter_right _ fun a ha => ?_
    exact ScanConfig.looksFor_of_eq hk (beq_iff_eq.1 ha)
  exact Nat.le_trans hsub.length_le (h.mappings t ht m hm)

/-- The methods of a type tell its routes of one kind apart. -/
theorem nodup_keys_routes (h : tree.Unambiguous config) {k : MappingKind} (hk : k ∈ config.kinds)
    {t : TypeDecl} (ht : t ∈ tree.types) (file : Option String) :
    ((t.routes symbols config k file).map (·.key)).Nodup := by
  refine nodup_map_flatMap (·.name) (h.methods t ht) (fun m hm => ?_) ?_
  · have hle := h.length_mappings_le_one hk ht hm
    generalize m.annotations.filter (·.qualifiedName == k.qualifiedName) = mappings at hle
    match mappings, hle with
    | [], _ => exact List.nodup_nil
    | [a], _ =>
      rw [List.flatMap_singleton]
      exact Site.nodup_keys_routes _ symbols config k
  · intro m _ m' _ r hr r' hr' hkey
    obtain ⟨a, -, hr⟩ := List.mem_flatMap.1 hr
    obtain ⟨a', -, hr'⟩ := List.mem_flatMap.1 hr'
    have hsource := Route.source_eq_of_key_eq hkey
    rw [Site.source_of_mem_routes k hr, Site.source_of_mem_routes k hr'] at hsource
    exact Option.some.inj (congrArg SourceHandle.methodName hsource)

/-- The types tell all routes of one kind apart. -/
theorem nodup_keys_kind (h : tree.Unambiguous config) {k : MappingKind} (hk : k ∈ config.kinds) :
    ((tree.filedTypes.flatMap fun p => p.2.routes symbols config k p.1).map (·.key)).Nodup := by
  have hnames : (tree.filedTypes.map (·.2.qualifiedName)).Nodup := by
    have htypes := h.types
    rw [← SyntaxTree.map_filedTypes, List.map_map] at htypes
    exact htypes
  refine nodup_map_flatMap (·.2.qualifiedName) hnames (fun p hp => ?_) ?_
  · exact h.nodup_keys_routes hk (tree.mem_types_of_mem_filedTypes hp) p.1
  · intro p _ p' _ r hr r' hr' hkey
    have htype := TypeDecl.typeName_of_mem_routes hr
    rw [Route.source_eq_of_key_eq hkey, TypeDecl.typeName_of_mem_routes hr'] at htype
    exact (Option.some.inj htype).symm

/-- Routes of one source come from one annotation, so they are of one kind. -/
theorem kind_eq_of_source_eq (h : tree.Unambiguous config) {k k' : MappingKind}
    (hk : k ∈ config.kinds) (hk' : k' ∈ config.kinds) {p p' : Option String × TypeDecl}
    (hp : p ∈ tree.filedTypes) (hp' : p' ∈ tree.filedTypes) {r r' : Route}
    (hr : r ∈ p.2.routes symbols config k p.1) (hr' : r' ∈ p'.2.routes symbols config k' p'.1)
    (hsource : r.source = r'.source) : k = k' := by
  obtain ⟨m, hm, a, ha, hak, hfrom⟩ := TypeDecl.exists_of_mem_routes hr
  obtain ⟨m', hm', a', ha', hak', hfrom'⟩ := TypeDecl.exists_of_mem_routes hr'
  rw [hfrom, hfrom'] at hsource
  have ht := tree.mem_types_of_mem_filedTypes hp
  have ht' := tree.mem_types_of_mem_filedTypes hp'
  have htype : p.2 = p'.2 := by
    refine List.inj_on_of_nodup_map h.types ht ht' ?_
    exact Option.some.inj (congrArg SourceHandle.typeName hsource)
  rw [← htype] at hm'
  have hmethod : m = m' := by
    refine List.inj_on_of_nodup_map (h.methods p.2 ht) hm hm' ?_
    exact Option.some.inj (congrArg SourceHandle.methodName hsource)
  subst hmethod
  have hsame : a = a' :=
    eq_of_length_le_one (h.mappings p.2 ht m hm)
      (List.mem_filter.2 ⟨ha, ScanConfig.looksFor_of_eq hk hak⟩)
      (List.mem_filter.2 ⟨ha', ScanConfig.looksFor_of_eq hk' hak'⟩)
  refine MappingKind.qualifiedName_injective ?_
  rw [← hak, ← hak', hsame]

end SyntaxTree.Unambiguous

/-- **No two routes of a scan have the same source and the same origin**, where the names in the
tree tell its declarations apart; it does not matter which paths and labels they have. -/
theorem SyntaxTree.nodup_keys_scan {tree : SyntaxTree} {config : ScanConfig}
    (h : tree.Unambiguous config) :
    ((tree.scan config).routes.map fun r => (r.source, r.origin)).Nodup := by
  show ((collect tree tree config).routes.map (·.key)).Nodup
  rw [routes_collect_types]
  refine nodup_map_flatMap id (by simpa using h.kinds) (fun k hk => h.nodup_keys_kind hk) ?_
  intro k hk k' hk' r hr r' hr' hkey
  obtain ⟨p, hp, hr⟩ := List.mem_flatMap.1 hr
  obtain ⟨p', hp', hr'⟩ := List.mem_flatMap.1 hr'
  exact h.kind_eq_of_source_eq hk hk' hp hp' hr hr' (Route.source_eq_of_key_eq hkey)

/-- A type whose two methods are mapped to `/a`, the first of them twice. -/
def collidingTree : SyntaxTree where
  units :=
    [{ types :=
        [{ qualifiedName := "Shop"
           methods :=
            [.mappedTo "list" (.array [.string "/a", .string "/a"]),
             .mappedTo "find" (.string "/a")] }] }]

/-- All three routes have the same path and the same label; their sources and origins differ. -/
theorem nodup_keys_scan_colliding :
    collidingTree.Unambiguous {} ∧
      (collidingTree.scan {}).routes.map (·.label) = ["GET /a", "GET /a", "GET /a"] ∧
      ((collidingTree.scan {}).routes.map fun r => (r.source, r.origin)).Nodup := by
  have hnames : collidingTree.Unambiguous {} :=
    { kinds := by decide
      types := by decide
      methods := by decide
      mappings := by decide }
  refine ⟨hnames, ?_, SyntaxTree.nodup_keys_scan hnames⟩
  cbv

end RouteAtlas
