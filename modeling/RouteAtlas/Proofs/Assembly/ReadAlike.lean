import RouteAtlas.Proofs.Assembly.Combinations
import RouteAtlas.Proofs.Folding.Mentions
import RouteAtlas.Proofs.Tree.Correspondence

/-!
# RouteAtlas.Proofs.Assembly.ReadAlike — declarations that give the same routes

Two declarations are read alike, each with names looked up in a tree of its own, when all that the
routes are made of is the same.  `Site.ReadAlike.assemble_eq` states that sites that are read alike
have the same routes.  A declaration is read alike in two trees that fold what is written in it
alike.
-/

namespace RouteAtlas

/-! ## Declarations that are read alike -/

/-- The variable that an attribute of a marker names. -/
def Annotation.namedVariable? (tree : SyntaxTree) (a : Annotation) (name : String) :
    Option String :=
  (a.attribute? name).bind (·.variableName? tree)

/-- The attributes of the annotations give the same texts and the same variables. -/
structure Annotation.ReadAlike (tree tree' : SyntaxTree) (a a' : Annotation) : Prop where
  qualifiedName : a.qualifiedName = a'.qualifiedName
  read : ∀ name, a.read tree name = a'.read tree' name
  namedVariable? : ∀ name, a.namedVariable? tree name = a'.namedVariable? tree' name

/-- The parameters bind the same variable to the same type. -/
structure Parameter.ReadAlike (tree tree' : SyntaxTree) (p p' : Parameter) : Prop where
  name : p.name = p'.name
  typeName : p.typeName = p'.typeName
  annotations : List.Forall₂ (·.ReadAlike tree tree' ·) p.annotations p'.annotations

/-- The methods have the same name, and what stands on them is read alike. -/
structure Method.ReadAlike (tree tree' : SyntaxTree) (m m' : Method) : Prop where
  name : m.name = m'.name
  parameters : List.Forall₂ (·.ReadAlike tree tree' ·) m.parameters m'.parameters
  annotations : List.Forall₂ (·.ReadAlike tree tree' ·) m.annotations m'.annotations

/-- The types have the same name, and their class mappings and methods are read alike. -/
structure TypeDecl.ReadAlike (config : ScanConfig) (tree tree' : SyntaxTree) (t t' : TypeDecl) :
    Prop where
  qualifiedName : t.qualifiedName = t'.qualifiedName
  classMappings : List.Forall₂ (·.ReadAlike tree tree' ·) (classMappings config (some t))
    (classMappings config (some t'))
  methods : List.Forall₂ (·.ReadAlike tree tree' ·) t.methods t'.methods

/-- The annotations and the declarations around them are read alike, in the same file. -/
structure Site.ReadAlike (config : ScanConfig) (tree tree' : SyntaxTree) (s s' : Site) :
    Prop where
  subject : s.subject.ReadAlike tree tree' s'.subject
  method : Option.Rel (·.ReadAlike tree tree' ·) s.method s'.method
  owner : Option.Rel (·.ReadAlike config tree tree' ·) s.owner s'.owner
  file : s.file = s'.file

section Congruence

variable {config : ScanConfig} {tree tree' : SyntaxTree}

/-! ## What is made of them -/

theorem Annotation.ReadAlike.pathTexts_eq {a a' : Annotation} (h : a.ReadAlike tree tree' a') :
    a.pathTexts tree = a'.pathTexts tree' := by
  rw [pathTexts, pathTexts, h.read, h.read]

theorem Annotation.ReadAlike.paramTexts_eq {a a' : Annotation} (h : a.ReadAlike tree tree' a') :
    a.paramTexts tree = a'.paramTexts tree' := by
  rw [paramTexts, paramTexts, h.read]

theorem Annotation.ReadAlike.httpMethod_eq {a a' : Annotation} (h : a.ReadAlike tree tree' a')
    (k : MappingKind) : a.httpMethod tree config k = a'.httpMethod tree' config k := by
  have hverbs : a.verbs tree = a'.verbs tree' := by
    rw [verbs, verbs, h.read]
  rw [httpMethod, httpMethod, hverbs]

theorem Parameter.exposedName_eq (tree : SyntaxTree) (p : Parameter) (marker : Annotation) :
    p.exposedName tree marker =
      (namingAttributes.findSome? (marker.namedVariable? tree)).getD p.name := by
  rw [Parameter.exposedName]
  generalize namingAttributes = names
  congr 1
  induction names with
  | nil => rfl
  | cons name names ih =>
    rw [List.filterMap_cons, List.findSome?_cons, Annotation.namedVariable?]
    cases marker.attribute? name with
    | none => exact ih
    | some e =>
      rw [List.findSome?_cons, ih]
      rfl

theorem Parameter.ReadAlike.bound?_eq {p p' : Parameter} (h : p.ReadAlike tree tree' p')
    (marker : String) : p.bound? tree marker = p'.bound? tree' marker := by
  refine map_eq_of_rel (fun a a' ha => ?_)
    (find?_rel (fun a a' ha => by rw [ha.qualifiedName]) h.annotations)
  have hnamed : a.namedVariable? tree = a'.namedVariable? tree' := funext ha.namedVariable?
  rw [Parameter.exposedName_eq, Parameter.exposedName_eq, hnamed, h.name, h.typeName]

theorem Method.ReadAlike.binding_eq {m m' : Method} (h : m.ReadAlike tree tree' m') :
    Site.binding tree config m = Site.binding tree' config m' := by
  have hbound : m.parameters.filterMap (·.bound? tree config.pathVariable) =
      m'.parameters.filterMap (·.bound? tree' config.pathVariable) :=
    filterMap_eq_of_rel (fun _ _ hp => hp.bound?_eq config.pathVariable) h.parameters
  rw [Site.binding, Site.binding, bind, bind, hbound]

theorem Method.ReadAlike.fragment_eq {m m' : Method} (h : m.ReadAlike tree tree' m') :
    Site.fragment tree config m = Site.fragment tree' config m' := by
  funext text
  rw [Site.fragment, Site.fragment, h.binding_eq]

namespace Site

theorem classTexts_eq (tree : SyntaxTree) (config : ScanConfig) (s : Site) :
    s.classTexts tree config =
      firstWritten [(classMappings config s.owner).flatMap (·.pathTexts tree), [""]] := by
  cases h : s.owner with
  | none => simp [classTexts, classMappings, h]
  | some t => simp [classTexts, classMappings, h]

variable {s s' : Site}

theorem ReadAlike.handle_eq (h : s.ReadAlike config tree tree' s') : s.handle = s'.handle := by
  have htype : s.owner.map (·.qualifiedName) = s'.owner.map (·.qualifiedName) :=
    map_eq_of_rel (fun _ _ ht => ht.qualifiedName) h.owner
  have hmethod : s.method.map (·.name) = s'.method.map (·.name) :=
    map_eq_of_rel (fun _ _ hm => hm.name) h.method
  rw [handle, handle, h.file, htype, hmethod]

theorem ReadAlike.location_eq (h : s.ReadAlike config tree tree' s') :
    s.location = s'.location := by
  obtain ⟨a, m?, t?, file⟩ := s
  obtain ⟨a', m?', t?', file'⟩ := s'
  obtain ⟨-, hmethod, howner, rfl⟩ := h
  cases howner with
  | none =>
    cases hmethod with
    | none => rfl
    | some hm => exact hm.name
  | some ht =>
    cases hmethod with
    | none => exact ht.qualifiedName
    | some hm =>
      rw [location, location]
      simp only [ht.qualifiedName, hm.name]

theorem ReadAlike.classTexts_eq (h : s.ReadAlike config tree tree' s') :
    s.classTexts tree config = s'.classTexts tree' config := by
  have hmappings : List.Forall₂ (·.ReadAlike tree tree' ·) (classMappings config s.owner)
      (classMappings config s'.owner) := by
    obtain ⟨a, m?, t?, file⟩ := s
    obtain ⟨a', m?', t?', file'⟩ := s'
    cases h.owner with
    | none => exact .nil
    | some ht => exact ht.classMappings
  have htexts := flatMap_eq_of_rel (fun _ _ ha => Annotation.ReadAlike.pathTexts_eq ha) hmappings
  rw [Site.classTexts_eq, Site.classTexts_eq, htexts]

/-- **Sites that are read alike have the same routes**, or the same fault. -/
theorem ReadAlike.assemble_eq (h : s.ReadAlike config tree tree' s') (k : MappingKind) :
    s.assemble tree config k = s'.assemble tree' config k := by
  have hmethod := h.method
  generalize hm : s.method = m? at hmethod
  generalize hm' : s'.method = m?' at hmethod
  cases hmethod with
  | none =>
    rw [assemble_of_no_method k hm, assemble_of_no_method k hm', h.subject.qualifiedName,
      h.location_eq]
  | some hread =>
    rw [assemble_of_method k hm, assemble_of_method k hm', hread.fragment_eq, h.classTexts_eq,
      h.subject.pathTexts_eq, h.subject.paramTexts_eq, h.subject.httpMethod_eq,
      combinations_congr _ _ _ _ h.handle_eq]

end Site

end Congruence

/-! ## Declarations read in two trees -/

/-- Expressions that name only the given constants stand for the same texts in both trees. -/
def SyntaxTree.FoldsAlike (tree tree' : SyntaxTree) (ids : List SymbolId) : Prop :=
  ∀ e : Expr, e.targets ⊆ ids → e.fold tree = e.fold tree'

section TwoTrees

variable {tree tree' : SyntaxTree}

theorem SyntaxTree.FoldsAlike.mono {ids ids' : List SymbolId} (h : tree.FoldsAlike tree' ids)
    (hids : ids' ⊆ ids) : tree.FoldsAlike tree' ids' :=
  fun e he => h e (List.Subset.trans he hids)

/-- What holds of the names in a list of declarations holds of those in each of them. -/
theorem SyntaxTree.FoldsAlike.of_mem {α : Type} {mentions : α → List SymbolId} {xs : List α}
    (h : tree.FoldsAlike tree' (xs.flatMap mentions)) {x : α} (hx : x ∈ xs) :
    tree.FoldsAlike tree' (mentions x) :=
  h.mono fun _ hid => List.mem_flatMap_of_mem hx hid

theorem Expr.entryText_eq_of_fold_eq {e : Expr} (h : e.fold tree = e.fold tree') :
    e.entryText tree = e.entryText tree' := by
  rw [entryText, entryText, h]

theorem Expr.variableName?_eq_of_fold_eq {e : Expr} (h : e.fold tree = e.fold tree') :
    e.variableName? tree = e.variableName? tree' := by
  cases e with
  | literal | reference => rw [variableName?, variableName?, h]
  | concat | polyadic | array | other => rfl

theorem Annotation.readAlike_self {a : Annotation} (h : tree.FoldsAlike tree' a.mentions) :
    a.ReadAlike tree tree' a := by
  have hfold : ∀ {e : Expr}, e.mentions ⊆ a.mentions → e.fold tree = e.fold tree' := by
    intro e he
    exact h e (List.Subset.trans e.targets_subset_mentions he)
  refine ⟨rfl, fun name => List.map_congr_left fun e he => ?_, fun name => ?_⟩
  · exact Expr.entryText_eq_of_fold_eq (hfold (mentions_of_mem_entries he))
  · rw [namedVariable?, namedVariable?]
    cases ha : a.attribute? name with
    | none => rfl
    | some e => exact Expr.variableName?_eq_of_fold_eq (hfold (mentions_of_attribute? ha))

theorem Parameter.readAlike_self {p : Parameter} (h : tree.FoldsAlike tree' p.mentions) :
    p.ReadAlike tree tree' p :=
  ⟨rfl, rfl, List.forall₂_same.2 fun _ ha => Annotation.readAlike_self (h.of_mem ha)⟩

theorem Method.readAlike_self {m : Method} (h : tree.FoldsAlike tree' m.mentions) :
    m.ReadAlike tree tree' m := by
  have hannotations := h.mono (List.subset_append_left _ _)
  have hparameters := h.mono (List.subset_append_right _ _)
  refine ⟨rfl, List.forall₂_same.2 fun p hp => ?_, List.forall₂_same.2 fun a ha => ?_⟩
  · exact Parameter.readAlike_self (hparameters.of_mem hp)
  · exact Annotation.readAlike_self (hannotations.of_mem ha)

theorem TypeDecl.readAlike_self {config : ScanConfig} {t : TypeDecl}
    (h : tree.FoldsAlike tree' t.mentions) : t.ReadAlike config tree tree' t := by
  have hmembers := h.mono (List.subset_append_left _ _)
  have hannotations := hmembers.mono (List.subset_append_left _ _)
  have hmethods := hmembers.mono (List.subset_append_right _ _)
  refine ⟨rfl, List.forall₂_same.2 fun a ha => ?_, List.forall₂_same.2 fun m hm => ?_⟩
  · exact Annotation.readAlike_self (hannotations.of_mem (List.mem_filter.1 ha).1)
  · exact Method.readAlike_self (hmethods.of_mem hm)

end TwoTrees

end RouteAtlas
