import RouteAtlas.Document.Fault
import RouteAtlas.Format.Config
import RouteAtlas.Proofs.Document.JsonForm
import RouteAtlas.Proofs.Mapping.Kind

/-!
# RouteAtlas.Proofs.Format.Config — kinds listed in settings

The texts that settings list as kinds are read one by one: each of them as the kind that it is a
spelling of, and the first that is no spelling refuses the settings (`ofDocument_of_written`).  The
main statement adds that settings are read back of the document that they are written as.
-/

namespace RouteAtlas

open Document (JsonForm readText readList)

/-- What is made of the items of a list may be made of what was read of them. -/
theorem Document.readList_bind {α β : Type} {read : Document → Except Fault α} {d : Document}
    {as : List α} (g : α → Except Fault β) (h : d.readList read = .ok as) :
    d.readList (fun d => read d >>= g) = as.mapM g := by
  unfold readList at h
  split at h
  case h_1 items closed | h_2 items closed =>
    obtain ⟨xs, hxs, hclosed⟩ := bind_eq_ok_iff.1 h
    split at hclosed
    next hend =>
      cases hclosed
      subst hend
      have hitems := mapM_bind_of_mapM g hxs
      simp only [readList, hitems]
      cases as.mapM g <;> rfl
    · cases hclosed
  case h_3 =>
    cases h
    rfl
  all_goals cases h

/-! ## Listed kinds -/

namespace MappingKind

/-- The kind that a text denotes. -/
def denoted (s : String) : Except Fault MappingKind :=
  match parse? s with
  | some k => .ok k
  | none => .error (.unknownKind s)

theorem ofDocument_eq_bind : ofDocument = fun d => readText d >>= denoted := rfl

theorem denoted_eq_ok_iff {s : String} {k : MappingKind} : denoted s = .ok k ↔ k.Spells s := by
  rw [← parse?_eq_some_iff, denoted]
  cases parse? s <;> simp

theorem denoted_eq_error_iff {s : String} {f : Fault} :
    denoted s = .error f ↔ (¬ ∃ k : MappingKind, k.Spells s) ∧ f = .unknownKind s := by
  rw [← parse?_eq_none_iff, denoted]
  cases parse? s <;> simp [eq_comm]

/-- The kinds that texts denote one by one. -/
theorem mapM_denoted_eq_ok_iff {names : List String} {kinds : List MappingKind} :
    names.mapM denoted = .ok kinds ↔ List.Forall₂ (fun s k => k.Spells s) names kinds := by
  simp only [mapM_eq_ok_iff, denoted_eq_ok_iff]

theorem exists_mapM_denoted_iff {names : List String} :
    (∃ kinds, names.mapM denoted = .ok kinds) ↔ ∀ s ∈ names, ∃ k : MappingKind, k.Spells s := by
  simp only [mapM_denoted_eq_ok_iff]
  constructor
  · rintro ⟨kinds, h⟩ s hs
    obtain ⟨k, -, hk⟩ := exists_right_of_forall₂ h hs
    exact ⟨k, hk⟩
  · exact exists_forall₂

/-- Texts are refused for the first of them that denotes no kind. -/
theorem mapM_denoted_eq_error_iff {names : List String} {f : Fault} :
    names.mapM denoted = .error f ↔
      ∃ before s after, names = before ++ s :: after ∧
        (∀ t ∈ before, ∃ k : MappingKind, k.Spells t) ∧
        (¬ ∃ k : MappingKind, k.Spells s) ∧ f = .unknownKind s := by
  simp only [mapM_eq_error_iff, denoted_eq_ok_iff, denoted_eq_error_iff]

end MappingKind

namespace ScanConfig

/-! ## Settings in a document -/

/-- The document is one of settings: it lists texts as kinds, and the other fields are texts where
they are there.  Each field is written once, in any order. -/
def WrittenIn (d : Document) (kinds : List String)
    (classMapping pathVariable wildcard : Option String) : Prop :=
  ∃ r, d.record fields = .ok r ∧ r.Holds (fun asked value => asked value)
    [("kinds", some fun value => value.readList readText = .ok kinds),
      ("class_mapping_annotation", classMapping.map fun s value => readText value = .ok s),
      ("path_variable_annotation", pathVariable.map fun s value => readText value = .ok s),
      ("wildcard_method", wildcard.map fun s value => readText value = .ok s)]

variable {d : Document} {names : List String} {classMapping pathVariable wildcard : Option String}

/-- The settings are those of the kinds that the texts denote, with the other fields as they are
written or by default. -/
theorem ofDocument_of_written (h : WrittenIn d names classMapping pathVariable wildcard) :
    ofDocument d = (names.mapM MappingKind.denoted).map fun kinds =>
      { kinds
        classMapping := classMapping.getD ({} : ScanConfig).classMapping
        pathVariable := pathVariable.getD ({} : ScanConfig).pathVariable
        wildcard := wildcard.getD ({} : ScanConfig).wildcard } := by
  obtain ⟨r, hrecord, hr⟩ := h
  have hclassMapping : r.optional "class_mapping_annotation" ({} : ScanConfig).classMapping
      readText = .pure (classMapping.getD ({} : ScanConfig).classMapping) :=
    hr.optional_getD (by simp) fun _ _ _ hread => hread
  have hpathVariable : r.optional "path_variable_annotation" ({} : ScanConfig).pathVariable
      readText = .pure (pathVariable.getD ({} : ScanConfig).pathVariable) :=
    hr.optional_getD (by simp) fun _ _ _ hread => hread
  have hwildcard : r.optional "wildcard_method" ({} : ScanConfig).wildcard readText =
      .pure (wildcard.getD ({} : ScanConfig).wildcard) :=
    hr.optional_getD (by simp) fun _ _ _ hread => hread
  have hread : ∀ value : Document, value.readList readText = .ok names →
      value.readList MappingKind.ofDocument = names.mapM MappingKind.denoted := by
    intro value hvalue
    rw [MappingKind.ofDocument_eq_bind, Document.readList_bind _ hvalue]
  unfold ofDocument
  rw [hrecord]
  -- three fields cannot fail, so the fault is that of the list if there is one
  show r.finish fields _ _ = _
  rw [hclassMapping, hpathVariable, hwildcard]
  cases hkinds : names.mapM MappingKind.denoted with
  | ok kinds =>
    have hfield : r.optional "kinds" ({} : ScanConfig).kinds (readList MappingKind.ofDocument) =
        .pure kinds :=
      hr.optional_some (by simp) fun value hvalue => (hread value hvalue).trans hkinds
    rw [hfield]
    exact hr.finish rfl _ _
  | error f =>
    obtain ⟨place, hfield⟩ : ∃ place, r.optional "kinds" ({} : ScanConfig).kinds
        (readList MappingKind.ofDocument) = .fault place f :=
      hr.optional_fault (by simp) fun value hvalue => (hread value hvalue).trans hkinds
    rw [hfield]
    exact hr.finish_fault rfl _ place f

/-! ## Settings that were written -/

theorem ofList_simpleName (kinds : List MappingKind) :
    Document.ofList (.text ·.simpleName) kinds =
      .ofList .text (kinds.map MappingKind.simpleName) := by
  simp [Document.ofList]

/-- The names of kinds are spellings of them. -/
theorem mapM_denoted_simpleName (kinds : List MappingKind) :
    (kinds.map MappingKind.simpleName).mapM MappingKind.denoted = .ok kinds := by
  rw [MappingKind.mapM_denoted_eq_ok_iff, List.forall₂_map_left_iff]
  exact List.forall₂_same.2 fun k _ => .simple (MappingKind.sameLetters_iff.2 rfl)

/-- Settings are read back of a document whose fields are read like those that were written. -/
theorem ofDocument_of_holds {config : ScanConfig} {r : Record Document}
    {R : Document → Document → Prop} (hrecord : d.record fields = .ok r)
    (hr : r.Holds R
      [("kinds", some (.ofList .text (config.kinds.map MappingKind.simpleName))),
        ("class_mapping_annotation", some (.text config.classMapping)),
        ("path_variable_annotation", some (.text config.pathVariable)),
        ("wildcard_method", some (.text config.wildcard))])
    (htext : ∀ s value, R (.text s) value → readText value = .ok s)
    (hlist : ∀ texts value, R (.ofList .text texts) value → value.readList readText = .ok texts) :
    ofDocument d = .ok config := by
  have hwritten : WrittenIn d (config.kinds.map MappingKind.simpleName) (some config.classMapping)
      (some config.pathVariable) (some config.wildcard) :=
    ⟨r, hrecord, hr.imp
      (.cons ⟨rfl, .some (hlist _)⟩ (.cons ⟨rfl, .some (htext _)⟩
        (.cons ⟨rfl, .some (htext _)⟩ (.cons ⟨rfl, .some (htext _)⟩ .nil))))⟩
  rw [ofDocument_of_written hwritten, mapM_denoted_simpleName]
  rfl

theorem mapM_readText (texts : List String) : (texts.map .text).mapM readText = .ok texts := by
  rw [mapM_eq_ok_iff, List.forall₂_map_left_iff]
  exact List.forall₂_same.2 fun _ _ => rfl

theorem ofDocument_toDocument (config : ScanConfig) :
    ofDocument config.toDocument = .ok config := by
  rw [toDocument, ofList_simpleName]
  refine ofDocument_of_holds rfl (Document.holds_ofFields (by simp)) ?_ ?_
  · rintro s _ rfl
    rfl
  · rintro texts _ rfl
    exact bind_eq_ok_iff.2 ⟨texts, mapM_readText texts, rfl⟩

theorem readsBack (config : ScanConfig) :
    Document.ReadsBack ofDocument config.toDocument config := by
  intro d hd
  rw [toDocument, ofList_simpleName] at hd
  obtain ⟨es, rfl, hes⟩ := hd.ofFields (by simp)
  refine ofDocument_of_holds rfl hes (fun s _ hs => Document.readsBack_text s hs) ?_
  intro texts value hvalue
  exact Document.readsBack_list (fun s _ => Document.readsBack_text s) hvalue

/-- What is said of an unknown kind names it as it is written. -/
theorem detail_unknownKind (s : String) :
    (Fault.unknownKind s).detail = "unknown mapping annotation kind '" ++ s ++
      "' (expected one of " ++
      "GetMapping, PostMapping, PutMapping, DeleteMapping, PatchMapping, RequestMapping" ++ ")" := by
  have hnames : ", ".intercalate (MappingKind.all.map MappingKind.simpleName) =
      "GetMapping, PostMapping, PutMapping, DeleteMapping, PatchMapping, RequestMapping" := by
    decide
  rw [← hnames]
  rfl

/-- **Kinds listed in settings.**  No text denotes two kinds.  Where settings list texts as kinds,
they are accepted just when each of the texts denotes a kind, and they then list these kinds one by
one; all other fields are as written or by default.  Otherwise they are refused for the first text
that denotes no kind, which the fault names.  Settings are read back of the document that they are
written as and of every JSON value that this is written as. -/
theorem ofDocument_eq_ok_iff_spells :
    (∀ s (k k' : MappingKind), k.Spells s → k'.Spells s → k = k') ∧
    (∀ d names classMapping pathVariable wildcard,
      WrittenIn d names classMapping pathVariable wildcard →
      ((∃ config, ofDocument d = .ok config) ↔ ∀ s ∈ names, ∃ k : MappingKind, k.Spells s) ∧
      (∀ config, ofDocument d = .ok config ↔
        List.Forall₂ (fun s k => k.Spells s) names config.kinds ∧
        config.classMapping = classMapping.getD ({} : ScanConfig).classMapping ∧
        config.pathVariable = pathVariable.getD ({} : ScanConfig).pathVariable ∧
        config.wildcard = wildcard.getD ({} : ScanConfig).wildcard) ∧
      ∀ f, ofDocument d = .error f ↔ ∃ before s after, names = before ++ s :: after ∧
        (∀ t ∈ before, ∃ k : MappingKind, k.Spells t) ∧ (¬ ∃ k : MappingKind, k.Spells s) ∧
        f = .unknownKind s) ∧
    (∀ s, (Fault.unknownKind s).detail = "unknown mapping annotation kind '" ++ s ++
      "' (expected one of " ++
      "GetMapping, PostMapping, PutMapping, DeleteMapping, PatchMapping, RequestMapping" ++ ")") ∧
    ∀ config : ScanConfig, ofDocument config.toDocument = .ok config ∧
      ∀ d, config.toDocument.JsonForm d → ofDocument d = .ok config := by
  refine ⟨fun s k k' h h' => h.kind_eq h', ?_, detail_unknownKind,
    fun config => ⟨ofDocument_toDocument config, fun d hd => readsBack config hd⟩⟩
  intro d names classMapping pathVariable wildcard h
  rw [ofDocument_of_written h]
  refine ⟨?_, fun config => ?_, fun f => ?_⟩
  · rw [← MappingKind.exists_mapM_denoted_iff]
    simp [map_eq_ok_iff]
  · rw [map_eq_ok_iff]
    simp only [MappingKind.mapM_denoted_eq_ok_iff]
    constructor
    · rintro ⟨kinds, hkinds, rfl⟩
      exact ⟨hkinds, rfl, rfl, rfl⟩
    · rintro ⟨hkinds, hclassMapping, hpathVariable, hwildcard⟩
      refine ⟨config.kinds, hkinds, ?_⟩
      rw [← hclassMapping, ← hpathVariable, ← hwildcard]
  · rw [map_eq_error_iff]
    exact MappingKind.mapM_denoted_eq_error_iff

/-- Settings that list the texts as kinds and replace the wildcard. -/
def listing (names : List String) : Document :=
  .ofFields
    [("kinds", some (.row (names.map .text) true)), ("class_mapping_annotation", none),
      ("path_variable_annotation", none), ("wildcard_method", some (.plain "ANY"))]

theorem writtenIn_listing (names : List String) :
    WrittenIn (listing names) names none none (some "ANY") := by
  have hkinds : (Document.row (names.map .text) true).readList readText = .ok names :=
    bind_eq_ok_iff.2 ⟨names, mapM_readText names, rfl⟩
  refine ⟨_, rfl, (Document.holds_ofFields (by simp)).imp ?_⟩
  refine .cons ⟨rfl, .some ?_⟩
    (.cons ⟨rfl, .none⟩ (.cons ⟨rfl, .none⟩ (.cons ⟨rfl, .some ?_⟩ .nil)))
  · rintro _ rfl
    exact hkinds
  · rintro _ rfl
    rfl

/-- Three spellings are read, one of them twice; `head` is the first text that is none. -/
theorem ofDocument_eq_ok_iff_spells_listing :
    let names := ["post", "GETmapping", "org.springframework.web.bind.annotation.PutMapping", "POST"]
    WrittenIn (listing names) names none none (some "ANY") ∧
      ofDocument (listing names) =
        .ok { kinds := [.post, .get, .put, .post], wildcard := "ANY" } ∧
      ofDocument (listing ["get", "head", "Mapping"]) = .error (.unknownKind "head") := by
  intro names
  obtain ⟨-, hlists, -, -⟩ := ofDocument_eq_ok_iff_spells
  refine ⟨writtenIn_listing names, ?_, ?_⟩
  · refine ((hlists _ names none none _ (writtenIn_listing names)).2.1 _).2 ⟨?_, rfl, rfl, rfl⟩
    have hpost : ∀ s, MappingKind.sameLetters "Post" s = true → MappingKind.post.Spells s :=
      fun s => .short "Post" rfl
    exact .cons (hpost _ (by decide)) (.cons (.simple (by decide))
      (.cons (.qualified (by decide)) (.cons (hpost _ (by decide)) .nil)))
  · refine ((hlists _ _ none none _ (writtenIn_listing _)).2.2 _).2
      ⟨["get"], "head", ["Mapping"], rfl, ?_, ?_, rfl⟩
    · simp only [List.mem_singleton, forall_eq]
      exact ⟨.get, MappingKind.spells_of_parse? (by decide)⟩
    · exact MappingKind.parse?_eq_none_iff.1 (by decide)

end ScanConfig

end RouteAtlas
