import RouteAtlas.Proofs.Format.Targets

/-!
# RouteAtlas.Proofs.Format.RoundTrip — trees are read back from JSON

A tree without floats that was written as JSON is read back as it was, however deep the expressions
in it are nested and in whatever order the fields of its objects come (`ofDocument_of_jsonForm`).
Names of constants come back when their written forms can be read, and in a tree that was itself
read of a document they can.
-/

namespace RouteAtlas

open Document (JsonForm readText readText? readList readDeclaration)

namespace Document

variable {α : Type}

/-- An object whose names are free is read back, when its values are, in some order. -/
theorem readsBack_entries {write : α → Document} {read : Document → Except Fault α}
    {es : List (String × α)} (h : ∀ e ∈ es, ReadsBack read (write e.2) e.2) {d : Document}
    (hd : (Document.map (es.map fun (name, a) => (name, write a)) true).JsonForm d) :
    ∃ es', es'.Perm es ∧ d.readEntries read = .ok es' := by
  cases hd with
  | @map _ ds ds' _ hds hperm =>
    rw [List.forall₂_map_left_iff] at hds
    have hread : List.Forall₂ (fun d e => (read d.2).map (d.1, ·) = .ok e) ds es := by
      refine (((List.forall₂_and_left _ _).2 ⟨h, hds⟩).imp ?_).flip
      rintro ⟨name, a⟩ d ⟨ha, hd⟩
      cases hd with
      | mk hd => exact map_eq_ok_iff.2 ⟨a, ha hd, rfl⟩
    -- the entries come in the order of the JSON object
    obtain ⟨es', hread, hes⟩ := List.perm_comp_forall₂ hperm.symm hread
    exact ⟨es', hes, bind_eq_ok_iff.2 ⟨es', mapM_eq_ok_iff.2 hread, rfl⟩⟩

/-- A declaration is read back when its fields are. -/
theorem readsBack_declaration {known : List String} {read : Record Document → Verdict α}
    {fields : List (String × Option Document)} {a : α} (hnames : fields.map (·.1) = known)
    (hnodup : known.Nodup) (hread : ∀ {r}, r.Holds JsonForm fields → read r = .pure a) :
    ReadsBack (readDeclaration known read) (.ofFields fields) a := by
  intro d hd
  obtain ⟨es, rfl, hes⟩ := hd.ofFields (hnames ▸ hnodup)
  refine bind_eq_ok_iff.2 ⟨_, rfl, ?_⟩
  show Record.finish { fields := es } known _ (read { fields := es }) = _
  rw [hread hes]
  exact hes.finish hnames _ a

end Document

/-- Declarations that are written as the list of a field. -/
theorem optional_of_holds {α : Type} {r : Record Document} {name : String}
    {fields : List (String × Option Document)} {write : α → Document}
    {read : Document → Except Fault α} {exprs : α → List Expr} {as : List α}
    (hr : r.Holds JsonForm fields) (hmem : (name, some (Document.ofList write as)) ∈ fields)
    (hread : ∀ {a}, (∀ e ∈ exprs a, e.ReadsBack) → Document.ReadsBack read (write a) a)
    (h : ∀ e ∈ as.flatMap exprs, e.ReadsBack) :
    r.optional name [] (readList read) = .pure as := by
  refine hr.optional_some hmem (Document.readsBack_list fun a ha => ?_)
  exact hread fun e he => h e (List.mem_flatMap.2 ⟨a, ha, he⟩)

theorem Expr.read?_of_read {d : Document} {e : Expr} (h : read d = .ok e) :
    read? d = .ok (some e) := by
  unfold read?
  split
  · cases h
  · cases h
  · exact map_eq_ok_iff.2 ⟨e, h, rfl⟩

/-! ## Declarations -/

open Document (ReadsBack readsBack_text readsBack_text? readsBack_list readsBack_entries
  readsBack_declaration)

theorem Annotation.readsBack {a : Annotation} (h : ∀ e ∈ a.exprs, e.ReadsBack) :
    ReadsBack ofDocument a.toDocument a := by
  refine readsBack_declaration rfl (by decide) fun {r} hr => ?_
  have hname : r.required "qualified_name" readText = .pure a.qualifiedName :=
    hr.required (by simp) (readsBack_text _)
  have hattributes : r.optional "attributes" .empty
      (fun d => (d.readEntries Expr.read).map Dictionary.ofList) = .pure a.attributes := by
    refine hr.optional_some (List.mem_cons_of_mem _ List.mem_cons_self) fun d hd => ?_
    have hvalues : ∀ e ∈ a.attributes.entries, ReadsBack Expr.read e.2.write e.2 := fun e he =>
      (h _ (List.mem_map_of_mem he)).alone
    obtain ⟨es, hes, hread⟩ := readsBack_entries hvalues hd
    exact map_eq_ok_iff.2 ⟨es, hread, Dictionary.ofList_eq_of_perm hes⟩
  rw [hname, hattributes]
  rfl

theorem Parameter.readsBack {p : Parameter} (h : ∀ e ∈ p.exprs, e.ReadsBack) :
    ReadsBack ofDocument p.toDocument p := by
  refine readsBack_declaration rfl (by decide) fun {r} hr => ?_
  have hname : r.required "name" readText = .pure p.name :=
    hr.required (by simp) (readsBack_text _)
  have htypeName : r.required "type_name" readText = .pure p.typeName :=
    hr.required (by simp) (readsBack_text _)
  have hannotations : r.optional "annotations" [] (readList Annotation.ofDocument) =
      .pure p.annotations :=
    optional_of_holds hr (by simp) Annotation.readsBack h
  rw [hname, htypeName, hannotations]
  rfl

theorem Method.readsBack {m : Method} (h : ∀ e ∈ m.exprs, e.ReadsBack) :
    ReadsBack ofDocument m.toDocument m := by
  obtain ⟨hannotations, hparameters⟩ := List.forall_mem_append.1 h
  refine readsBack_declaration rfl (by decide) fun {r} hr => ?_
  have hname : r.required "name" readText = .pure m.name :=
    hr.required (by simp) (readsBack_text _)
  have hparameters : r.optional "parameters" [] (readList Parameter.ofDocument) =
      .pure m.parameters :=
    optional_of_holds hr (by simp) Parameter.readsBack hparameters
  have hannotations : r.optional "annotations" [] (readList Annotation.ofDocument) =
      .pure m.annotations :=
    optional_of_holds hr (by simp) Annotation.readsBack hannotations
  rw [hname, hparameters, hannotations]
  rfl

theorem Constant.readsBack {c : Constant} (h : ∀ e ∈ c.exprs, e.ReadsBack) :
    ReadsBack ofDocument c.toDocument c := by
  refine readsBack_declaration rfl (by decide) fun {r} hr => ?_
  have hname : r.required "name" readText = .pure c.name :=
    hr.required (by simp) (readsBack_text _)
  have hinitializer : r.optional "initializer" none Expr.read? = .pure c.initializer :=
    hr.optional (by simp) fun e he _ hd =>
      Expr.read?_of_read ((h e (Option.mem_toList.2 he)).alone hd)
  rw [hname, hinitializer]
  rfl

theorem TypeDecl.readsBack {t : TypeDecl} (h : ∀ e ∈ t.exprs, e.ReadsBack) :
    ReadsBack ofDocument t.toDocument t := by
  obtain ⟨hmembers, hconstants⟩ := List.forall_mem_append.1 h
  obtain ⟨hannotations, hmethods⟩ := List.forall_mem_append.1 hmembers
  refine readsBack_declaration rfl (by decide) fun {r} hr => ?_
  have hname : r.required "qualified_name" readText = .pure t.qualifiedName :=
    hr.required (by simp) (readsBack_text _)
  have hannotations : r.optional "annotations" [] (readList Annotation.ofDocument) =
      .pure t.annotations :=
    optional_of_holds hr (by simp) Annotation.readsBack hannotations
  have hmethods : r.optional "methods" [] (readList Method.ofDocument) = .pure t.methods :=
    optional_of_holds hr (by simp) Method.readsBack hmethods
  have hconstants : r.optional "constants" [] (readList Constant.ofDocument) =
      .pure t.constants :=
    optional_of_holds hr (by simp) Constant.readsBack hconstants
  have hmodule : r.optional "module" none readText? = .pure t.module :=
    hr.optional (by simp) fun s _ => readsBack_text? s
  rw [hname, hannotations, hmethods, hconstants, hmodule]
  rfl

theorem SourceUnit.readsBack {u : SourceUnit} (h : ∀ e ∈ u.exprs, e.ReadsBack) :
    ReadsBack ofDocument u.toDocument u := by
  refine readsBack_declaration rfl (by decide) fun {r} hr => ?_
  have hfile : r.optional "file" none readText? = .pure u.file :=
    hr.optional (by simp) fun s _ => readsBack_text? s
  have htypes : r.optional "types" [] (readList TypeDecl.ofDocument) = .pure u.types :=
    optional_of_holds hr (by simp) TypeDecl.readsBack h
  rw [hfile, htypes]
  rfl

theorem SyntaxTree.readsBack {tree : SyntaxTree} (h : ∀ e ∈ tree.exprs, e.ReadsBack) :
    ReadsBack ofDocument tree.toDocument tree := by
  refine readsBack_declaration rfl (by decide) fun {r} hr => ?_
  have hunits : r.optional "units" [] (readList SourceUnit.ofDocument) = .pure tree.units :=
    optional_of_holds hr (by simp) SourceUnit.readsBack h
  rw [hunits]
  rfl

namespace SyntaxTree

/-- **Decoding undoes encoding.** A tree without floats, whose names of constants have written forms
that can be read or which was itself read of a document, can be written as JSON, and it is read back
of every JSON value that it is written as. -/
theorem ofDocument_of_jsonForm {tree : SyntaxTree} (hfloats : ∀ e ∈ tree.exprs, e.FloatFree)
    (htargets : (∀ e ∈ tree.exprs, e.TargetsParse) ∨ ∃ source, ofDocument source = .ok tree) :
    (∃ d, tree.toDocument.JsonForm d) ∧
      ∀ d, tree.toDocument.JsonForm d → ofDocument d = .ok tree := by
  have htargets : ∀ e ∈ tree.exprs, e.TargetsParse := by
    rcases htargets with htargets | ⟨source, hsource⟩
    · exact htargets
    · exact targetsParse_of_ofDocument hsource
  refine ⟨Document.exists_jsonForm _, fun d hd => ?_⟩
  exact readsBack (fun e he => Expr.readsBack (htargets e he) (hfloats e he)) hd

/-- A list in braces, in it a concatenation of a name and a number. -/
def nestedExpr : Expr :=
  .array [.concat (.reference "BASE" (some (.ofParts "api.Paths" "BASE")))
    (.literal "-3" (some (.integer (-3))))]

/-- A tree with the expression in an annotation. -/
def nestedTree : SyntaxTree where
  units := [{
    types := [{
      qualifiedName := "api.Users"
      annotations := [{
        qualifiedName := "web.Mapping"
        attributes := Dictionary.empty.insert "path" nestedExpr }]
      module := some "core" }] }]

/-- The expression in JSON, with the fields of each object in increasing order of their names. -/
def nestedExprJson : Document :=
  .map
    [("elements", .row
      [.map
        [("kind", .text "concat"),
          ("left", .map
            [("kind", .text "reference"), ("name", .text "BASE"),
              ("target", .text "api.Paths.BASE")] true),
          ("right", .map
            [("kind", .text "literal"), ("raw", .text "-3"), ("value", .integer (-3))] true)]
        true] true),
      ("kind", .text "array")] true

/-- The tree in JSON, in the same order; the file is left out. -/
def nestedTreeJson : Document :=
  .map
    [("units", .row
      [.map
        [("types", .row
          [.map
            [("annotations", .row
                [.map
                  [("attributes", .map [("path", nestedExprJson)] true),
                    ("qualified_name", .text "web.Mapping")] true] true),
              ("constants", .row [] true), ("methods", .row [] true), ("module", .text "core"),
              ("qualified_name", .text "api.Users")] true] true)] true] true)] true

theorem jsonForm_nestedExpr : nestedExpr.write.JsonForm nestedExprJson := by
  refine .map (.cons (.mk (.text _)) (.cons (.mk (.list (.cons ?_ .nil))) .nil)) (.swap _ _ _)
  refine .map (.cons (.mk (.text _)) (.cons (.mk ?_) (.cons (.mk ?_) .nil))) (.refl _)
  · exact .map (.cons (.mk (.text _)) (.cons (.mk (.text _)) (.cons (.mk (.text _)) .nil)))
      (.refl _)
  · exact .map (.cons (.mk (.text _)) (.cons (.mk (.text _)) (.cons (.mk (.integer _)) .nil)))
      (.refl _)

theorem jsonForm_nestedTree : nestedTree.toDocument.JsonForm nestedTreeJson := by
  refine .map (.cons (.mk (.list (.cons ?_ .nil))) .nil) (.refl _)
  refine .map (.cons (.mk (.list (.cons ?_ .nil))) .nil) (.refl _)
  -- the name of the type goes to the end, and methods and constants change places
  refine .map (.cons (.mk (.text _)) (.cons (.mk (.list (.cons ?_ .nil)))
    (.cons (.mk (.list .nil)) (.cons (.mk (.list .nil)) (.cons (.mk (.text _)) .nil)))))
    ((List.perm_append_singleton _ [_, _, _, _]).symm.trans (.cons _ (.swap _ _ _)))
  refine .map (.cons (.mk (.text _)) (.cons (.mk ?_) .nil)) (.swap _ _ _)
  exact .map (.cons (.mk jsonForm_nestedExpr) .nil) (.refl _)

theorem ofDocument_of_jsonForm_nested :
    (∀ e ∈ nestedTree.exprs, e.FloatFree) ∧ (∀ e ∈ nestedTree.exprs, e.TargetsParse) ∧
      nestedTree.toDocument.JsonForm nestedTreeJson ∧
      ofDocument nestedTreeJson = .ok nestedTree := by
  have hexprs : nestedTree.exprs = [nestedExpr] := rfl
  have hfloats : ∀ e ∈ nestedTree.exprs, e.FloatFree := by
    rw [hexprs, List.forall_mem_singleton, Expr.FloatFree]
    decide
  have htargets : ∀ e ∈ nestedTree.exprs, e.TargetsParse := by
    rw [hexprs, List.forall_mem_singleton, Expr.TargetsParse]
    decide
  refine ⟨hfloats, htargets, jsonForm_nestedTree, ?_⟩
  exact (ofDocument_of_jsonForm hfloats (.inl htargets)).2 _ jsonForm_nestedTree

end SyntaxTree

end RouteAtlas
