import RouteAtlas.Format.Tree
import RouteAtlas.Proofs.Dictionary
import RouteAtlas.Proofs.Format.Expressions

/-!
# RouteAtlas.Proofs.Format.Targets — names that were read

The name of a constant in a document is read as a symbol with that written form.  So whatever
document a tree was read of, all names in its expressions have written forms that can be read again
(`targetsParse_of_ofDocument`).
-/

namespace RouteAtlas

namespace Expr

/-- Whatever expressions the node stands for, their names can be read again. -/
structure Node.TargetsParse (n : Node) : Prop where
  expr {e : Expr} : n.expr = .ok e → e.TargetsParse
  exprs {es : List Expr} : n.exprs = .ok es → ∀ e ∈ es, e.TargetsParse

theorem targetsParse_of_readTarget {n : Node} {target : Option SymbolId}
    (h : n.readTarget = .ok target) : ∀ id ∈ target, (SymbolId.parse? id.text).isSome = true := by
  unfold Node.readTarget at h
  split at h
  · cases h
    intro id hid
    cases hid
  · obtain ⟨s, -, h⟩ := bind_eq_ok_iff.1 h
    split at h
    next id hs =>
      cases h
      rintro _ ⟨⟩
      rw [SymbolId.text_of_parse? hs, hs]
      rfl
    next => cases h

section Object

variable {form : Form} {r : Record Node} {e : Expr}

theorem targetsParse_of_readFields (hr : ∀ f ∈ r.fields, f.2.TargetsParse)
    (h : form.readFields r = .pure e) : e.TargetsParse := by
  cases form with
  | literal =>
    obtain ⟨f, value, hf, -, rfl⟩ := Verdict.seq_eq_pure_iff.1 h
    obtain ⟨raw, -, rfl⟩ := Verdict.map_eq_pure_iff.1 hf
    intro id hid
    cases hid
  | concat =>
    obtain ⟨f, right, hf, hright, rfl⟩ := Verdict.seq_eq_pure_iff.1 h
    obtain ⟨left, hleft, rfl⟩ := Verdict.map_eq_pure_iff.1 hf
    obtain ⟨l, hl, hleft⟩ := Record.exists_of_required hleft
    obtain ⟨m, hm, hright⟩ := Record.exists_of_required hright
    exact targetsParse_concat.2 ⟨(hr _ hl).expr hleft, (hr _ hm).expr hright⟩
  | polyadic =>
    obtain ⟨es, hes, rfl⟩ := Verdict.map_eq_pure_iff.1 h
    obtain ⟨n, hn, hes⟩ := Record.exists_of_required hes
    exact targetsParse_polyadic.2 ((hr _ hn).exprs hes)
  | reference =>
    obtain ⟨f, target, hf, htarget, rfl⟩ := Verdict.seq_eq_pure_iff.1 h
    obtain ⟨name, -, rfl⟩ := Verdict.map_eq_pure_iff.1 hf
    intro id hid
    have hid : id ∈ target := Option.mem_toList.1 hid
    rcases Record.exists_of_optional htarget with rfl | ⟨n, -, hread⟩
    · cases hid
    · exact targetsParse_of_readTarget hread id hid
  | array =>
    obtain ⟨es, hes, rfl⟩ := Verdict.map_eq_pure_iff.1 h
    obtain ⟨n, hn, hes⟩ := Record.exists_of_required hes
    exact targetsParse_array.2 ((hr _ hn).exprs hes)
  | other =>
    obtain ⟨text, -, rfl⟩ := Verdict.map_eq_pure_iff.1 h
    intro id hid
    cases hid

theorem targetsParse_of_readExpr (hr : ∀ f ∈ r.fields, f.2.TargetsParse)
    (h : form.readExpr r = .ok e) : e.TargetsParse :=
  targetsParse_of_readFields hr (Record.eq_pure_of_finish h)

theorem targetsParse_of_readItems {ns : List Node} (hns : ∀ n ∈ ns, n.TargetsParse)
    (h : form.readItems ns = .ok e) : e.TargetsParse :=
  targetsParse_of_readExpr (fun _ hf => hns _ (List.of_mem_zip hf).2) h

theorem targetsParse_of_ofSettledFields {fields : List (String × Node)}
    (hfields : ∀ f ∈ fields, f.2.TargetsParse) (h : ofSettledFields fields = .ok e) :
    e.TargetsParse := by
  unfold ofSettledFields at h
  dsimp only at h
  split at h
  · cases h
  · obtain ⟨form, -, h⟩ := bind_eq_ok_iff.1 h
    split at h
    · exact targetsParse_of_readExpr (fun f hf => hfields f (List.mem_filter.1 hf).1) h
    · cases h

theorem targetsParse_of_ofSettledItems {ns : List Node} (hns : ∀ n ∈ ns, n.TargetsParse)
    (h : ofSettledItems ns = .ok e) : e.TargetsParse := by
  cases ns with
  | nil => cases h
  | cons n ns =>
    obtain ⟨form, -, h⟩ := bind_eq_ok_iff.1 h
    exact targetsParse_of_readItems (fun n hn => hns n (List.mem_cons_of_mem _ hn)) h

end Object

/-! ## Documents -/

theorem targetsParse_of_mapM {ns : List Node} (hns : ∀ n ∈ ns, n.TargetsParse) {es : List Expr}
    (h : ns.mapM (·.expr) = .ok es) : ∀ e ∈ es, e.TargetsParse := by
  intro e he
  obtain ⟨n, hn, hexpr⟩ := exists_of_mem_mapM h he
  exact (hns n hn).expr hexpr

/-- What settled items stand for has names that can be read again. -/
theorem targetsParse_of_items {ds : List Document} (h : ∀ d ∈ ds, (node d).TargetsParse) :
    ∀ n ∈ nodes ds, n.TargetsParse := by
  rw [nodes_eq_map]
  intro n hn
  obtain ⟨d, hd, rfl⟩ := List.mem_map.1 hn
  exact h d hd

theorem targetsParse_node (d : Document) : (node d).TargetsParse := by
  induction d using Document.structuralInduction with
  | list ds closed ih | row ds closed ih =>
    have hns := targetsParse_of_items ih
    exact ⟨targetsParse_of_ofSettledItems hns, targetsParse_of_mapM hns⟩
  | map es closed ih =>
    refine ⟨targetsParse_of_ofSettledFields ?_, nofun⟩
    rw [nodeEntries_eq_map]
    intro f hf
    obtain ⟨e, he, rfl⟩ := List.mem_map.1 hf
    exact ih e he
  | null | bool | integer | float | text | plain | unreadable | malformed => exact ⟨nofun, nofun⟩

/-- The fields of an object are nodes of documents. -/
theorem exists_of_mem_readEntries {form form' : Option Form} {es : List (String × Document)}
    {fields : List (String × Node)} (h : readEntries form es = .ok (form', fields)) :
    ∀ f ∈ fields, ∃ d, node d = f.2 := by
  induction es generalizing form fields with
  | nil =>
    cases h
    exact nofun
  | cons e es ih =>
    unfold readEntries at h
    split at h
    · split at h
      · cases h
      · obtain ⟨_, -, h⟩ := bind_eq_ok_iff.1 h
        exact ih h
    · obtain ⟨d, -, h⟩ := bind_eq_ok_iff.1 h
      obtain ⟨⟨form'', fields'⟩, hrest, h⟩ := bind_eq_ok_iff.1 h
      cases h
      exact List.forall_mem_cons.2 ⟨⟨d, rfl⟩, ih hrest⟩

theorem targetsParse_of_readItems_document {closed : Bool} {ds : List Document} {e : Expr}
    (h : readItems closed ds = .ok e) : e.TargetsParse := by
  cases ds with
  | nil => cases h
  | cons d ds =>
    obtain ⟨form, -, h⟩ := bind_eq_ok_iff.1 h
    obtain ⟨ds', -, h⟩ := bind_eq_ok_iff.1 h
    split at h
    · exact targetsParse_of_readItems (targetsParse_of_items fun d _ => targetsParse_node d) h
    · cases h

/-- **Names that were read can be read again.** -/
theorem targetsParse_of_read {d : Document} {e : Expr} (h : read d = .ok e) : e.TargetsParse := by
  unfold read at h
  split at h
  next entries closed =>
    obtain ⟨⟨form, fields⟩, hfields, h⟩ := bind_eq_ok_iff.1 h
    have hnodes : ∀ f ∈ fields, f.2.TargetsParse := by
      intro f hf
      obtain ⟨d, hd⟩ := exists_of_mem_readEntries hfields f hf
      exact hd ▸ targetsParse_node d
    dsimp only at h
    split at h
    · split at h
      · exact targetsParse_of_readExpr hnodes h
      · cases h
    · cases h
  · exact targetsParse_of_readItems_document h
  · exact targetsParse_of_readItems_document h
  all_goals cases h

theorem targetsParse_of_read? {d : Document} {e : Expr} (h : read? d = .ok (some e)) :
    e.TargetsParse := by
  unfold read? at h
  split at h
  · cases h
  · split at h
    · cases h
    · cases h
  · obtain ⟨e', hread, heq⟩ := map_eq_ok_iff.1 h
    cases heq
    exact targetsParse_of_read hread

end Expr

/-! ## Expressions of a tree -/

/-- The expressions of the attributes. -/
def Annotation.exprs (a : Annotation) : List Expr := a.attributes.entries.map (·.2)

/-- The expressions in the annotations. -/
def Parameter.exprs (p : Parameter) : List Expr := p.annotations.flatMap (·.exprs)

/-- The expressions in the annotations of the method and of its parameters. -/
def Method.exprs (m : Method) : List Expr :=
  m.annotations.flatMap (·.exprs) ++ m.parameters.flatMap (·.exprs)

/-- The initializer, where there is one. -/
def Constant.exprs (c : Constant) : List Expr := c.initializer.toList

/-- The expressions anywhere in the type. -/
def TypeDecl.exprs (t : TypeDecl) : List Expr :=
  t.annotations.flatMap (·.exprs) ++ t.methods.flatMap (·.exprs) ++ t.constants.flatMap (·.exprs)

/-- The expressions anywhere in the source unit. -/
def SourceUnit.exprs (u : SourceUnit) : List Expr := u.types.flatMap (·.exprs)

/-- The expressions anywhere in the tree. -/
def SyntaxTree.exprs (tree : SyntaxTree) : List Expr := tree.units.flatMap (·.exprs)

/-! ## Declarations that were read -/

section Declaration

variable {α : Type} {a : α} {d : Document}

open Document (readDeclaration readList)

theorem exists_of_readDeclaration {known : List String} {fields : Record Document → Verdict α}
    (h : readDeclaration known fields d = .ok a) : ∃ r, fields r = .pure a := by
  obtain ⟨r, -, h⟩ := bind_eq_ok_iff.1 h
  exact ⟨r, Record.eq_pure_of_finish h⟩

theorem exists_of_closed {β : Type} {items : List β} {read : β → Except Fault α} {closed : Bool}
    {as : List α}
    (h : (do
      let xs ← items.mapM read
      if closed then .ok xs else .error .illFormed) = Except.ok as) :
    ∀ a ∈ as, ∃ b, read b = .ok a := by
  intro a ha
  obtain ⟨xs, hxs, h⟩ := bind_eq_ok_iff.1 h
  split at h
  · cases h
    obtain ⟨b, -, hb⟩ := exists_of_mem_mapM hxs ha
    exact ⟨b, hb⟩
  · cases h

/-- What is read of a list was read of one of its items. -/
theorem exists_of_readList {read : Document → Except Fault α} {as : List α}
    (h : readList read d = .ok as) : ∀ a ∈ as, ∃ d', read d' = .ok a := by
  unfold readList at h
  split at h
  · exact exists_of_closed h
  · exact exists_of_closed h
  · cases h
    exact nofun
  all_goals cases h

theorem exists_of_readEntries {read : Document → Except Fault α} {es : List (String × α)}
    (h : d.readEntries read = .ok es) : ∀ e ∈ es, ∃ d', read d' = .ok e.2 := by
  unfold Document.readEntries at h
  split at h
  · intro e he
    obtain ⟨⟨name, d'⟩, hd⟩ := exists_of_closed h e he
    obtain ⟨a, ha, rfl⟩ := map_eq_ok_iff.1 hd
    exact ⟨d', ha⟩
  · cases h
    exact nofun
  all_goals cases h

/-- Declarations that were read as the list of a field. -/
theorem targetsParse_of_optional {r : Record Document} {name : String}
    {read : Document → Except Fault α} {as : List α} {exprs : α → List Expr}
    (hread : ∀ {d a}, read d = .ok a → ∀ e ∈ exprs a, e.TargetsParse)
    (h : r.optional name [] (readList read) = .pure as) :
    ∀ e ∈ as.flatMap exprs, e.TargetsParse := by
  intro e he
  obtain ⟨a, ha, he⟩ := List.mem_flatMap.1 he
  rcases Record.exists_of_optional h with rfl | ⟨d, -, h⟩
  · cases ha
  · obtain ⟨d', hd⟩ := exists_of_readList h a ha
    exact hread hd e he

end Declaration

theorem Annotation.targetsParse_of_ofDocument {d : Document} {a : Annotation}
    (h : ofDocument d = .ok a) : ∀ e ∈ a.exprs, e.TargetsParse := by
  obtain ⟨r, hr⟩ := exists_of_readDeclaration h
  obtain ⟨_, attributes, h₁, hattributes, rfl⟩ := Verdict.seq_eq_pure_iff.1 hr
  obtain ⟨_, -, rfl⟩ := Verdict.map_eq_pure_iff.1 h₁
  intro e he
  obtain ⟨entry, hentry, rfl⟩ := List.mem_map.1 he
  rcases Record.exists_of_optional hattributes with rfl | ⟨d, -, h⟩
  · cases hentry
  · obtain ⟨entries, hentries, rfl⟩ := map_eq_ok_iff.1 h
    obtain ⟨d', hd⟩ := exists_of_readEntries hentries entry (Dictionary.mem_of_mem_ofList hentry)
    exact Expr.targetsParse_of_read hd

theorem Parameter.targetsParse_of_ofDocument {d : Document} {p : Parameter}
    (h : ofDocument d = .ok p) : ∀ e ∈ p.exprs, e.TargetsParse := by
  obtain ⟨r, hr⟩ := exists_of_readDeclaration h
  obtain ⟨_, annotations, h₁, hannotations, rfl⟩ := Verdict.seq_eq_pure_iff.1 hr
  obtain ⟨_, typeName, h₂, -, rfl⟩ := Verdict.seq_eq_pure_iff.1 h₁
  obtain ⟨name, -, rfl⟩ := Verdict.map_eq_pure_iff.1 h₂
  exact targetsParse_of_optional Annotation.targetsParse_of_ofDocument hannotations

theorem Method.targetsParse_of_ofDocument {d : Document} {m : Method}
    (h : ofDocument d = .ok m) : ∀ e ∈ m.exprs, e.TargetsParse := by
  obtain ⟨r, hr⟩ := exists_of_readDeclaration h
  obtain ⟨_, annotations, h₁, hannotations, rfl⟩ := Verdict.seq_eq_pure_iff.1 hr
  obtain ⟨_, parameters, h₂, hparameters, rfl⟩ := Verdict.seq_eq_pure_iff.1 h₁
  obtain ⟨name, -, rfl⟩ := Verdict.map_eq_pure_iff.1 h₂
  refine List.forall_mem_append.2 ⟨?_, ?_⟩
  · exact targetsParse_of_optional Annotation.targetsParse_of_ofDocument hannotations
  · exact targetsParse_of_optional Parameter.targetsParse_of_ofDocument hparameters

theorem Constant.targetsParse_of_ofDocument {d : Document} {c : Constant}
    (h : ofDocument d = .ok c) : ∀ e ∈ c.exprs, e.TargetsParse := by
  obtain ⟨r, hr⟩ := exists_of_readDeclaration h
  obtain ⟨_, initializer, h₁, hinitializer, rfl⟩ := Verdict.seq_eq_pure_iff.1 hr
  obtain ⟨name, -, rfl⟩ := Verdict.map_eq_pure_iff.1 h₁
  intro e he
  have he : initializer = some e := Option.mem_toList.1 he
  rcases Record.exists_of_optional hinitializer with rfl | ⟨d, -, h⟩
  · cases he
  · exact Expr.targetsParse_of_read? (he ▸ h)

theorem TypeDecl.targetsParse_of_ofDocument {d : Document} {t : TypeDecl}
    (h : ofDocument d = .ok t) : ∀ e ∈ t.exprs, e.TargetsParse := by
  obtain ⟨r, hr⟩ := exists_of_readDeclaration h
  obtain ⟨_, module, h₁, -, rfl⟩ := Verdict.seq_eq_pure_iff.1 hr
  obtain ⟨_, constants, h₂, hconstants, rfl⟩ := Verdict.seq_eq_pure_iff.1 h₁
  obtain ⟨_, methods, h₃, hmethods, rfl⟩ := Verdict.seq_eq_pure_iff.1 h₂
  obtain ⟨_, annotations, h₄, hannotations, rfl⟩ := Verdict.seq_eq_pure_iff.1 h₃
  obtain ⟨name, -, rfl⟩ := Verdict.map_eq_pure_iff.1 h₄
  refine List.forall_mem_append.2 ⟨List.forall_mem_append.2 ⟨?_, ?_⟩, ?_⟩
  · exact targetsParse_of_optional Annotation.targetsParse_of_ofDocument hannotations
  · exact targetsParse_of_optional Method.targetsParse_of_ofDocument hmethods
  · exact targetsParse_of_optional Constant.targetsParse_of_ofDocument hconstants

theorem SourceUnit.targetsParse_of_ofDocument {d : Document} {u : SourceUnit}
    (h : ofDocument d = .ok u) : ∀ e ∈ u.exprs, e.TargetsParse := by
  obtain ⟨r, hr⟩ := exists_of_readDeclaration h
  obtain ⟨_, types, h₁, htypes, rfl⟩ := Verdict.seq_eq_pure_iff.1 hr
  obtain ⟨file, -, rfl⟩ := Verdict.map_eq_pure_iff.1 h₁
  exact targetsParse_of_optional TypeDecl.targetsParse_of_ofDocument htypes

/-- **Names of a tree that was read can be read again.** -/
theorem SyntaxTree.targetsParse_of_ofDocument {d : Document} {tree : SyntaxTree}
    (h : ofDocument d = .ok tree) : ∀ e ∈ tree.exprs, e.TargetsParse := by
  obtain ⟨r, hr⟩ := exists_of_readDeclaration h
  obtain ⟨units, hunits, rfl⟩ := Verdict.map_eq_pure_iff.1 hr
  exact targetsParse_of_optional SourceUnit.targetsParse_of_ofDocument hunits

end RouteAtlas
