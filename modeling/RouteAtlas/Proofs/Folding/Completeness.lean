import RouteAtlas.Attribute
import RouteAtlas.Mapping.Kind
import RouteAtlas.Proofs.Folding.Leaves
import RouteAtlas.Proofs.Folding.Substitution

/-!
# RouteAtlas.Proofs.Folding.Completeness — expressions that fold completely

An expression folds completely when it is made of literals and of names that are all followed, to
initializers that are again made so, and when no name leads back to itself.  This is so exactly when
folding arrives at nothing but literals (`foldsCompletely_iff`).  The main statement says how an
attribute reads such an expression: as what it folds to, unless that is blank.  A blank text is read
as it is written, so a constant with a blank value is read as its name.
-/

namespace RouteAtlas

/-- Folding arrived at a literal. -/
def Piece.isLiteral : Piece → Bool
  | literal .. => true
  | unresolved _ | cyclic .. | undeclared .. | textless => false

/-- A literal, or a name that means some constant. -/
def Expr.isLiteralOrName : Expr → Bool
  | literal .. => true
  | reference _ target => target.isSome
  | concat .. | polyadic _ | array _ | other _ => false

namespace SyntaxTree

open Relation

variable {tree : SyntaxTree}

/-! ## What is reachable from an expression -/

theorem not_reachable_literal (raw : String) (value : Option Literal) (id : SymbolId) :
    ¬ tree.Reachable (.literal raw value) id := by
  rintro ⟨t, ht, -⟩
  cases ht

theorem reachable_concat {left right : Expr} {id : SymbolId}
    (h : tree.Reachable (.concat left right) id) :
    tree.Reachable left id ∨ tree.Reachable right id := by
  obtain ⟨t, ht, hpath⟩ := h
  exact (List.mem_append.1 ht).imp (fun ht => ⟨t, ht, hpath⟩) fun ht => ⟨t, ht, hpath⟩

theorem reachable_polyadic {es : List Expr} {id : SymbolId}
    (h : tree.Reachable (.polyadic es) id) : ∃ e ∈ es, tree.Reachable e id := by
  obtain ⟨t, ht, hpath⟩ := h
  rw [Expr.targets_polyadic] at ht
  obtain ⟨e, he, ht⟩ := List.mem_flatMap.1 ht
  exact ⟨e, he, t, ht, hpath⟩

/-- A path of references that leaves a constant goes through its initializer. -/
theorem reachable_of_transGen {id other : SymbolId} {init : Expr}
    (hinit : tree.initializer? id = some init) (h : TransGen tree.RefersTo id other) :
    tree.Reachable init other := by
  obtain ⟨t, ⟨init', hinit', ht⟩, hpath⟩ := TransGen.head'_iff.1 h
  rw [hinit] at hinit'
  cases hinit'
  exact ⟨t, ht, hpath⟩

theorem reachable_reference {name : String} {id other : SymbolId} {init : Expr}
    (hinit : tree.initializer? id = some init)
    (h : tree.Reachable (.reference name (some id)) other) :
    other = id ∨ tree.Reachable init other := by
  obtain ⟨t, ht, hpath⟩ := h
  obtain rfl : t = id := List.mem_singleton.1 ht
  rcases reflTransGen_iff_eq_or_transGen.1 hpath with rfl | hpath
  · exact .inl rfl
  · exact .inr (reachable_of_transGen hinit hpath)

/-! ## Complete folding -/

/-- Nothing is left out where the expression is folded: it is made of literals and names, each name
that is reachable from it is followed to an initializer that is made so too, and none leads back to
itself. -/
structure FoldsCompletely (tree : SyntaxTree) (e : Expr) : Prop where
  leaves : ∀ x ∈ e.leaves, x.isLiteralOrName = true
  followed : ∀ id, tree.Reachable e id →
    ∃ init, tree.initializer? id = some init ∧ ∀ x ∈ init.leaves, x.isLiteralOrName = true
  acyclic : tree.AcyclicFrom e

namespace FoldsCompletely

theorem literal (raw : String) (value : Option Literal) :
    tree.FoldsCompletely (.literal raw value) where
  leaves x hx := by
    rw [List.mem_singleton.1 hx]
    rfl
  followed id hid := absurd hid (not_reachable_literal raw value id)
  acyclic id hid := absurd hid (not_reachable_literal raw value id)

theorem concat {left right : Expr} (hleft : tree.FoldsCompletely left)
    (hright : tree.FoldsCompletely right) : tree.FoldsCompletely (.concat left right) where
  leaves x hx := (List.mem_append.1 hx).elim (hleft.leaves x) (hright.leaves x)
  followed id hid := (reachable_concat hid).elim (hleft.followed id) (hright.followed id)
  acyclic id hid := (reachable_concat hid).elim (hleft.acyclic id) (hright.acyclic id)

theorem polyadic {es : List Expr} (h : ∀ e ∈ es, tree.FoldsCompletely e) :
    tree.FoldsCompletely (.polyadic es) where
  leaves x hx := by
    rw [Expr.leaves_polyadic] at hx
    obtain ⟨e, he, hx⟩ := List.mem_flatMap.1 hx
    exact (h e he).leaves x hx
  followed id hid := by
    obtain ⟨e, he, hid⟩ := reachable_polyadic hid
    exact (h e he).followed id hid
  acyclic id hid := by
    obtain ⟨e, he, hid⟩ := reachable_polyadic hid
    exact (h e he).acyclic id hid

/-- A name is followed completely where its initializer is and does not lead back to the name. -/
theorem reference {name : String} {id : SymbolId} {init : Expr}
    (hinit : tree.initializer? id = some init) (h : tree.FoldsCompletely init)
    (hback : ¬ tree.Reachable init id) :
    tree.FoldsCompletely (.reference name (some id)) where
  leaves x hx := by
    rw [List.mem_singleton.1 hx]
    rfl
  followed other hother := by
    rcases reachable_reference hinit hother with rfl | hother
    · exact ⟨init, hinit, h.leaves⟩
    · exact h.followed other hother
  acyclic other hother := by
    rcases reachable_reference hinit hother with rfl | hother
    · exact fun hcycle => hback (reachable_of_transGen hinit hcycle)
    · exact h.acyclic other hother

theorem concat_left {left right : Expr} (h : tree.FoldsCompletely (.concat left right)) :
    tree.FoldsCompletely left where
  leaves x hx := h.leaves x (List.mem_append_left _ hx)
  followed id hid := h.followed id hid.concat_left
  acyclic id hid := h.acyclic id hid.concat_left

theorem concat_right {left right : Expr} (h : tree.FoldsCompletely (.concat left right)) :
    tree.FoldsCompletely right where
  leaves x hx := h.leaves x (List.mem_append_right _ hx)
  followed id hid := h.followed id hid.concat_right
  acyclic id hid := h.acyclic id hid.concat_right

theorem operand {es : List Expr} (h : tree.FoldsCompletely (.polyadic es)) {e : Expr}
    (he : e ∈ es) : tree.FoldsCompletely e where
  leaves x hx := by
    refine h.leaves x ?_
    rw [Expr.leaves_polyadic]
    exact List.mem_flatMap.2 ⟨e, he, hx⟩
  followed id hid := h.followed id (hid.operand he)
  acyclic id hid := h.acyclic id (hid.operand he)

theorem initializer {name : String} {id : SymbolId} {init : Expr}
    (h : tree.FoldsCompletely (.reference name (some id)))
    (hinit : tree.initializer? id = some init) : tree.FoldsCompletely init where
  leaves := by
    obtain ⟨init', hinit', hleaves⟩ := h.followed id (reachable_target name id)
    rw [hinit] at hinit'
    cases hinit'
    exact hleaves
  followed other hother := h.followed other (hother.initializer hinit)
  acyclic other hother := h.acyclic other (hother.initializer hinit)

end FoldsCompletely

end SyntaxTree

namespace Expr

open Relation

variable {tree : SyntaxTree}

/-- Inside constants that cannot be met again, complete folding arrives at literals. -/
theorem isLiteral_of_mem_expand {stack : List SymbolId} {e : Expr} (h : tree.FoldsCompletely e)
    (hstack : ∀ id ∈ stack, ¬ tree.Reachable e id) :
    ∀ p ∈ e.expand tree stack, p.isLiteral = true := by
  induction stack, e using foldingInduction tree with
  | literal stack raw value => simp [Piece.isLiteral]
  | concat stack left right ihl ihr =>
    intro p hp
    rw [expand_concat] at hp
    rcases List.mem_append.1 hp with hp | hp
    · exact ihl h.concat_left (fun id hid hr => hstack id hid hr.concat_left) p hp
    · exact ihr h.concat_right (fun id hid hr => hstack id hid hr.concat_right) p hp
  | polyadic stack es ih =>
    intro p hp
    rw [expand_polyadic] at hp
    obtain ⟨e, he, hp⟩ := List.mem_flatMap.1 hp
    exact ih e he (h.operand he) (fun id hid hr => hstack id hid (hr.operand he)) p hp
  | cyclic stack name id hid => exact absurd (SyntaxTree.reachable_target name id) (hstack id hid)
  | unfollowed stack name id hid hinit =>
    obtain ⟨init, hsome, -⟩ := h.followed id (SyntaxTree.reachable_target name id)
    rw [hinit] at hsome
    cases hsome
  | followed stack name id init hid hinit ih =>
    rw [expand_followed hid hinit]
    refine ih (h.initializer hinit) fun x hx hr => ?_
    -- the name just pushed is out of reach because its constant is on no cycle
    rcases List.mem_cons.1 hx with rfl | hx
    · exact h.acyclic.not_reachable_self hinit hr
    · exact hstack x hx (hr.initializer hinit)
  | unresolved stack name => cases h.leaves _ (List.mem_singleton_self _)
  | array stack es => cases h.leaves _ (List.mem_singleton_self _)
  | other stack text => cases h.leaves _ (List.mem_singleton_self _)

/-- Where folding arrives at literals only, no name that it met was on the stack. -/
theorem foldsCompletely_of_isLiteral {stack : List SymbolId} {e : Expr}
    (h : ∀ p ∈ e.expand tree stack, p.isLiteral = true) :
    tree.FoldsCompletely e ∧ ∀ id ∈ stack, ¬ tree.Reachable e id := by
  induction stack, e using foldingInduction tree with
  | literal stack raw value =>
    exact ⟨.literal raw value, fun id _ => SyntaxTree.not_reachable_literal raw value id⟩
  | concat stack left right ihl ihr =>
    rw [expand_concat] at h
    obtain ⟨hleft, hstackl⟩ := ihl fun p hp => h p (List.mem_append_left _ hp)
    obtain ⟨hright, hstackr⟩ := ihr fun p hp => h p (List.mem_append_right _ hp)
    refine ⟨hleft.concat hright, fun id hid hr => ?_⟩
    exact (SyntaxTree.reachable_concat hr).elim (hstackl id hid) (hstackr id hid)
  | polyadic stack es ih =>
    have hoperand : ∀ e ∈ es, ∀ p ∈ e.expand tree stack, p.isLiteral = true := by
      intro e he p hp
      refine h p ?_
      rw [expand_polyadic]
      exact List.mem_flatMap.2 ⟨e, he, hp⟩
    refine ⟨.polyadic fun e he => (ih e he (hoperand e he)).1, fun id hid hr => ?_⟩
    obtain ⟨e, he, hr⟩ := SyntaxTree.reachable_polyadic hr
    exact (ih e he (hoperand e he)).2 id hid hr
  | followed stack name id init hid hinit ih =>
    rw [expand_followed hid hinit] at h
    obtain ⟨hcomplete, hstack⟩ := ih h
    refine ⟨.reference hinit hcomplete (hstack id List.mem_cons_self), fun x hx hr => ?_⟩
    rcases SyntaxTree.reachable_reference hinit hr with rfl | hr
    · exact hid hx
    · exact hstack x (List.mem_cons_of_mem id hx) hr
  | cyclic stack name id hid =>
    rw [expand_cyclic hid] at h
    cases h _ (List.mem_singleton_self _)
  | unfollowed stack name id hid hinit =>
    rw [expand_unfollowed hid hinit] at h
    have hpiece := h _ (List.mem_singleton_self _)
    rw [SyntaxTree.unfollowed_eq_ite] at hpiece
    split at hpiece
    · cases hpiece
    · cases hpiece
  | unresolved stack name =>
    rw [expand_unresolved] at h
    cases h _ (List.mem_singleton_self _)
  | array stack es =>
    rw [expand_array] at h
    cases h _ (List.mem_singleton_self _)
  | other stack text =>
    rw [expand_other] at h
    cases h _ (List.mem_singleton_self _)

/-- **An expression folds completely** exactly when folding arrives at nothing but literals. -/
theorem foldsCompletely_iff {e : Expr} :
    tree.FoldsCompletely e ↔ ∀ p ∈ e.expand tree [], p.isLiteral = true := by
  constructor
  · intro h
    exact isLiteral_of_mem_expand h fun id hid => absurd hid List.not_mem_nil
  · intro h
    exact (foldsCompletely_of_isLiteral h).1

end Expr

/-! ## How attributes read what folds completely -/

/-- Quotes are all that `unquote` takes away. -/
theorem mem_of_mem_unquote {s : String} {c : Char} (h : c ∈ (unquote s).toList) :
    c ∈ s.toList := by
  unfold unquote at h
  split at h
  · exact h
  · exact h
  next q cs _ hs =>
    split at h
    · rw [String.toList_ofList] at h
      rw [hs]
      exact List.mem_cons_of_mem q (List.dropLast_subset cs h)
    · exact h

theorem isBlank_unquote {s : String} (h : Text.isBlank s = true) :
    Text.isBlank (unquote s) = true := by
  rw [Text.isBlank, List.all_eq_true] at h ⊢
  intro c hc
  exact h c (mem_of_mem_unquote hc)

namespace Expr

variable {tree : SyntaxTree} {e : Expr}

theorem entryText_of_not_isBlank (h : Text.isBlank (e.fold tree) = false) :
    e.entryText tree = e.fold tree := by
  simp [entryText, h]

theorem isBlank_entryText (h : Text.isBlank (e.fold tree) = true)
    (hwritten : Text.isBlank (unquote e.sourceText) = true) :
    Text.isBlank (e.entryText tree) = true := by
  simp only [entryText, if_pos h]
  split
  · rfl
  · exact hwritten

theorem entryText_of_isBlank (h : Text.isBlank (e.fold tree) = true)
    (hwritten : Text.isBlank (unquote e.sourceText) = false) :
    e.entryText tree = unquote e.sourceText := by
  have hsource : Text.isBlank e.sourceText ≠ true := by
    intro hblank
    rw [isBlank_unquote hblank] at hwritten
    cases hwritten
  simp only [entryText, if_pos h, if_neg hsource]

end Expr

namespace Annotation

/-- **What folds completely is read as what it folds to**, the text that substitution gives, if that
is not blank.  A blank text is read as the expression is written, without quotes around it, and so
gives a blank entry just where the expression is written as blanks. -/
theorem read_of_foldsCompletely (tree : SyntaxTree) (a : Annotation) (name : String) {i : Nat}
    {e : Expr} (he : (a.entries name)[i]? = some e) (h : tree.FoldsCompletely e) :
    ∃ entry, (a.read tree name)[i]? = some entry ∧
      e.Denotes tree (e.fold tree) ∧ (∀ p ∈ e.expand tree [], p.isLiteral = true) ∧
      (Text.isBlank (e.fold tree) = false → entry = e.fold tree) ∧
      (Text.isBlank (e.fold tree) = true →
        (Text.isBlank (unquote e.sourceText) = true → Text.isBlank entry = true) ∧
        (Text.isBlank (unquote e.sourceText) = false → entry = unquote e.sourceText)) := by
  refine ⟨e.entryText tree, ?_, ?_, Expr.foldsCompletely_iff.1 h, Expr.entryText_of_not_isBlank,
    fun hblank => ⟨Expr.isBlank_entryText hblank, Expr.entryText_of_isBlank hblank⟩⟩
  · rw [read, List.getElem?_map, he]
    rfl
  · exact Expr.denotes_foldIn h.acyclic fun id hid => absurd hid List.not_mem_nil

/-- The constants `ROOT = "/api"`, `BASE = ROOT + "/v1"` and `EMPTY = ""` of a type `Paths`. -/
def basePathsTree : SyntaxTree :=
  .ofConstants "Paths"
    [{ name := "ROOT", initializer := some (.string "/api") },
      { name := "BASE", initializer := some (.concat (.pathsReference "ROOT") (.string "/v1")) },
      { name := "EMPTY", initializer := some (.string "") }]

/-- A mapping with the expression as its path. -/
def getMapping (path : Expr) : Annotation where
  qualifiedName := MappingKind.get.qualifiedName
  attributes := .ofList [("path", path)]

/-- The path `BASE + "/users"` is read through both names. -/
theorem read_of_foldsCompletely_base :
    let e : Expr := .concat (.pathsReference "BASE") (.string "/users")
    ((getMapping e).entries "path")[0]? = some e ∧ basePathsTree.FoldsCompletely e ∧
      e.fold basePathsTree = "/api/v1/users" ∧
      ((getMapping e).read basePathsTree "path")[0]? = some "/api/v1/users" := by
  intro e
  have hexpand : e.expand basePathsTree [] =
      [.literal "\"/api\"" (some (.text "/api")), .literal "\"/v1\"" (some (.text "/v1")),
        .literal "\"/users\"" (some (.text "/users"))] := by
    have hroot : basePathsTree.initializer? (.ofParts "Paths" "ROOT") = some (.string "/api") := rfl
    have hbase : basePathsTree.initializer? (.ofParts "Paths" "BASE") =
        some (.concat (.pathsReference "ROOT") (.string "/v1")) := rfl
    rw [Expr.expand_concat, Expr.pathsReference, Expr.expand_followed (by decide) hbase,
      Expr.expand_concat, Expr.pathsReference, Expr.expand_followed (by decide) hroot]
    simp [Expr.string]
  have hcomplete : basePathsTree.FoldsCompletely e := by
    rw [Expr.foldsCompletely_iff, hexpand]
    decide
  have hfold : e.fold basePathsTree = "/api/v1/users" := by
    rw [Expr.fold, Expr.foldIn, hexpand]
    decide
  have hentry₀ : ((getMapping e).entries "path")[0]? = some e := rfl
  obtain ⟨entry, hentry, -, -, hread, -⟩ :=
    read_of_foldsCompletely basePathsTree (getMapping e) "path" hentry₀ hcomplete
  rw [hfold] at hread
  refine ⟨hentry₀, hcomplete, hfold, ?_⟩
  rw [hentry, hread (by decide)]

/-- A constant with a blank value folds completely and is read as its name. -/
theorem read_blank_constant :
    let e : Expr := .pathsReference "EMPTY"
    (getMapping e).entries "path" = [e] ∧ basePathsTree.FoldsCompletely e ∧
      e.fold basePathsTree = "" ∧ (getMapping e).read basePathsTree "path" = ["EMPTY"] ∧
      ¬ ∀ entry ∈ (getMapping e).read basePathsTree "path", Text.isBlank entry = true := by
  intro e
  have hexpand : e.expand basePathsTree [] = [.literal "\"\"" (some (.text ""))] := by
    have hempty : basePathsTree.initializer? (.ofParts "Paths" "EMPTY") = some (.string "") := rfl
    change (Expr.pathsReference "EMPTY").expand basePathsTree [] = _
    rw [Expr.pathsReference, Expr.expand_followed (by decide) hempty]
    simp [Expr.string]
  have hfold : e.fold basePathsTree = "" := by
    rw [Expr.fold, Expr.foldIn, hexpand]
    rfl
  have hread : (getMapping e).read basePathsTree "path" = ["EMPTY"] := by
    have hentries : (getMapping e).entries "path" = [e] := rfl
    have hblank : Text.isBlank (e.fold basePathsTree) = true := by rw [hfold]; rfl
    have hwritten : unquote e.sourceText = "EMPTY" := by decide
    rw [read, hentries, List.map_singleton, Expr.entryText_of_isBlank hblank (by decide), hwritten]
  refine ⟨rfl, ?_, hfold, hread, ?_⟩
  · rw [Expr.foldsCompletely_iff, hexpand]
    decide
  · rw [hread]
    decide

end Annotation

end RouteAtlas
