import RouteAtlas.Proofs.Scan.ByType

/-!
# RouteAtlas.Proofs.Scan.Prefolding — constants folded ahead of time

`prefolded` replaces the initializer of each constant that a name can stand for by the text that the
name stands for, so that no initializer leads to another one.  The main statement is that nobody
notices: expressions keep their texts, and a scan its report.  Cycles do no harm, because a name
that is not inside of any constant is folded with an empty stack, before as after.
-/

namespace RouteAtlas

/-- The text that the name of a constant stands for. -/
def SyntaxTree.textOf (tree : SyntaxTree) (id : SymbolId) : String :=
  (Expr.reference id.field (some id)).fold tree

/-- The constant of a type with its text for an initializer, where a name may stand for it. -/
def Constant.prefolded (tree : SyntaxTree) (owner : String) (c : Constant) : Constant :=
  if c.folded?.isSome then
    { c with initializer := some (.string (tree.textOf (.ofParts owner c.name))) }
  else c

/-- The type with its constants folded. -/
def TypeDecl.prefolded (tree : SyntaxTree) (t : TypeDecl) : TypeDecl :=
  { t with constants := t.constants.map (·.prefolded tree t.qualifiedName) }

/-- The tree with its constants folded. -/
def SyntaxTree.prefolded (tree : SyntaxTree) : SyntaxTree := tree.mapTypes (·.prefolded tree)

/-! ## What names mean in the folded tree -/

section Constants

variable (tree : SyntaxTree)

@[simp] theorem Constant.name_prefolded (owner : String) (c : Constant) :
    (c.prefolded tree owner).name = c.name := by
  unfold prefolded
  split <;> rfl

theorem Constant.folded?_prefolded (owner : String) (c : Constant) :
    (c.prefolded tree owner).folded? =
      c.folded?.map fun _ => .string (tree.textOf (.ofParts owner c.name)) := by
  unfold prefolded
  cases h : c.folded? with
  | none => simpa using h
  | some init => rfl

theorem TypeDecl.constant?_prefolded (t : TypeDecl) (name : String) :
    (t.prefolded tree).constant? name =
      (t.constant? name).map (·.prefolded tree t.qualifiedName) := by
  have hname : (fun c : Constant => c.name == name) ∘ Constant.prefolded tree t.qualifiedName =
      fun c : Constant => c.name == name := by
    funext c
    rw [Function.comp_apply, Constant.name_prefolded]
  rw [constant?, prefolded, List.find?_map, hname, constant?]

namespace SyntaxTree

theorem type?_prefolded (name : String) :
    tree.prefolded.type? name = (tree.type? name).map (·.prefolded tree) := by
  rw [type?, prefolded, types_mapTypes, List.find?_map]
  rfl

theorem constant?_prefolded (id : SymbolId) :
    tree.prefolded.constant? id = (tree.constant? id).map (·.prefolded tree id.owner) := by
  rw [constant?, type?_prefolded, constant?]
  cases h : tree.type? id.owner with
  | none => rfl
  | some t =>
    have hname : t.qualifiedName = id.owner := by simpa using List.find?_some h
    rw [Option.map_some, Option.bind_some, Option.bind_some, TypeDecl.constant?_prefolded, hname]

/-- A name is followed to the text that it stands for. -/
theorem initializer?_prefolded (id : SymbolId) :
    tree.prefolded.initializer? id =
      (tree.initializer? id).map fun _ => .string (tree.textOf id) := by
  rw [initializer?, constant?_prefolded, initializer?]
  cases h : tree.constant? id with
  | none => rfl
  | some c =>
    obtain ⟨t, -, hc⟩ := Option.bind_eq_some_iff.1 h
    have hname : c.name = id.field := by simpa using List.find?_some hc
    rw [Option.map_some, Option.bind_some, Option.bind_some, Constant.folded?_prefolded, hname,
      SymbolId.ofParts_owner_field]

end SyntaxTree

end Constants

/-! ## What folding and scanning see of it -/

namespace Expr

/-- A name is folded alike however it is written. -/
theorem fold_reference (tree : SyntaxTree) (name : String) (id : SymbolId) :
    (reference name (some id)).fold tree = tree.textOf id := by
  rw [SyntaxTree.textOf, fold, fold, foldIn, foldIn, expand_reference, expand_reference,
    if_neg List.not_mem_nil, if_neg List.not_mem_nil]
  cases tree.initializer? id with
  | none => simp
  | some init => rfl

theorem textOf_prefolded (tree : SyntaxTree) (id : SymbolId) :
    tree.prefolded.textOf id = tree.textOf id := by
  cases h : tree.initializer? id with
  | none =>
    have h' : tree.prefolded.initializer? id = none := by
      rw [SyntaxTree.initializer?_prefolded, h]
      rfl
    rw [SyntaxTree.textOf, SyntaxTree.textOf, fold, fold, foldIn, foldIn,
      expand_unfollowed List.not_mem_nil h, expand_unfollowed List.not_mem_nil h']
    simp
  | some init =>
    have h' : tree.prefolded.initializer? id = some (.string (tree.textOf id)) := by
      rw [SyntaxTree.initializer?_prefolded, h]
      rfl
    rw [SyntaxTree.textOf, fold, foldIn, expand_followed List.not_mem_nil h', ← foldIn,
      foldIn_string]

/-- Every name in an expression is folded with an empty stack, and so was the text in its place. -/
theorem fold_prefolded (tree : SyntaxTree) (e : Expr) : e.fold tree.prefolded = e.fold tree := by
  induction e using structuralInduction with
  | literal | array | other => simp [fold, foldIn]
  | concat left right ihl ihr =>
    have hl : left.foldIn tree.prefolded [] = left.foldIn tree [] := ihl
    have hr : right.foldIn tree.prefolded [] = right.foldIn tree [] := ihr
    rw [fold, fold, foldIn_concat, foldIn_concat, hl, hr]
  | polyadic es ih =>
    rw [fold, fold, foldIn_polyadic, foldIn_polyadic]
    exact congrArg String.join (List.map_congr_left ih)
  | reference name target =>
    cases target with
    | none => simp [fold, foldIn]
    | some id => rw [fold_reference, fold_reference, textOf_prefolded]

end Expr

/-- **Constants may be folded ahead of time.**  When each constant that a name can stand for is
initialized with its text, names lead to string literals only, every expression stands for the text
that it stood for, and every scan gives the same report. -/
theorem scan_prefolded (tree : SyntaxTree) :
    (∀ id, tree.prefolded.initializer? id =
      (tree.initializer? id).map fun _ => .string (tree.textOf id)) ∧
    (∀ e : Expr, e.fold tree.prefolded = e.fold tree) ∧
    ∀ config, tree.prefolded.scan config = tree.scan config := by
  refine ⟨tree.initializer?_prefolded, Expr.fold_prefolded tree, fun config => ?_⟩
  have hread : tree.Corresponds (TypeDecl.ReadAlike config tree tree.prefolded) tree.prefolded := by
    refine SyntaxTree.corresponds_mapTypes fun t => ?_
    have hself : t.ReadAlike config tree tree.prefolded t :=
      TypeDecl.readAlike_self fun e _ => (Expr.fold_prefolded tree e).symm
    -- the constants, in which the types differ, are no part of what is read
    exact ⟨hself.qualifiedName, hself.classMappings, hself.methods⟩
  have hissues : tree.Corresponds (fun t t' => ∀ k, t.issues k = t'.issues k) tree.prefolded :=
    SyntaxTree.corresponds_mapTypes fun t k => rfl
  exact (scan_congr hread hissues).symm

end RouteAtlas
