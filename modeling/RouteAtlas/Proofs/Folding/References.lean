import Mathlib.Data.List.Basic
import Mathlib.Logic.Relation
import RouteAtlas.Proofs.Folding.Cases

/-!
# RouteAtlas.Proofs.Folding.References — which constants a folding can meet

An expression refers to the constants that its names mean, and a constant to those that its
initializer refers to.  The main statement is `expand_congr`: folding depends on the stack only
through the names that are reachable from the expression.
-/

namespace RouteAtlas

namespace Expr

mutual

/-- The constants that the names of an expression mean; lists in braces are not looked into. -/
def targets : Expr → List SymbolId
  | literal .. => []
  | concat left right => left.targets ++ right.targets
  | polyadic operands => targetsAll operands
  | reference _ target => target.toList
  | array _ => []
  | other _ => []

/-- The constants that the names of expressions mean. -/
def targetsAll : List Expr → List SymbolId
  | [] => []
  | e :: es => e.targets ++ targetsAll es

end

theorem targetsAll_eq_flatMap (es : List Expr) : targetsAll es = es.flatMap targets := by
  induction es with
  | nil => rfl
  | cons e es ih => rw [targetsAll, ih, List.flatMap_cons]

@[simp] theorem targets_polyadic (es : List Expr) :
    (polyadic es).targets = es.flatMap targets := targetsAll_eq_flatMap es

end Expr

namespace SyntaxTree

open Relation

/-- The constant is followed to an initializer that names the other one. -/
def RefersTo (tree : SyntaxTree) (id other : SymbolId) : Prop :=
  ∃ init, tree.initializer? id = some init ∧ other ∈ init.targets

/-- The constant is named in the expression or in an initializer that its names lead to. -/
def Reachable (tree : SyntaxTree) (e : Expr) (id : SymbolId) : Prop :=
  ∃ t ∈ e.targets, ReflTransGen tree.RefersTo t id

/-- No constant that is reachable from the expression leads back to itself. -/
def AcyclicFrom (tree : SyntaxTree) (e : Expr) : Prop :=
  ∀ id, tree.Reachable e id → ¬ TransGen tree.RefersTo id id

variable {tree : SyntaxTree}

/-! ### What is reachable from the parts of an expression -/

theorem Reachable.of_targets_subset {e e' : Expr} {id : SymbolId} (h : tree.Reachable e id)
    (hsub : e.targets ⊆ e'.targets) : tree.Reachable e' id := by
  obtain ⟨t, ht, hpath⟩ := h
  exact ⟨t, hsub ht, hpath⟩

theorem Reachable.concat_left {left right : Expr} {id : SymbolId} (h : tree.Reachable left id) :
    tree.Reachable (.concat left right) id :=
  h.of_targets_subset (List.subset_append_left _ _)

theorem Reachable.concat_right {left right : Expr} {id : SymbolId} (h : tree.Reachable right id) :
    tree.Reachable (.concat left right) id :=
  h.of_targets_subset (List.subset_append_right _ _)

theorem Reachable.operand {e : Expr} {es : List Expr} {id : SymbolId} (he : e ∈ es)
    (h : tree.Reachable e id) : tree.Reachable (.polyadic es) id := by
  refine h.of_targets_subset fun x hx => ?_
  rw [Expr.targets_polyadic]
  exact List.mem_flatMap.2 ⟨e, he, hx⟩

theorem reachable_target (name : String) (id : SymbolId) :
    tree.Reachable (.reference name (some id)) id :=
  ⟨id, List.mem_singleton_self id, .refl⟩

theorem Reachable.initializer {name : String} {id other : SymbolId} {init : Expr}
    (hinit : tree.initializer? id = some init) (h : tree.Reachable init other) :
    tree.Reachable (.reference name (some id)) other := by
  obtain ⟨t, ht, hpath⟩ := h
  exact ⟨id, List.mem_singleton_self id, .head ⟨init, hinit, ht⟩ hpath⟩

/-- Without a cycle the initializer of a constant does not lead back to the constant. -/
theorem AcyclicFrom.not_reachable_self {name : String} {id : SymbolId} {init : Expr}
    (h : tree.AcyclicFrom (.reference name (some id))) (hinit : tree.initializer? id = some init) :
    ¬ tree.Reachable init id := by
  rintro ⟨t, ht, hpath⟩
  exact h id (reachable_target name id) (.head' ⟨init, hinit, ht⟩ hpath)

/-- A rank that falls along every reference rules cycles out. -/
theorem acyclicFrom_of_rank (rank : SymbolId → Nat)
    (hrank : ∀ id other, tree.RefersTo id other → rank other < rank id) (e : Expr) :
    tree.AcyclicFrom e := by
  intro id _ hcycle
  have hlt : ∀ {a b}, TransGen tree.RefersTo a b → rank b < rank a := by
    intro a b hab
    induction hab with
    | single hstep => exact hrank _ _ hstep
    | tail _ hstep ih => exact Nat.lt_trans (hrank _ _ hstep) ih
  exact Nat.lt_irrefl _ (hlt hcycle)

end SyntaxTree

namespace Expr

variable {tree : SyntaxTree}

/-- **Folding sees of the stack** only the names that are reachable from the expression. -/
theorem expand_congr {stack : List SymbolId} {e : Expr} : ∀ {stack' : List SymbolId},
    (∀ id, tree.Reachable e id → (id ∈ stack ↔ id ∈ stack')) →
    e.expand tree stack = e.expand tree stack' := by
  induction stack, e using foldingInduction tree with
  | literal | unresolved | array | other => intros; simp
  | concat stack left right ihl ihr =>
    intro stack' h
    rw [expand_concat, expand_concat, ihl fun id hid => h id hid.concat_left,
      ihr fun id hid => h id hid.concat_right]
  | polyadic stack es ih =>
    intro stack' h
    rw [expand_polyadic, expand_polyadic]
    apply List.flatMap_congr
    intro e he
    exact ih e he fun id hid => h id (hid.operand he)
  | cyclic stack name id hid =>
    intro stack' h
    rw [expand_cyclic hid, expand_cyclic ((h id (SyntaxTree.reachable_target name id)).1 hid)]
  | unfollowed stack name id hid hinit =>
    intro stack' h
    have hid' : id ∉ stack' := fun hmem => hid ((h id (SyntaxTree.reachable_target name id)).2 hmem)
    rw [expand_unfollowed hid hinit, expand_unfollowed hid' hinit]
  | followed stack name id init hid hinit ih =>
    intro stack' h
    have hid' : id ∉ stack' := fun hmem => hid ((h id (SyntaxTree.reachable_target name id)).2 hmem)
    rw [expand_followed hid hinit, expand_followed hid' hinit]
    refine ih fun other hother => ?_
    have hiff := h other (hother.initializer hinit)
    rw [List.mem_cons, List.mem_cons, hiff]

/-- A stack that the expression cannot meet is as good as none. -/
theorem expand_eq_of_unreachable {stack : List SymbolId} {e : Expr}
    (h : ∀ id ∈ stack, ¬ tree.Reachable e id) : e.expand tree stack = e.expand tree [] := by
  refine expand_congr fun id hid => ⟨fun hmem => absurd hid (h id hmem), fun hmem => ?_⟩
  exact absurd hmem List.not_mem_nil

end Expr

end RouteAtlas
