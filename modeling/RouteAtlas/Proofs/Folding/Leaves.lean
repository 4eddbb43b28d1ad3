import RouteAtlas.Proofs.Folding.References

/-!
# RouteAtlas.Proofs.Folding.Leaves — what folding sees of expressions and trees

The leaves of an expression are what its concatenations are made of.  Folding sees of an expression
only its leaves, and of a tree only the leaves of the initializers that it can reach.  The main
statement is `expand_eq_of_agreesAt`: trees that agree at all constants that are reachable from an
expression fold it alike.
-/

namespace RouteAtlas

namespace Expr

/-- Induction over an expression, from the operands of concatenations and the elements of lists. -/
@[elab_as_elim]
theorem structuralInduction {motive : Expr → Prop}
    (literal : ∀ raw value, motive (.literal raw value))
    (concat : ∀ left right, motive left → motive right → motive (.concat left right))
    (polyadic : ∀ es, (∀ e ∈ es, motive e) → motive (.polyadic es))
    (reference : ∀ name target, motive (.reference name target))
    (array : ∀ es, (∀ e ∈ es, motive e) → motive (.array es))
    (other : ∀ text, motive (.other text)) (e : Expr) : motive e := by
  refine @Expr.rec motive (fun es => ∀ e ∈ es, motive e) literal concat polyadic reference array
    other ?_ ?_ e
  · intro e he
    cases he
  · intro e es he hes x hx
    rcases List.mem_cons.1 hx with rfl | hx
    · exact he
    · exact hes x hx

mutual

/-- What the concatenations in an expression are made of, in order. -/
def leaves : Expr → List Expr
  | concat left right => left.leaves ++ right.leaves
  | polyadic operands => leavesAll operands
  | literal raw value => [literal raw value]
  | reference name target => [reference name target]
  | array elements => [array elements]
  | other text => [other text]

/-- The leaves of expressions one after the other. -/
def leavesAll : List Expr → List Expr
  | [] => []
  | e :: es => e.leaves ++ leavesAll es

end

theorem leavesAll_eq_flatMap (es : List Expr) : leavesAll es = es.flatMap leaves := by
  induction es with
  | nil => rfl
  | cons e es ih => rw [leavesAll, ih, List.flatMap_cons]

@[simp] theorem leaves_polyadic (es : List Expr) : (polyadic es).leaves = es.flatMap leaves :=
  leavesAll_eq_flatMap es

/-- Folding arrives at the pieces of the leaves, whatever concatenations they stand in. -/
theorem expand_eq_flatMap_leaves (tree : SyntaxTree) (stack : List SymbolId) (e : Expr) :
    e.expand tree stack = e.leaves.flatMap (·.expand tree stack) := by
  induction e using structuralInduction with
  | literal | reference | array | other => simp [leaves]
  | concat left right ihl ihr =>
    rw [expand_concat, leaves, List.flatMap_append, ihl, ihr]
  | polyadic es ih =>
    rw [expand_polyadic, leaves_polyadic, List.flatMap_assoc]
    apply List.flatMap_congr
    intro e he
    exact ih e he

theorem expand_eq_of_leaves_eq (tree : SyntaxTree) (stack : List SymbolId) {e e' : Expr}
    (h : e.leaves = e'.leaves) : e.expand tree stack = e'.expand tree stack := by
  rw [expand_eq_flatMap_leaves, h, ← expand_eq_flatMap_leaves]

end Expr

namespace SyntaxTree

/-- The trees agree at a symbol: they declare its constant or do not, and what its name is followed
to has the same leaves. -/
structure AgreesAt (tree tree' : SyntaxTree) (id : SymbolId) : Prop where
  declared : (tree.constant? id).isSome = (tree'.constant? id).isSome
  leaves : (tree.initializer? id).map Expr.leaves = (tree'.initializer? id).map Expr.leaves

variable {tree tree' : SyntaxTree} {id : SymbolId}

/-- Constants that are followed to the same leaves make the trees agree. -/
theorem AgreesAt.of_rel {R : Constant → Constant → Prop}
    (hR : ∀ c c', R c c' → c.folded?.map Expr.leaves = c'.folded?.map Expr.leaves)
    (h : Option.Rel R (tree.constant? id) (tree'.constant? id)) : tree.AgreesAt tree' id := by
  generalize hc : tree.constant? id = c? at h
  generalize hc' : tree'.constant? id = c?' at h
  cases h with
  | none =>
    constructor
    · rw [hc, hc']
    · rw [initializer?, initializer?, hc, hc']
  | some hcc =>
    constructor
    · rw [hc, hc']
      rfl
    · rw [initializer?, initializer?, hc, hc']
      exact hR _ _ hcc

theorem AgreesAt.of_constant?_eq (h : tree.constant? id = tree'.constant? id) :
    tree.AgreesAt tree' id := by
  constructor
  · rw [h]
  · rw [initializer?, initializer?, h]

/-- Of a name that is not followed, folding sees whether its constant is declared. -/
theorem unfollowed_eq_ite (tree : SyntaxTree) (name : String) (id : SymbolId) :
    tree.unfollowed name id =
      if (tree.constant? id).isSome then .textless else .undeclared name id := by
  unfold unfollowed
  cases tree.constant? id with
  | none => rfl
  | some c => rfl

theorem AgreesAt.unfollowed_eq (h : tree.AgreesAt tree' id) (name : String) :
    tree.unfollowed name id = tree'.unfollowed name id := by
  rw [unfollowed_eq_ite, unfollowed_eq_ite, h.declared]

theorem AgreesAt.initializer?_eq_none (h : tree.AgreesAt tree' id)
    (hinit : tree.initializer? id = none) : tree'.initializer? id = none := by
  have hleaves := h.leaves
  rw [hinit] at hleaves
  exact Option.map_eq_none_iff.1 hleaves.symm

theorem AgreesAt.exists_initializer? (h : tree.AgreesAt tree' id) {init : Expr}
    (hinit : tree.initializer? id = some init) :
    ∃ init', tree'.initializer? id = some init' ∧ init'.leaves = init.leaves := by
  have hleaves := h.leaves
  rw [hinit] at hleaves
  exact Option.map_eq_some_iff.1 hleaves.symm

end SyntaxTree

namespace Expr

variable {tree tree' : SyntaxTree}

/-- **Folding sees of a tree** only the leaves of the initializers that can be reached. -/
theorem expand_eq_of_agreesAt {stack : List SymbolId} {e : Expr} :
    (∀ id, tree.Reachable e id → tree.AgreesAt tree' id) →
    e.expand tree stack = e.expand tree' stack := by
  induction stack, e using foldingInduction tree with
  | literal | unresolved | array | other => intros; simp
  | concat stack left right ihl ihr =>
    intro h
    rw [expand_concat, expand_concat, ihl fun id hid => h id hid.concat_left,
      ihr fun id hid => h id hid.concat_right]
  | polyadic stack es ih =>
    intro h
    rw [expand_polyadic, expand_polyadic]
    apply List.flatMap_congr
    intro e he
    exact ih e he fun id hid => h id (hid.operand he)
  | cyclic stack name id hid =>
    intro _
    rw [expand_cyclic hid, expand_cyclic hid]
  | unfollowed stack name id hid hinit =>
    intro h
    have hagree := h id (SyntaxTree.reachable_target name id)
    rw [expand_unfollowed hid hinit, expand_unfollowed hid (hagree.initializer?_eq_none hinit),
      hagree.unfollowed_eq]
  | followed stack name id init hid hinit ih =>
    intro h
    have hagree := h id (SyntaxTree.reachable_target name id)
    obtain ⟨init', hinit', hleaves⟩ := hagree.exists_initializer? hinit
    -- the other tree enters an initializer of its own, which has the same leaves
    rw [expand_followed hid hinit, expand_followed hid hinit',
      expand_eq_of_leaves_eq tree' _ hleaves]
    exact ih fun other hother => h other (hother.initializer hinit)

theorem foldIn_eq_of_agreesAt {stack : List SymbolId} {e : Expr}
    (h : ∀ id, tree.Reachable e id → tree.AgreesAt tree' id) :
    e.foldIn tree stack = e.foldIn tree' stack := by
  rw [foldIn, foldIn, expand_eq_of_agreesAt h]

end Expr

end RouteAtlas
