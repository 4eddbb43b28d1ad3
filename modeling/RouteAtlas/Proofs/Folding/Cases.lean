import RouteAtlas.Folding

/-!
# RouteAtlas.Proofs.Folding.Cases — what folding does at each kind of expression

A name is met again inside its constant, or it is not followed, or it is followed to the initializer
of its constant.  `expand_reference` states the three cases as one equation, and `foldingInduction`
is the induction over a folding that goes with it.
-/

namespace RouteAtlas

namespace SyntaxTree

/-- A tree that declares the constants in one type. -/
def ofConstants (owner : String) (constants : List Constant) : SyntaxTree :=
  ⟨[{ types := [{ qualifiedName := owner, constants }] }]⟩

/-- The initializer that a name of the constant is followed to. -/
def initializer? (tree : SyntaxTree) (id : SymbolId) : Option Expr :=
  (tree.constant? id).bind (·.folded?)

/-- What folding arrives at where a name is not followed. -/
def unfollowed (tree : SyntaxTree) (name : String) (id : SymbolId) : Piece :=
  match tree.constant? id with
  | none => .undeclared name id
  | some _ => .textless

variable {tree : SyntaxTree} {id : SymbolId}

theorem initializer?_eq_some_iff {init : Expr} :
    tree.initializer? id = some init ↔
      ∃ c, tree.constant? id = some c ∧ c.initializer = some init ∧ init.isFoldable = true := by
  simp only [initializer?, Constant.folded?, Option.bind_eq_some_iff, Option.filter_eq_some_iff]

/-- Only declared constants are followed. -/
theorem mem_symbols_of_initializer? {init : Expr} (h : tree.initializer? id = some init) :
    id ∈ tree.symbols := by
  obtain ⟨c, hc, -, -⟩ := initializer?_eq_some_iff.1 h
  exact mem_symbols_of_constant? hc

@[simp] theorem text_unfollowed (tree : SyntaxTree) (name : String) (id : SymbolId) :
    (tree.unfollowed name id).text = "" := by
  unfold unfollowed
  split <;> rfl

end SyntaxTree

namespace Expr

/-- The name of a constant of a type `Paths`. -/
def pathsReference (name : String) : Expr := .reference name (some (.ofParts "Paths" name))

variable (tree : SyntaxTree) (stack : List SymbolId)

/-! ## What folding arrives at -/

@[simp] theorem expand_literal (raw : String) (value : Option Literal) :
    (literal raw value).expand tree stack = [.literal raw value] := by
  rw [expand]

@[simp] theorem expand_concat (left right : Expr) :
    (concat left right).expand tree stack = left.expand tree stack ++ right.expand tree stack := by
  rw [expand]

@[simp] theorem expand_polyadic (es : List Expr) :
    (polyadic es).expand tree stack = es.flatMap (·.expand tree stack) := by
  rw [expand, expandAll_eq_flatMap]

@[simp] theorem expand_unresolved (name : String) :
    (reference name none).expand tree stack = [.unresolved name] := by
  rw [expand]

@[simp] theorem expand_array (es : List Expr) :
    (array es).expand tree stack = [.textless] := by
  rw [expand]

@[simp] theorem expand_other (text : String) :
    (other text).expand tree stack = [.textless] := by
  rw [expand]

/-- A name is followed unless it is on the stack or has no initializer to follow. -/
theorem expand_reference (name : String) (id : SymbolId) :
    (reference name (some id)).expand tree stack =
      if id ∈ stack then [.cyclic name id]
      else
        match tree.initializer? id with
        | none => [tree.unfollowed name id]
        | some init => init.expand tree (id :: stack) := by
  rw [expand]
  by_cases hid : id ∈ stack
  · rw [dif_pos hid, if_pos hid]
  · rw [dif_neg hid, if_neg hid]
    unfold SyntaxTree.initializer? SyntaxTree.unfollowed
    split
    next hc => rw [hc]; rfl
    next c hc =>
      rw [hc]
      cases hinit : c.folded? with
      | none => simp [hinit]
      | some init => simp [hinit]

variable {tree stack}

theorem expand_cyclic {name : String} {id : SymbolId} (hid : id ∈ stack) :
    (reference name (some id)).expand tree stack = [.cyclic name id] := by
  rw [expand_reference, if_pos hid]

theorem expand_unfollowed {name : String} {id : SymbolId} (hid : id ∉ stack)
    (h : tree.initializer? id = none) :
    (reference name (some id)).expand tree stack = [tree.unfollowed name id] := by
  rw [expand_reference, if_neg hid, h]

theorem expand_followed {name : String} {id : SymbolId} {init : Expr} (hid : id ∉ stack)
    (h : tree.initializer? id = some init) :
    (reference name (some id)).expand tree stack = init.expand tree (id :: stack) := by
  rw [expand_reference, if_neg hid, h]

/-- Induction over a folding: an expression is reached from the parts of it that are folded with the
same stack, and a name that is followed from the initializer, folded with the name on the stack. -/
@[elab_as_elim]
theorem foldingInduction (tree : SyntaxTree) {motive : List SymbolId → Expr → Prop}
    (literal : ∀ stack raw value, motive stack (.literal raw value))
    (concat : ∀ stack left right, motive stack left → motive stack right →
      motive stack (.concat left right))
    (polyadic : ∀ stack es, (∀ e ∈ es, motive stack e) → motive stack (.polyadic es))
    (unresolved : ∀ stack name, motive stack (.reference name none))
    (cyclic : ∀ stack name id, id ∈ stack → motive stack (.reference name (some id)))
    (unfollowed : ∀ stack name id, id ∉ stack → tree.initializer? id = none →
      motive stack (.reference name (some id)))
    (followed : ∀ stack name id init, id ∉ stack → tree.initializer? id = some init →
      motive (id :: stack) init → motive stack (.reference name (some id)))
    (array : ∀ stack es, motive stack (.array es))
    (other : ∀ stack text, motive stack (.other text))
    (stack : List SymbolId) (e : Expr) : motive stack e := by
  refine expand.induct tree motive (fun stack es => ∀ e ∈ es, motive stack e) literal concat
    polyadic unresolved cyclic ?_ ?_ ?_ array other ?_ ?_ stack e
  · intro stack name id hid hc
    exact unfollowed stack name id hid (by rw [SyntaxTree.initializer?, hc]; rfl)
  · intro stack name id hid c hc hinit
    exact unfollowed stack name id hid (by rw [SyntaxTree.initializer?, hc]; exact hinit)
  · intro stack name id hid c hc init hinit ih
    exact followed stack name id init hid (by rw [SyntaxTree.initializer?, hc]; exact hinit) ih
  · intro stack e he
    cases he
  · intro stack e es he hes x hx
    rcases List.mem_cons.1 hx with rfl | hx
    · exact he
    · exact hes x hx

/-! ## The text that comes of it -/

variable (tree stack)

@[simp] theorem foldIn_string (s : String) : (string s).foldIn tree stack = s := by
  simp [foldIn, string, Piece.text, Literal.display]

@[simp] theorem foldIn_concat (left right : Expr) :
    (concat left right).foldIn tree stack = left.foldIn tree stack ++ right.foldIn tree stack := by
  simp [foldIn]

@[simp] theorem foldIn_polyadic_nil : (polyadic []).foldIn tree stack = "" := by
  simp [foldIn]

@[simp] theorem foldIn_polyadic_cons (e : Expr) (es : List Expr) :
    (polyadic (e :: es)).foldIn tree stack =
      e.foldIn tree stack ++ (polyadic es).foldIn tree stack := by
  simp [foldIn]

theorem foldIn_polyadic (es : List Expr) :
    (polyadic es).foldIn tree stack = String.join (es.map (·.foldIn tree stack)) := by
  induction es with
  | nil => simp
  | cons e es ih => rw [foldIn_polyadic_cons, ih, List.map_cons, String.join_cons]

end Expr

end RouteAtlas
