import RouteAtlas.Proofs.Folding.References

/-!
# RouteAtlas.Proofs.Folding.Substitution — folding as substitution

`Denotes` reads an expression without any stack: a name stands for what the initializer of its
constant stands for.  A name on a cycle stands for nothing.  The main statement is that the stack is
not noticed where no cycle is reachable.
-/

namespace RouteAtlas.Expr

/-- The text that an expression stands for when names are replaced by initializers. -/
inductive Denotes (tree : SyntaxTree) : Expr → String → Prop
  | value (raw : String) (v : Literal) : Denotes tree (.literal raw (some v)) v.display
  | raw (raw : String) : Denotes tree (.literal raw none) (unquote raw)
  | concat {left right : Expr} {s t : String} :
    Denotes tree left s → Denotes tree right t → Denotes tree (.concat left right) (s ++ t)
  | empty : Denotes tree (.polyadic []) ""
  | operand {e : Expr} {es : List Expr} {s t : String} :
    Denotes tree e s → Denotes tree (.polyadic es) t → Denotes tree (.polyadic (e :: es)) (s ++ t)
  | unresolved (name : String) : Denotes tree (.reference name none) ""
  | unfollowed {name : String} {id : SymbolId} :
    tree.initializer? id = none → Denotes tree (.reference name (some id)) ""
  | followed {name : String} {id : SymbolId} {init : Expr} {s : String} :
    tree.initializer? id = some init → Denotes tree init s →
    Denotes tree (.reference name (some id)) s
  | array (es : List Expr) : Denotes tree (.array es) ""
  | other (text : String) : Denotes tree (.other text) ""

variable {tree : SyntaxTree}

/-- An expression stands for one text at most. -/
theorem Denotes.unique {e : Expr} {s t : String} (hs : Denotes tree e s) (ht : Denotes tree e t) :
    s = t := by
  induction hs generalizing t with
  | value | raw | empty | unresolved | array | other => cases ht; rfl
  | concat _ _ ihl ihr =>
    cases ht with
    | concat hl hr => rw [ihl hl, ihr hr]
  | operand _ _ ihe ihes =>
    cases ht with
    | operand he hes => rw [ihe he, ihes hes]
  | unfollowed hnone =>
    cases ht with
    | unfollowed => rfl
    | followed hsome _ => rw [hnone] at hsome; cases hsome
  | followed hinit _ ih =>
    cases ht with
    | unfollowed hnone => rw [hinit] at hnone; cases hnone
    | followed hsome hd =>
      rw [hinit] at hsome
      cases hsome
      exact ih hd

theorem denotes_polyadic {stack : List SymbolId} : ∀ {es : List Expr},
    (∀ e ∈ es, Denotes tree e (e.foldIn tree stack)) →
    Denotes tree (.polyadic es) ((polyadic es).foldIn tree stack)
  | [], _ => by
    rw [foldIn_polyadic_nil]
    exact .empty
  | e :: es, h => by
    rw [foldIn_polyadic_cons]
    exact .operand (h e List.mem_cons_self)
      (denotes_polyadic fun x hx => h x (List.mem_cons_of_mem e hx))

/-- Without cycles, folding inside constants that cannot be met again is substitution. -/
theorem denotes_foldIn {stack : List SymbolId} {e : Expr} (hacyclic : tree.AcyclicFrom e)
    (hstack : ∀ id ∈ stack, ¬ tree.Reachable e id) : Denotes tree e (e.foldIn tree stack) := by
  induction stack, e using foldingInduction tree with
  | literal stack raw value =>
    cases value with
    | none => simpa [foldIn, Piece.text] using Denotes.raw raw
    | some v => simpa [foldIn, Piece.text] using Denotes.value raw v
  | concat stack left right ihl ihr =>
    rw [foldIn_concat]
    exact .concat
      (ihl (fun id hid => hacyclic id hid.concat_left)
        fun id hid hr => hstack id hid hr.concat_left)
      (ihr (fun id hid => hacyclic id hid.concat_right)
        fun id hid hr => hstack id hid hr.concat_right)
  | polyadic stack es ih =>
    refine denotes_polyadic fun e he => ?_
    exact ih e he (fun id hid => hacyclic id (hid.operand he))
      fun id hid hr => hstack id hid (hr.operand he)
  | unresolved stack name => simpa [foldIn, Piece.text] using Denotes.unresolved name
  | cyclic stack name id hid => exact absurd (SyntaxTree.reachable_target name id) (hstack id hid)
  | unfollowed stack name id hid hinit =>
    have htext : (reference name (some id)).foldIn tree stack = "" := by
      simp [foldIn, expand_unfollowed hid hinit]
    rw [htext]
    exact .unfollowed hinit
  | followed stack name id init hid hinit ih =>
    have htext : (reference name (some id)).foldIn tree stack = init.foldIn tree (id :: stack) := by
      rw [foldIn, foldIn, expand_followed hid hinit]
    rw [htext]
    refine .followed hinit (ih (fun x hx => hacyclic x (hx.initializer hinit)) fun x hx hr => ?_)
    -- the name just pushed is out of reach because its constant is on no cycle
    rcases List.mem_cons.1 hx with rfl | hx
    · exact hacyclic.not_reachable_self hinit hr
    · exact hstack x hx (hr.initializer hinit)
  | array stack es => simpa [foldIn, Piece.text] using Denotes.array es
  | other stack text => simpa [foldIn, Piece.text] using Denotes.other text

/-- **The stack is not noticed without a cycle.**  Names on it that cannot be reached from an
expression do not change its text, and where no cycle is reachable the text is the one that
substitution gives. -/
theorem fold_without_cycles (tree : SyntaxTree) (e : Expr) :
    (∀ stack : List SymbolId, (∀ id ∈ stack, ¬ tree.Reachable e id) →
      e.foldIn tree stack = e.fold tree) ∧
    (tree.AcyclicFrom e → ∀ text, Denotes tree e text ↔ e.fold tree = text) := by
  constructor
  · intro stack hstack
    rw [fold, foldIn, foldIn, expand_eq_of_unreachable hstack]
  · intro hacyclic text
    have hfold : Denotes tree e (e.fold tree) :=
      denotes_foldIn hacyclic fun id hid => absurd hid List.not_mem_nil
    constructor
    · intro htext
      exact hfold.unique htext
    · rintro rfl
      exact hfold

/-- The constants `A = B + C`, `B = "b" + D`, `C = D + "c"` and `D = "d"` of a type `Paths`. -/
def diamondTree : SyntaxTree :=
  .ofConstants "Paths"
    [{ name := "A"
       initializer := some (.concat (.reference "B" (some (.ofParts "Paths" "B")))
        (.reference "C" (some (.ofParts "Paths" "C")))) },
      { name := "B"
        initializer := some (.concat (.string "b") (.reference "D" (some (.ofParts "Paths" "D")))) },
      { name := "C"
        initializer := some (.polyadic [.reference "D" (some (.ofParts "Paths" "D")), .string "c"]) },
      { name := "D", initializer := some (.string "d") }]

/-- How deep the names below a name of `diamondTree` go. -/
def diamondRank (id : SymbolId) : Nat :=
  if id.field = "A" then 2 else if id.field = "D" then 0 else 1

theorem diamondRank_lt {id other : SymbolId} (h : diamondTree.RefersTo id other) :
    diamondRank other < diamondRank id ∧ other ≠ .ofParts "Paths" "A" := by
  obtain ⟨init, hinit, hother⟩ := h
  have hall : ∀ x ∈ diamondTree.symbols, ∀ y ∈ (diamondTree.initializer? x).elim [] targets,
      diamondRank y < diamondRank x ∧ y ≠ .ofParts "Paths" "A" := by decide
  refine hall id (SyntaxTree.mem_symbols_of_initializer? hinit) other ?_
  rw [hinit]
  exact hother

/-- Inside `A` the constants `B` and `C` may both go through `D`, which is no cycle. -/
theorem fold_without_cycles_diamond :
    let a := SymbolId.ofParts "Paths" "A"
    let e : Expr :=
      .concat (.reference "B" (some (.ofParts "Paths" "B")))
        (.reference "C" (some (.ofParts "Paths" "C")))
    ¬ diamondTree.Reachable e a ∧ diamondTree.AcyclicFrom e ∧
      e.foldIn diamondTree [a] = e.fold diamondTree ∧ e.fold diamondTree = "bddc" := by
  intro a e
  have hunreachable : ¬ diamondTree.Reachable e a := by
    rintro ⟨t, ht, hpath⟩
    rcases hpath.cases_tail with rfl | ⟨x, -, hx⟩
    · exact absurd ht (by decide)
    · exact (diamondRank_lt hx).2 rfl
  have hacyclic : diamondTree.AcyclicFrom e :=
    SyntaxTree.acyclicFrom_of_rank diamondRank (fun _ _ h => (diamondRank_lt h).1) e
  obtain ⟨hstack, hfold⟩ := fold_without_cycles diamondTree e
  refine ⟨hunreachable, hacyclic, hstack [a] ?_, ?_⟩
  · intro id hid
    rw [List.mem_singleton.1 hid]
    exact hunreachable
  · have hd : Denotes diamondTree (.reference "D" (some (.ofParts "Paths" "D"))) "d" :=
      .followed rfl (.value _ _)
    have hb : Denotes diamondTree (.reference "B" (some (.ofParts "Paths" "B"))) "bd" :=
      .followed rfl (.concat (.value _ _) hd)
    have hc : Denotes diamondTree (.reference "C" (some (.ofParts "Paths" "C"))) "dc" :=
      .followed rfl (.operand hd (.operand (.value _ _) .empty))
    exact (hfold hacyclic "bddc").1 (.concat hb hc)

end RouteAtlas.Expr
