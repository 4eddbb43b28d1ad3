import Mathlib.Data.List.Nodup
import RouteAtlas.Proofs.Folding.Cases

/-!
# RouteAtlas.Proofs.Folding.Steps — folding step by step

A machine that folds with one stack for all of its work: a name is pushed when it is followed and
popped when its initializer is done.  `reaches_of_call` states that every call hands its stack back
as it was given and arrives at the pieces of `expand`; `Inv` is what every state on the way keeps.
-/

namespace RouteAtlas.Folding

/-- A piece of work. -/
inductive Task where
  | fold (e : Expr)
  /-- Takes the name on top of the stack off it. -/
  | leave

/-- The work that an open name leaves behind. -/
def Task.isLeave : Task → Bool
  | fold _ => false
  | leave => true

/-- How many names are open: followed to an initializer that is not done yet. -/
def openNames (todo : List Task) : Nat := todo.countP Task.isLeave

@[simp] theorem openNames_fold (e : Expr) (rest : List Task) :
    openNames (.fold e :: rest) = openNames rest := rfl

@[simp] theorem openNames_leave (rest : List Task) :
    openNames (.leave :: rest) = openNames rest + 1 := List.countP_cons_of_pos rfl

@[simp] theorem openNames_folds (es : List Expr) (rest : List Task) :
    openNames (es.map .fold ++ rest) = openNames rest := by
  induction es with
  | nil => rfl
  | cons e es ih => rw [List.map_cons, List.cons_append, openNames_fold, ih]

/-- A state of the machine. -/
structure State where
  /-- What is still to do, the next task first. -/
  todo : List Task
  /-- The names that are being followed, the last one first. -/
  stack : List SymbolId
  /-- What folding has arrived at. -/
  pieces : List Piece

/-- The state before an expression is folded. -/
def start (e : Expr) : State := ⟨[.fold e], [], []⟩

/-- One step.  Without anything to do the state stays as it is. -/
def step (tree : SyntaxTree) : State → State
  | ⟨[], stack, pieces⟩ => ⟨[], stack, pieces⟩
  | ⟨.leave :: rest, stack, pieces⟩ => ⟨rest, stack.tail, pieces⟩
  | ⟨.fold (.literal raw value) :: rest, stack, pieces⟩ =>
    ⟨rest, stack, pieces ++ [.literal raw value]⟩
  | ⟨.fold (.concat left right) :: rest, stack, pieces⟩ =>
    ⟨.fold left :: .fold right :: rest, stack, pieces⟩
  | ⟨.fold (.polyadic es) :: rest, stack, pieces⟩ => ⟨es.map .fold ++ rest, stack, pieces⟩
  | ⟨.fold (.reference name none) :: rest, stack, pieces⟩ =>
    ⟨rest, stack, pieces ++ [.unresolved name]⟩
  | ⟨.fold (.reference name (some id)) :: rest, stack, pieces⟩ =>
    if id ∈ stack then ⟨rest, stack, pieces ++ [.cyclic name id]⟩
    else
      match tree.initializer? id with
      | none => ⟨rest, stack, pieces ++ [tree.unfollowed name id]⟩
      | some init => ⟨.fold init :: .leave :: rest, id :: stack, pieces⟩
  | ⟨.fold (.array _) :: rest, stack, pieces⟩ => ⟨rest, stack, pieces ++ [.textless]⟩
  | ⟨.fold (.other _) :: rest, stack, pieces⟩ => ⟨rest, stack, pieces ++ [.textless]⟩

section Step

variable {tree : SyntaxTree} {name : String} {id : SymbolId} {rest : List Task}
  {stack : List SymbolId} {pieces : List Piece}

theorem step_cyclic (hid : id ∈ stack) :
    step tree ⟨.fold (.reference name (some id)) :: rest, stack, pieces⟩ =
      ⟨rest, stack, pieces ++ [.cyclic name id]⟩ := by
  rw [step, if_pos hid]

theorem step_unfollowed (hid : id ∉ stack) (h : tree.initializer? id = none) :
    step tree ⟨.fold (.reference name (some id)) :: rest, stack, pieces⟩ =
      ⟨rest, stack, pieces ++ [tree.unfollowed name id]⟩ := by
  rw [step, if_neg hid, h]

theorem step_followed {init : Expr} (hid : id ∉ stack) (h : tree.initializer? id = some init) :
    step tree ⟨.fold (.reference name (some id)) :: rest, stack, pieces⟩ =
      ⟨.fold init :: .leave :: rest, id :: stack, pieces⟩ := by
  rw [step, if_neg hid, h]

end Step

/-- The state after a number of steps. -/
def run (tree : SyntaxTree) (s : State) : Nat → State
  | 0 => s
  | n + 1 => step tree (run tree s n)

variable {tree : SyntaxTree}

theorem run_add (s : State) (m n : Nat) : run tree s (m + n) = run tree (run tree s m) n := by
  induction n with
  | zero => rfl
  | succ n ih => rw [← Nat.add_assoc, run, ih, run]

theorem run_of_done (stack : List SymbolId) (pieces : List Piece) (n : Nat) :
    run tree ⟨[], stack, pieces⟩ n = ⟨[], stack, pieces⟩ := by
  induction n with
  | zero => rfl
  | succ n ih => rw [run, ih]; rfl

/-! ## Every call comes back -/

/-- Some number of steps leads from `s` to `r`. -/
def Reaches (tree : SyntaxTree) (s r : State) : Prop := ∃ n, run tree s n = r

theorem Reaches.refl (s : State) : Reaches tree s s := ⟨0, rfl⟩

theorem Reaches.single (s : State) : Reaches tree s (step tree s) := ⟨1, rfl⟩

theorem Reaches.trans {s r q : State} (h : Reaches tree s r) (h' : Reaches tree r q) :
    Reaches tree s q := by
  obtain ⟨m, rfl⟩ := h
  obtain ⟨n, rfl⟩ := h'
  exact ⟨m + n, run_add s m n⟩

/-- Calls one after the other come back when each of them does. -/
theorem reaches_of_calls {stack : List SymbolId} : ∀ {es : List Expr},
    (∀ e ∈ es, ∀ rest pieces, Reaches tree ⟨.fold e :: rest, stack, pieces⟩
      ⟨rest, stack, pieces ++ e.expand tree stack⟩) →
    ∀ rest pieces, Reaches tree ⟨es.map .fold ++ rest, stack, pieces⟩
      ⟨rest, stack, pieces ++ es.flatMap (·.expand tree stack)⟩
  | [], _, rest, pieces => by
    rw [List.flatMap_nil, List.append_nil]
    exact Reaches.refl _
  | e :: es, h, rest, pieces => by
    have hes := reaches_of_calls (fun x hx => h x (List.mem_cons_of_mem e hx)) rest
      (pieces ++ e.expand tree stack)
    rw [List.append_assoc, ← List.flatMap_cons] at hes
    exact (h e List.mem_cons_self _ _).trans hes

/-- **A call comes back** with the stack that it was given, at the pieces that `expand` lists. -/
theorem reaches_of_call (tree : SyntaxTree) (stack : List SymbolId) (e : Expr) : ∀ rest pieces,
    Reaches tree ⟨.fold e :: rest, stack, pieces⟩
      ⟨rest, stack, pieces ++ e.expand tree stack⟩ := by
  induction stack, e using Expr.foldingInduction tree with
  | literal stack raw value =>
    intro rest pieces
    rw [Expr.expand_literal]
    exact Reaches.single _
  | concat stack left right ihl ihr =>
    intro rest pieces
    have hl := ihl (.fold right :: rest) pieces
    have hr := ihr rest (pieces ++ left.expand tree stack)
    rw [List.append_assoc, ← Expr.expand_concat] at hr
    exact (Reaches.single _).trans (hl.trans hr)
  | polyadic stack es ih =>
    intro rest pieces
    rw [Expr.expand_polyadic]
    exact (Reaches.single _).trans (reaches_of_calls ih rest pieces)
  | unresolved stack name =>
    intro rest pieces
    rw [Expr.expand_unresolved]
    exact Reaches.single _
  | cyclic stack name id hid =>
    intro rest pieces
    rw [Expr.expand_cyclic hid]
    exact ⟨1, step_cyclic hid⟩
  | unfollowed stack name id hid h =>
    intro rest pieces
    rw [Expr.expand_unfollowed hid h]
    exact ⟨1, step_unfollowed hid h⟩
  | followed stack name id init hid h ih =>
    intro rest pieces
    have henter : Reaches tree ⟨.fold (.reference name (some id)) :: rest, stack, pieces⟩
        ⟨.fold init :: .leave :: rest, id :: stack, pieces⟩ := ⟨1, step_followed hid h⟩
    have hleave : Reaches tree
        ⟨.leave :: rest, id :: stack, pieces ++ init.expand tree (id :: stack)⟩
        ⟨rest, stack, pieces ++ init.expand tree (id :: stack)⟩ := Reaches.single _
    rw [Expr.expand_followed hid h]
    exact henter.trans ((ih _ _).trans hleave)
  | array stack es =>
    intro rest pieces
    rw [Expr.expand_array]
    exact Reaches.single _
  | other stack text =>
    intro rest pieces
    rw [Expr.expand_other]
    exact Reaches.single _

/-- Folding ends, with an empty stack and the pieces that `expand` lists. -/
theorem exists_run_eq_done (tree : SyntaxTree) (e : Expr) :
    ∃ n, ∀ m, n ≤ m → run tree (start e) m = ⟨[], [], e.expand tree []⟩ := by
  obtain ⟨n, hn⟩ := reaches_of_call tree [] e [] []
  refine ⟨n, fun m hm => ?_⟩
  obtain ⟨d, rfl⟩ := Nat.exists_eq_add_of_le hm
  rw [run_add, start, hn]
  exact run_of_done _ _ d

/-- A run that has nothing left to do has arrived at the pieces that `expand` lists. -/
theorem expand_eq_of_run {e : Expr} {n : Nat} {stack : List SymbolId} {pieces : List Piece}
    (h : run tree (start e) n = ⟨[], stack, pieces⟩) : e.expand tree [] = pieces := by
  obtain ⟨m, hm⟩ := exists_run_eq_done tree e
  have hdone := hm (n + m) (Nat.le_add_left m n)
  rw [run_add, h, run_of_done] at hdone
  cases hdone
  rfl

/-! ## What every state on the way keeps -/

/-- The names on the stack are distinct, they are followed, and they are the open ones. -/
structure Inv (tree : SyntaxTree) (s : State) : Prop where
  nodup : s.stack.Nodup
  followed : ∀ id ∈ s.stack, ∃ init, tree.initializer? id = some init
  openNames_eq : openNames s.todo = s.stack.length

theorem Inv.start (tree : SyntaxTree) (e : Expr) : Inv tree (start e) :=
  ⟨List.nodup_nil, fun _ hid => absurd hid List.not_mem_nil, rfl⟩

/-- Steps that neither push nor pop keep the invariant. -/
theorem Inv.of_stack_eq {s r : State} (h : Inv tree s) (hstack : r.stack = s.stack)
    (htodo : openNames r.todo = openNames s.todo) : Inv tree r := by
  refine ⟨?_, ?_, ?_⟩
  · rw [hstack]; exact h.nodup
  · rw [hstack]; exact h.followed
  · rw [htodo, hstack]; exact h.openNames_eq

/-- A name is pushed: the guard keeps the stack free of repetitions. -/
theorem Inv.push {name : String} {id : SymbolId} {init : Expr} {rest : List Task}
    {stack : List SymbolId} {pieces : List Piece}
    (h : Inv tree ⟨.fold (.reference name (some id)) :: rest, stack, pieces⟩) (hid : id ∉ stack)
    (hinit : tree.initializer? id = some init) :
    Inv tree ⟨.fold init :: .leave :: rest, id :: stack, pieces⟩ := by
  refine ⟨List.nodup_cons.2 ⟨hid, h.nodup⟩, fun x hx => ?_, ?_⟩
  · rcases List.mem_cons.1 hx with rfl | hx
    · exact ⟨init, hinit⟩
    · exact h.followed x hx
  · have hopen := h.openNames_eq
    simp only [openNames_fold] at hopen
    simp [hopen]

/-- The last open name is popped. -/
theorem Inv.pop {rest : List Task} {stack : List SymbolId} {pieces : List Piece}
    (h : Inv tree ⟨.leave :: rest, stack, pieces⟩) : Inv tree ⟨rest, stack.tail, pieces⟩ := by
  refine ⟨h.nodup.tail, fun x hx => h.followed x (List.mem_of_mem_tail hx), ?_⟩
  have hopen := h.openNames_eq
  simp only [openNames_leave] at hopen
  simp only [List.length_tail]
  omega

theorem Inv.step {s : State} (h : Inv tree s) : Inv tree (step tree s) := by
  obtain ⟨todo, stack, pieces⟩ := s
  cases todo with
  | nil => exact h
  | cons task rest =>
    cases task with
    | leave => exact h.pop
    | fold e =>
      cases e with
      | literal | array | other => exact h.of_stack_eq rfl rfl
      | concat left right => exact h.of_stack_eq rfl rfl
      | polyadic es => exact h.of_stack_eq rfl (openNames_folds es rest)
      | reference name target =>
        cases target with
        | none => exact h.of_stack_eq rfl rfl
        | some id =>
          by_cases hid : id ∈ stack
          · rw [step_cyclic hid]
            exact h.of_stack_eq rfl rfl
          · cases hinit : tree.initializer? id with
            | none =>
              rw [step_unfollowed hid hinit]
              exact h.of_stack_eq rfl rfl
            | some init =>
              rw [step_followed hid hinit]
              exact h.push hid hinit

theorem Inv.run {s : State} (h : Inv tree s) (n : Nat) : Inv tree (run tree s n) := by
  induction n with
  | zero => exact h
  | succ n ih => exact ih.step

/-- There are no more open names than declared constants. -/
theorem Inv.openNames_le {s : State} (h : Inv tree s) : openNames s.todo ≤ tree.symbols.length := by
  rw [h.openNames_eq]
  refine h.nodup.length_le_of_subset fun id hid => ?_
  obtain ⟨init, hinit⟩ := h.followed id hid
  exact SyntaxTree.mem_symbols_of_initializer? hinit

/-- **Folding ends**, whatever the constants of the tree refer to.  On the way the stack repeats no
name and holds only names of constants whose initializers can be folded, so no more names are open
than there are constants, and every call comes back with the stack that it was given. -/
theorem folding_ends (tree : SyntaxTree) (e : Expr) :
    (∃ n, ∀ m, n ≤ m → run tree (start e) m = ⟨[], [], e.expand tree []⟩) ∧
      ∀ s, Reaches tree (start e) s →
        s.stack.Nodup ∧
        (∀ id ∈ s.stack, ∃ c init, tree.constant? id = some c ∧ c.initializer = some init ∧
          init.isFoldable = true) ∧
        openNames s.todo = s.stack.length ∧
        openNames s.todo ≤ tree.symbols.length ∧
        ∀ call rest, s.todo = .fold call :: rest →
          Reaches tree s ⟨rest, s.stack, s.pieces ++ call.expand tree s.stack⟩ := by
  refine ⟨exists_run_eq_done tree e, ?_⟩
  rintro s ⟨k, rfl⟩
  have hinv := (Inv.start tree e).run k
  refine ⟨hinv.nodup, fun id hid => ?_, hinv.openNames_eq, hinv.openNames_le, ?_⟩
  · obtain ⟨init, hinit⟩ := hinv.followed id hid
    obtain ⟨c, hc, hci, hfold⟩ := SyntaxTree.initializer?_eq_some_iff.1 hinit
    exact ⟨c, init, hc, hci, hfold⟩
  · intro call rest hcall
    have hback := reaches_of_call tree (run tree (start e) k).stack call rest
      (run tree (start e) k).pieces
    rw [← hcall] at hback
    exact hback

/-- The constants `A = "a" + B` and `B = "b" + A` of a type `Paths`. -/
def mutualTree : SyntaxTree :=
  .ofConstants "Paths"
    [{ name := "A"
       initializer := some (.concat (.string "a") (.reference "B" (some (.ofParts "Paths" "B")))) },
      { name := "B"
        initializer := some (.concat (.string "b") (.reference "A" (some (.ofParts "Paths" "A")))) }]

/-- In a cycle of two constants both names are open when the first one is met again, and the call
for it leaves both on the stack. -/
theorem folding_ends_mutual :
    let a := SymbolId.ofParts "Paths" "A"
    let b := SymbolId.ofParts "Paths" "B"
    let met : State :=
      ⟨[.fold (.reference "A" (some a)), .leave, .leave], [b, a],
        [.literal "\"a\"" (some (.text "a")), .literal "\"b\"" (some (.text "b"))]⟩
    Reaches mutualTree (start (.reference "A" (some a))) met ∧
      met.stack.Nodup ∧ openNames met.todo = 2 ∧ openNames met.todo ≤ mutualTree.symbols.length ∧
      Reaches mutualTree met ⟨[.leave, .leave], [b, a], met.pieces ++ [.cyclic "A" a]⟩ := by
  intro a b met
  have hmet : Reaches mutualTree (start (.reference "A" (some a))) met := ⟨6, rfl⟩
  obtain ⟨-, hall⟩ := folding_ends mutualTree (.reference "A" (some a))
  obtain ⟨hnodup, -, hopen, hle, hback⟩ := hall met hmet
  refine ⟨hmet, hnodup, hopen, hle, ?_⟩
  have hcall := hback (.reference "A" (some a)) [.leave, .leave] rfl
  rw [Expr.expand_cyclic (by decide)] at hcall
  exact hcall

end RouteAtlas.Folding
