import RouteAtlas.Expr.Stack
import RouteAtlas.Proofs.Document.Fields
import RouteAtlas.Proofs.Format.Expressions
import RouteAtlas.Proofs.Symbol

/-!
# RouteAtlas.Proofs.Expr.Stack — what steps make of a stack

A step takes some expressions off the stack and puts others in their place, whatever lies below
(`Step.apply_eq_ok_iff`).  Each expression is built by steps of its own (`run_stepsOf`).  Steps that
join expressions keep what these are made of, so the text of an expression is that of its parts, in
whatever order they are joined (`fold_of_run`).
-/

namespace RouteAtlas.Expr.Stack

/-! ## One step -/

/-- The step takes the expressions of the first list off the stack and puts those of the second on
it; the top comes first in both. -/
inductive Step.Effect : Step → List Expr → List Expr → Prop
  | push (e : Expr) : Effect (.push e) [] [e]
  | pushName (name : String) : Effect (.pushReference name none) [] [.reference name none]
  | pushTarget (name : String) {target : String} {id : SymbolId} :
    SymbolId.parse? target = some id →
    Effect (.pushReference name (some target)) [] [.reference name (some id)]
  | concat (left right : Expr) : Effect .concat [right, left] [.concat left right]
  | polyadic (es : List Expr) : Effect (.polyadic es.length) es.reverse [.polyadic es]
  | array (es : List Expr) : Effect (.array es.length) es.reverse [.array es]
  | dup (e : Expr) : Effect .dup [e] [e, e]
  | drop (e : Expr) : Effect .drop [e] []

variable {s : Step} {steps : List Step} {stack stack' : List Expr} {es rest : List Expr}
  {count : Nat}

theorem take?_eq_ok_iff :
    take? count stack = .ok (es, rest) ↔ es.length = count ∧ stack = es.reverse ++ rest := by
  rw [take?]
  split
  next hshort =>
    constructor
    · intro h
      cases h
    · rintro ⟨hlength, rfl⟩
      simp at hshort
      omega
  next hlong =>
    constructor
    · intro h
      cases h
      exact ⟨by simp; omega, by simp⟩
    · rintro ⟨rfl, rfl⟩
      simp

/-- A step is refused unless it finds what it takes. -/
theorem Step.apply_eq_ok_iff :
    s.apply stack = .ok stack' ↔
      ∃ taken put rest, s.Effect taken put ∧ stack = taken ++ rest ∧ stack' = put ++ rest := by
  constructor
  · intro h
    unfold apply at h
    split at h
    case h_1 e =>
      cases h
      exact ⟨[], [e], stack, .push e, rfl, rfl⟩
    case h_2 name =>
      cases h
      exact ⟨[], [.reference name none], stack, .pushName name, rfl, rfl⟩
    case h_3 name target =>
      split at h
      next id hid =>
        cases h
        exact ⟨[], [.reference name (some id)], stack, .pushTarget name hid, rfl, rfl⟩
      · cases h
    case h_4 right left rest =>
      cases h
      exact ⟨[right, left], [.concat left right], rest, .concat left right, rfl, rfl⟩
    case h_6 count =>
      obtain ⟨⟨es, rest⟩, htake, rfl⟩ := map_eq_ok_iff.1 h
      obtain ⟨rfl, rfl⟩ := take?_eq_ok_iff.1 htake
      exact ⟨es.reverse, [.polyadic es], rest, .polyadic es, rfl, rfl⟩
    case h_7 count =>
      obtain ⟨⟨es, rest⟩, htake, rfl⟩ := map_eq_ok_iff.1 h
      obtain ⟨rfl, rfl⟩ := take?_eq_ok_iff.1 htake
      exact ⟨es.reverse, [.array es], rest, .array es, rfl, rfl⟩
    case h_8 e rest =>
      cases h
      exact ⟨[e], [e, e], rest, .dup e, rfl, rfl⟩
    case h_10 e rest =>
      cases h
      exact ⟨[e], [], _, .drop e, rfl, rfl⟩
    all_goals cases h
  · rintro ⟨taken, put, rest, heffect, rfl, rfl⟩
    cases heffect with
    | push | pushName | concat | dup | drop => rfl
    | pushTarget name hid => simp [apply, hid]
    | polyadic es | array es =>
      have htake : take? es.length (es.reverse ++ rest) = .ok (es, rest) :=
        take?_eq_ok_iff.2 ⟨rfl, rfl⟩
      simp [apply, htake, Except.map]

/-- What lies below makes no difference to a step that finds all it takes. -/
theorem Step.apply_append (h : s.apply stack = .ok stack') (below : List Expr) :
    s.apply (stack ++ below) = .ok (stack' ++ below) := by
  obtain ⟨taken, put, rest, heffect, rfl, rfl⟩ := apply_eq_ok_iff.1 h
  exact apply_eq_ok_iff.2 ⟨taken, put, rest ++ below, heffect, by simp, by simp⟩

/-! ## One step after the other -/

/-- The stack after all the steps, where none of them is refused. -/
def run (steps : List Step) (stack : List Expr) : Except Refusal (List Expr) :=
  steps.foldlM (fun stack s => s.apply stack) stack

theorem run_cons_eq_ok_iff :
    run (s :: steps) stack = .ok stack' ↔
      ∃ between, s.apply stack = .ok between ∧ run steps between = .ok stack' := by
  rw [run, List.foldlM_cons]
  exact bind_eq_ok_iff

theorem run_append_eq_ok_iff {steps' : List Step} :
    run (steps ++ steps') stack = .ok stack' ↔
      ∃ between, run steps stack = .ok between ∧ run steps' between = .ok stack' := by
  rw [run, List.foldlM_append]
  exact bind_eq_ok_iff

theorem run_of_effect {taken put : List Expr} (h : s.Effect taken put) (rest : List Expr) :
    run [s] (taken ++ rest) = .ok (put ++ rest) :=
  run_cons_eq_ok_iff.2 ⟨put ++ rest, Step.apply_eq_ok_iff.2 ⟨taken, put, rest, h, rfl, rfl⟩, rfl⟩

theorem run_append_below (h : run steps stack = .ok stack') (below : List Expr) :
    run steps (stack ++ below) = .ok (stack' ++ below) := by
  induction steps generalizing stack with
  | nil =>
    cases h
    rfl
  | cons s steps ih =>
    obtain ⟨between, hstep, hrun⟩ := run_cons_eq_ok_iff.1 h
    exact run_cons_eq_ok_iff.2 ⟨between ++ below, Step.apply_append hstep below, ih hrun⟩

/-! ## Joining -/

/-- The step joins expressions and adds none. -/
def Step.Joins : Step → Prop
  | concat | polyadic _ => True
  | push _ | pushReference .. | array _ | dup | drop => False

/-- What the expressions on a stack are made of, from the bottom up. -/
def leaves (stack : List Expr) : List Expr := stack.reverse.flatMap Expr.leaves

theorem leaves_append (above below : List Expr) :
    leaves (above ++ below) = leaves below ++ leaves above := by
  simp [leaves]

theorem Step.Effect.leaves_eq {taken put : List Expr} (h : s.Effect taken put) (hs : s.Joins) :
    Stack.leaves put = Stack.leaves taken := by
  cases h with
  | concat left right => simp [Stack.leaves, Expr.leaves]
  | polyadic es => simp [Stack.leaves]
  | push | pushName | pushTarget | array | dup | drop => cases hs

theorem Step.leaves_of_apply (hs : s.Joins) (h : s.apply stack = .ok stack') :
    Stack.leaves stack' = Stack.leaves stack := by
  obtain ⟨taken, put, rest, heffect, rfl, rfl⟩ := apply_eq_ok_iff.1 h
  rw [leaves_append, leaves_append, heffect.leaves_eq hs]

/-- Whatever is joined first, the stack is made of the same. -/
theorem leaves_of_run (hsteps : ∀ s ∈ steps, s.Joins) (h : run steps stack = .ok stack') :
    leaves stack' = leaves stack := by
  induction steps generalizing stack with
  | nil =>
    cases h
    rfl
  | cons s steps ih =>
    obtain ⟨between, hstep, hrun⟩ := run_cons_eq_ok_iff.1 h
    rw [List.forall_mem_cons] at hsteps
    rw [ih hsteps.2 hrun, Step.leaves_of_apply hsteps.1 hstep]

/-- Expressions joined into one, in whatever order, fold to their texts one after the other. -/
theorem fold_of_run {tree : SyntaxTree} {e : Expr} (hsteps : ∀ s ∈ steps, s.Joins)
    (h : run steps stack = .ok [e]) :
    e.fold tree = String.join (stack.reverse.map (·.fold tree)) := by
  have hleaves : e.leaves = (Expr.polyadic stack.reverse).leaves := by
    simpa [leaves] using leaves_of_run hsteps h
  rw [Expr.fold, Expr.foldIn, Expr.expand_eq_of_leaves_eq tree [] hleaves]
  exact foldIn_polyadic tree [] stack.reverse

/-! ## Steps for an expression -/

mutual

/-- Steps that push the expression, each part before what holds it. -/
def stepsOf : Expr → List Step
  | .literal raw value => [.push (.literal raw value)]
  | .concat left right => stepsOf left ++ stepsOf right ++ [.concat]
  | .polyadic operands => stepsOfAll operands ++ [.polyadic operands.length]
  | .reference name target => [.pushReference name (target.map SymbolId.text)]
  | .array elements => stepsOfAll elements ++ [.array elements.length]
  | .other text => [.push (.other text)]

/-- Steps that push the expressions one after the other. -/
def stepsOfAll : List Expr → List Step
  | [] => []
  | e :: es => stepsOf e ++ stepsOfAll es

end

theorem run_stepsOfAll {es : List Expr}
    (h : ∀ e ∈ es, ∀ stack, run (stepsOf e) stack = .ok (e :: stack)) (stack : List Expr) :
    run (stepsOfAll es) stack = .ok (es.reverse ++ stack) := by
  induction es generalizing stack with
  | nil => rfl
  | cons e es ih =>
    rw [List.forall_mem_cons] at h
    rw [stepsOfAll, List.reverse_cons, List.append_assoc]
    exact run_append_eq_ok_iff.2 ⟨e :: stack, h.1 stack, ih h.2 (e :: stack)⟩

/-- The steps for an expression push it, when the constants that it names can be read in writing. -/
theorem run_stepsOf {e : Expr} (h : e.TargetsParse) (stack : List Expr) :
    run (stepsOf e) stack = .ok (e :: stack) := by
  induction e using structuralInduction generalizing stack with
  | literal | other => rfl
  | concat left right ihl ihr =>
    obtain ⟨hl, hr⟩ := targetsParse_concat.1 h
    have hparts : run (stepsOf left ++ stepsOf right) stack = .ok (right :: left :: stack) :=
      run_append_eq_ok_iff.2 ⟨left :: stack, ihl hl stack, ihr hr (left :: stack)⟩
    exact run_append_eq_ok_iff.2 ⟨_, hparts, run_of_effect (.concat left right) stack⟩
  | polyadic es ih =>
    have hparts := run_stepsOfAll (fun e he => ih e he (targetsParse_polyadic.1 h e he)) stack
    exact run_append_eq_ok_iff.2 ⟨_, hparts, run_of_effect (.polyadic es) stack⟩
  | array es ih =>
    have hparts := run_stepsOfAll (fun e he => ih e he (targetsParse_array.1 h e he)) stack
    exact run_append_eq_ok_iff.2 ⟨_, hparts, run_of_effect (.array es) stack⟩
  | reference name target =>
    cases target with
    | none => rfl
    | some id =>
      have hid : SymbolId.parse? id.text = some id := SymbolId.parse?_text (h id List.mem_cons_self)
      exact run_of_effect (.pushTarget name hid) stack

end RouteAtlas.Expr.Stack
