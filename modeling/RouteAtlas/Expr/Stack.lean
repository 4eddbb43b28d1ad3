import RouteAtlas.Expr.Basic

/-!
# RouteAtlas.Expr.Stack — expressions built on a stack

Each step pushes an expression or replaces those on top by one that holds them.  A step that finds
too few expressions, or a target that is no symbol, leaves the stack as it was.
-/

namespace RouteAtlas.Expr.Stack

/-- One step of building expressions. -/
inductive Step where
  | push (e : Expr)
  /-- Pushes a name whose target is given in writing. -/
  | pushReference (name : String) (target : Option String)
  | concat
  | polyadic (count : Nat)
  | array (count : Nat)
  | dup
  | drop

/-- Why a step changes nothing. -/
inductive Refusal where
  | underflow
  | invalidSymbol (text : String)

/-- Takes `count` expressions off the top, in the order they were pushed. -/
def take? (count : Nat) (stack : List Expr) : Except Refusal (List Expr × List Expr) :=
  if stack.length < count then .error .underflow
  else .ok ((stack.take count).reverse, stack.drop count)

/-- The stack after a step; its top comes first. -/
def Step.apply : Step → List Expr → Except Refusal (List Expr)
  | push e, stack => .ok (e :: stack)
  | pushReference name none, stack => .ok (.reference name none :: stack)
  | pushReference name (some target), stack =>
    match SymbolId.parse? target with
    | some id => .ok (.reference name (some id) :: stack)
    | none => .error (.invalidSymbol target)
  | concat, right :: left :: stack => .ok (.concat left right :: stack)
  | concat, _ => .error .underflow
  | polyadic count, stack => (take? count stack).map fun (es, rest) => .polyadic es :: rest
  | array count, stack => (take? count stack).map fun (es, rest) => .array es :: rest
  | dup, e :: stack => .ok (e :: e :: stack)
  | dup, [] => .error .underflow
  | drop, _ :: stack => .ok stack
  | drop, [] => .error .underflow

end RouteAtlas.Expr.Stack
