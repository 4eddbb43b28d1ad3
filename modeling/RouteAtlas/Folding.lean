import RouteAtlas.Text.Blank
import RouteAtlas.Tree.Basic

/-!
# RouteAtlas.Folding — the text that an expression stands for

Folding goes through concatenations and follows names to the initializers of their constants.  It
does so with the stack of the constants it is inside of: a name on the stack is not followed again.
`expand` lists the pieces that folding arrives at, and `fold` joins their texts.

Folding ends because each name that is followed puts one more declared constant on the stack.
-/

namespace RouteAtlas

/-- The text without one pair of equal quotes around it. -/
def unquote (s : String) : String :=
  match s.toList with
  | [] => s
  | [_] => s
  | q :: cs =>
    if (q = '"' || q = '\'') && cs.getLast? = some q then String.ofList cs.dropLast else s

/-- What folding arrives at when it goes no further. -/
inductive Piece where
  | literal (raw : String) (value : Option Literal)
  /-- A name that means no known constant. -/
  | unresolved (name : String)
  /-- A name met again inside the constant that it means. -/
  | cyclic (name : String) (target : SymbolId)
  /-- A name whose constant is not declared. -/
  | undeclared (name : String) (target : SymbolId)
  /-- An expression without a text, or a constant initialized with one. -/
  | textless

/-- Only literals have a text: the one of their value, else what is written between quotes. -/
def Piece.text : Piece → String
  | literal _ (some v) => v.display
  | literal raw none => unquote raw
  | unresolved _ | cyclic .. | undeclared .. | textless => ""

namespace SyntaxTree

/-- The declared constants that are not on the stack. -/
def unvisited (tree : SyntaxTree) (stack : List SymbolId) : Nat :=
  (tree.symbols.filter (fun id => id ∉ stack)).length

theorem unvisited_cons_lt {tree : SyntaxTree} {stack : List SymbolId} {id : SymbolId}
    (hid : id ∈ tree.symbols) (hstack : id ∉ stack) :
    tree.unvisited (id :: stack) < tree.unvisited stack := by
  unfold unvisited
  generalize tree.symbols = ids at hid
  induction ids with
  | nil => simp at hid
  | cons x ids ih =>
    have hle : (ids.filter (fun x => x ∉ id :: stack)).length ≤
        (ids.filter (fun x => x ∉ stack)).length := by
      simp only [← List.countP_eq_length_filter]
      exact List.countP_mono_left fun y _ hy => by simp_all
    by_cases hx : x = id
    · subst hx
      simp only [List.filter_cons, List.mem_cons, true_or, not_true_eq_false, decide_false, hstack,
        not_false_eq_true, decide_true, if_true, List.length_cons, Bool.false_eq_true, if_false]
      simp only [List.mem_cons] at hle
      omega
    · have hid : id ∈ ids := (List.mem_cons.1 hid).resolve_left (fun h => hx h.symm)
      have ih := ih hid
      by_cases hxs : x ∈ stack <;> simp_all

end SyntaxTree

namespace Expr

mutual

/-- The pieces that folding arrives at, in order, inside the constants on `stack`. -/
def expand (tree : SyntaxTree) (stack : List SymbolId) : Expr → List Piece
  | literal raw value => [.literal raw value]
  | concat left right => left.expand tree stack ++ right.expand tree stack
  | polyadic operands => expandAll tree stack operands
  | reference name none => [.unresolved name]
  | reference name (some id) =>
    if _hstack : id ∈ stack then [.cyclic name id]
    else
      match _hc : tree.constant? id with
      | none => [.undeclared name id]
      | some c =>
        match c.folded? with
        | none => [.textless]
        | some init => init.expand tree (id :: stack)
  | array _ => [.textless]
  | other _ => [.textless]
termination_by e => (tree.unvisited stack, sizeOf e)
decreasing_by
  · exact Prod.Lex.right _ (by simp +arith)
  · exact Prod.Lex.right _ (by simp +arith)
  · exact Prod.Lex.right _ (by simp +arith)
  · exact Prod.Lex.left _ _
      (SyntaxTree.unvisited_cons_lt (SyntaxTree.mem_symbols_of_constant? ‹_›) ‹_›)

/-- The pieces of expressions one after the other. -/
def expandAll (tree : SyntaxTree) (stack : List SymbolId) : List Expr → List Piece
  | [] => []
  | e :: es => e.expand tree stack ++ expandAll tree stack es
termination_by es => (tree.unvisited stack, sizeOf es)
decreasing_by
  · exact Prod.Lex.right _ (by simp +arith)
  · exact Prod.Lex.right _ (by simp +arith)

end

/-- The text of an expression inside the constants on `stack`. -/
def foldIn (tree : SyntaxTree) (stack : List SymbolId) (e : Expr) : String :=
  String.join ((e.expand tree stack).map Piece.text)

/-- The text that an expression stands for; what cannot be folded adds nothing to it. -/
def fold (tree : SyntaxTree) (e : Expr) : String := e.foldIn tree []

theorem expandAll_eq_flatMap (tree : SyntaxTree) (stack : List SymbolId) (es : List Expr) :
    expandAll tree stack es = es.flatMap (·.expand tree stack) := by
  induction es with
  | nil => simp [expandAll]
  | cons e es ih => simp [expandAll, ih]

end Expr

end RouteAtlas
