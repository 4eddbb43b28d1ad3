import RouteAtlas.Expr.Literal
import RouteAtlas.Symbol

/-!
# RouteAtlas.Expr.Basic — expressions in annotations and initializers

An expression is a literal, a concatenation, the name of a constant, a list in braces, or
something else of which only the text is known.
-/

namespace RouteAtlas

/-- An expression as it is written in an annotation or an initializer. -/
inductive Expr where
  /-- A literal and, where it is known, its value. -/
  | literal (raw : String) (value : Option Literal)
  /-- `left + right`. -/
  | concat (left right : Expr)
  /-- `a + b + c`. -/
  | polyadic (operands : List Expr)
  /-- A name and, where it is known, the constant that it means. -/
  | reference (name : String) (target : Option SymbolId)
  /-- `{a, b}`. -/
  | array (elements : List Expr)
  /-- Anything else. -/
  | other (text : String)

namespace Expr

/-- A string literal in double quotes together with its value. -/
def string (s : String) : Expr := .literal ("\"" ++ s ++ "\"") (some (.text s))

/-- A literal of which only the written form is known. -/
def rawLiteral (raw : String) : Expr := .literal raw none

/-- Literals and concatenations have a text of their own, so constants they initialize can stand
for it. -/
def isFoldable : Expr → Bool
  | literal .. | concat .. | polyadic .. => true
  | reference .. | array .. | other .. => false

mutual

/-- The expression in writing. -/
def sourceText : Expr → String
  | literal raw _ => raw
  | concat left right => left.sourceText ++ " + " ++ right.sourceText
  | polyadic operands => " + ".intercalate (sourceTexts operands)
  | reference name _ => name
  | array elements => "\x7b" ++ ", ".intercalate (sourceTexts elements) ++ "\x7d"
  | other text => text

/-- Expressions in writing, one by one. -/
def sourceTexts : List Expr → List String
  | [] => []
  | e :: es => e.sourceText :: sourceTexts es

end

theorem sourceTexts_eq_map (es : List Expr) : sourceTexts es = es.map sourceText := by
  induction es with
  | nil => rfl
  | cons e es ih => simp [sourceTexts, ih]

end Expr

end RouteAtlas
