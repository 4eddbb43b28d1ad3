import RouteAtlas.Decimal.Layout

/-!
# RouteAtlas.Expr.Literal — values of literals

A literal may come with the value it stands for.  Its text is what a concatenation of strings
makes of it.
-/

namespace RouteAtlas

/-- The value of a literal. -/
inductive Literal where
  | bool (b : Bool)
  | integer (n : Int64)
  | float (x : Float)
  | text (s : String)

namespace Literal

/-- Doubles from a thousandth up to ten millions are written positionally, all others with an
exponent after `E`. -/
def floatLayout : Decimal.Layout where
  positionalFrom := -3
  positionalBelow := 7
  exponentMark := "E"
  notANumber := "NaN"
  infinity := "Infinity"

/-- The text of a value. -/
def display : Literal → String
  | bool b => if b then "true" else "false"
  | integer n => toString n.toInt
  | float x => floatLayout.float x
  | text s => s

end Literal

end RouteAtlas
