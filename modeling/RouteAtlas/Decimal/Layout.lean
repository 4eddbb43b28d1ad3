import RouteAtlas.Decimal.Shortest

/-!
# RouteAtlas.Decimal.Layout — decimal numbers in writing

A layout decides which numbers are written positionally and how the others carry their exponent.
-/

namespace RouteAtlas.Decimal

/-- How a decimal number is written. -/
structure Layout where
  /-- The least power of ten of a first digit that is written positionally. -/
  positionalFrom : Int
  /-- The least power of ten of a first digit that is no longer written positionally. -/
  positionalBelow : Int
  /-- What stands before the exponent. -/
  exponentMark : String
  notANumber : String
  infinity : String

/-- The digits of a number in decimal. -/
def digitChars (n : Nat) : List Char := Nat.toDigits 10 n

/-- A fraction with at least one digit. -/
def fraction (cs : List Char) : List Char := if cs.isEmpty then ['0'] else cs

/-- Digits with a point before the power of ten `0`, where the first digit stands at power `e`. -/
def positional (cs : List Char) (e : Int) : List Char :=
  if e < 0 then ['0', '.'] ++ List.replicate (-e - 1).toNat '0' ++ cs
  else
    let whole := e.toNat + 1
    let padded := cs ++ List.replicate (whole - cs.length) '0'
    padded.take whole ++ '.' :: fraction (padded.drop whole)

/-- Digits with a point after the first one, and the power of ten of the first. -/
def scientific (mark : String) (cs : List Char) (e : Int) : List Char :=
  cs.take 1 ++ '.' :: fraction (cs.drop 1) ++ mark.toList ++ (toString e).toList

/-- A positive number in writing; its digits do not end in zero. -/
def Layout.number (l : Layout) (x : Scaled) : String :=
  let cs := digitChars x.digits
  let e := x.exponent + cs.length - 1
  String.ofList <|
    if l.positionalFrom ≤ e && e < l.positionalBelow then positional cs e
    else scientific l.exponentMark cs e

/-- A double in writing; the sign of zero is kept. -/
def Layout.float (l : Layout) (x : Float) : String :=
  if x.isNaN then l.notANumber
  else
    let sign := if x.toBits.toNat / Nat.pow 2 63 = 1 then "-" else ""
    if x.isInf then sign ++ l.infinity
    else if x == 0 then sign ++ "0.0"
    else sign ++ l.number (Binary.ofBits x.toBits).shortest

end RouteAtlas.Decimal
