import RouteAtlas.Decimal.Numeral
import RouteAtlas.Document.Basic

/-!
# RouteAtlas.Document.Scalar — values of unquoted scalars

An unquoted scalar is nothing, a truth value, an integer in base 2, 8, 10 or 16, a decimal number
or one of the special numbers, whichever it is first; any other one is a text.
-/

namespace RouteAtlas.Document

/-- Digits of a base, at least one. -/
def isDigits (base : Nat) (cs : List Char) : Bool :=
  !cs.isEmpty && cs.all fun c =>
    (c.isDigit || ('a' ≤ c && c ≤ 'f') || ('A' ≤ c && c ≤ 'F')) && Decimal.digitValue c < base

/-- Zeros before other digits make a number a text. -/
def hasLeadingZero (cs : List Char) : Bool :=
  match cs with
  | '0' :: _ :: _ => cs.all Char.isDigit
  | _ => false

/-- The base that an integer names, and its digits. -/
def basePart : List Char → Nat × List Char
  | '0' :: 'x' :: cs => (16, cs)
  | '0' :: 'o' :: cs => (8, cs)
  | '0' :: 'b' :: cs => (2, cs)
  | cs => (10, cs)

/-- A natural number in its base. -/
def natural? (cs : List Char) : Option Nat :=
  let (base, ds) := basePart cs
  if isDigits base ds && !hasLeadingZero cs then some (Decimal.natOfDigits base ds) else none

/-- The bound of the integers that are told from other numbers. -/
def wideBound : Nat := Nat.pow 2 128

/-- An integer with its sign, where it is in the wide range. -/
def integer? (cs : List Char) : Option Int :=
  match cs with
  | '-' :: ds => ((natural? ds).filter (2 * · ≤ wideBound)).map fun n => -(n : Int)
  | '+' :: ds => ((natural? ds).filter (· < wideBound)).map fun n => (n : Int)
  | ds => ((natural? ds).filter (· < wideBound)).map fun n => (n : Int)

/-- A decimal number without sign: digits with or without a point, then a power of ten or none. -/
def numeral? (negative : Bool) (cs : List Char) : Option Decimal.Numeral :=
  let (whole, rest) := Decimal.takeDigits cs
  let (fraction, rest) :=
    match rest with
    | '.' :: rest => Decimal.takeDigits rest
    | rest => ([], rest)
  if whole.isEmpty && fraction.isEmpty then none
  else
    match rest with
    | [] => some ⟨negative, whole, fraction, 0, true⟩
    | e :: rest =>
      if e = 'e' || e = 'E' then
        match Decimal.exponent? rest with
        | some (exponent, []) => some ⟨negative, whole, fraction, exponent, true⟩
        | _ => none
      else none

/-- The names of infinity. -/
def infinityWords : List String := [".inf", ".Inf", ".INF"]

/-- The names of what is no number. -/
def nanWords : List String := [".nan", ".NaN", ".NAN"]

/-- A double in writing; one that is out of range is none. -/
def float? (s : String) : Option Float :=
  let (negative, cs) :=
    match s.toList with
    | '-' :: cs => (true, cs)
    | '+' :: cs => (false, cs)
    | cs => (false, cs)
  if infinityWords.contains (String.ofList cs) then some (if negative then -1 / 0 else 1 / 0)
  else if nanWords.contains s then some (0 / 0)
  else if hasLeadingZero cs then none
  else ((numeral? negative cs).map (·.nearest)).filter (·.isFinite)

/-- The value of an unquoted scalar. -/
def ofPlain (s : String) : Document :=
  if s.isEmpty || nullWords.contains s then null
  else if ["true", "True", "TRUE"].contains s then bool true
  else if ["false", "False", "FALSE"].contains s then bool false
  else
    match integer? s.toList with
    | some n => integer n
    | none =>
      match float? s with
      | some x => float x
      | none => text s

end RouteAtlas.Document
