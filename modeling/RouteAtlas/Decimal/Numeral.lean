/-!
# RouteAtlas.Decimal.Numeral — written numbers and their doubles

A numeral is split into its sign, its digits and its power of ten.  There are two ways to its
double: `nearest` rounds once, `byWord` keeps as many leading digits as a 64-bit word holds and
rounds after each arithmetic step.
-/

namespace RouteAtlas.Decimal

/-- A number as it is written: digits before and after the point, and a power of ten. -/
structure Numeral where
  negative : Bool
  whole : List Char
  fraction : List Char
  exponent : Int
  /-- It is written with a point or a power of ten. -/
  isFractional : Bool

/-- The value of a digit; letters are digits of larger bases. -/
def digitValue (c : Char) : Nat :=
  if c.isDigit then c.toNat - 48
  else if 'a' ≤ c && c ≤ 'f' then c.toNat - 87
  else if 'A' ≤ c && c ≤ 'F' then c.toNat - 55
  else 0

/-- The number that digits denote in a base. -/
def natOfDigits (base : Nat) (cs : List Char) : Nat :=
  cs.foldl (fun n c => base * n + digitValue c) 0

/-- The digits at the start of a text, and the rest. -/
def takeDigits (cs : List Char) : List Char × List Char :=
  (cs.takeWhile Char.isDigit, cs.dropWhile Char.isDigit)

theorem length_lt_of_takeDigits {cs ds rest : List Char} (h : takeDigits cs = (ds, rest))
    (hne : ds ≠ []) : rest.length < cs.length := by
  cases h
  have hlen := congrArg List.length
    (List.takeWhile_append_dropWhile (p := Char.isDigit) (l := cs))
  have hpos := List.length_pos_iff.2 hne
  rw [List.length_append] at hlen
  omega

/-- The number at the start of a text, and the rest. -/
def takeNatural? (cs : List Char) : Option (Nat × List Char) :=
  match takeDigits cs with
  | ([], _) => none
  | (d :: ds, rest) => some (natOfDigits 10 (d :: ds), rest)

theorem length_lt_of_takeNatural? {cs rest : List Char} {n : Nat}
    (h : takeNatural? cs = some (n, rest)) : rest.length < cs.length := by
  unfold takeNatural? at h
  split at h
  · simp at h
  · rename_i heq
    cases h
    exact length_lt_of_takeDigits heq (by simp)

/-- A power of ten as it is written after its mark: a sign or none, and digits. -/
def exponent? : List Char → Option (Int × List Char)
  | '-' :: cs => (takeNatural? cs).map fun (n, rest) => (-(n : Int), rest)
  | '+' :: cs => (takeNatural? cs).map fun (n, rest) => ((n : Int), rest)
  | cs => (takeNatural? cs).map fun (n, rest) => ((n : Int), rest)

theorem length_lt_of_exponent? {cs rest : List Char} {e : Int}
    (h : exponent? cs = some (e, rest)) : rest.length < cs.length := by
  unfold exponent? at h
  split at h <;> obtain ⟨⟨n, r⟩, hr, heq⟩ := Option.map_eq_some_iff.1 h <;> cases heq
  · exact Nat.lt_succ_of_lt (length_lt_of_takeNatural? hr)
  · exact Nat.lt_succ_of_lt (length_lt_of_takeNatural? hr)
  · exact length_lt_of_takeNatural? hr

namespace Numeral

/-- The digits as one number, to be scaled by `power`. -/
def digits (n : Numeral) : Nat := natOfDigits 10 (n.whole ++ n.fraction)

/-- The power of ten that `digits` is scaled by. -/
def power (n : Numeral) : Int := n.exponent - n.fraction.length

/-- The number without its sign, where it has no fraction. -/
def natural (n : Numeral) : Nat := natOfDigits 10 n.whole

/-- Gives a magnitude the numeral's sign. -/
def signed (n : Numeral) (x : Float) : Float := if n.negative then -x else x

/-- The double nearest to the number; far out of range it is zero or infinite. -/
def nearest (n : Numeral) : Float :=
  let d := n.digits
  let top := (n.whole.length + n.fraction.length : Int) + n.power
  n.signed <|
    if d = 0 then 0
    else if top < -400 then 0
    else if 0 ≤ n.power then
      if 400 < n.power then 1 / 0 else Float.ofScientific d false n.power.toNat
    else Float.ofScientific d true (-n.power).toNat

/-- The largest number of a 64-bit word. -/
def wordMax : Nat := UInt64.size - 1

/-- Leading digits as long as they fit a word, and how many are left over. -/
def leading (start : Nat) (cs : List Char) : Nat × Nat :=
  cs.foldl
    (fun (n, left) c =>
      let m := 10 * n + digitValue c
      if left = 0 && m ≤ wordMax then (m, 0) else (n, left + 1))
    (start, 0)

/-- A power of ten as a double. -/
def tenTo (k : Nat) : Float := Float.ofScientific 1 false k

/-- Scales a double by a power of ten, at most 308 at a time; nothing when it overflows. -/
def scale? (x : Float) (power : Int) : Option Float :=
  if power.natAbs ≤ 308 then
    let y := if 0 ≤ power then x * tenTo power.natAbs else x / tenTo power.natAbs
    if y.isInf then none else some y
  else if x == 0 then some x
  else if 0 ≤ power then none
  else scale? (x / tenTo 308) (power + 308)
termination_by power.natAbs
decreasing_by omega

/-- The largest power of ten that is told apart from larger ones. -/
def powerMax : Nat := Nat.pow 2 31 - 1

/-- The double made of the leading digits, rounded after each step; nothing when it overflows. -/
def byWord? (n : Numeral) : Option Float :=
  let (whole, left) := leading 0 n.whole
  let (word, dropped) := leading whole n.fraction
  let before : Int := left - (n.fraction.length - dropped : Int)
  (if powerMax < n.exponent.natAbs then
      if word != 0 && 0 ≤ n.exponent then none else some 0
    else scale? (Float.ofNat word) (before + n.exponent)).map n.signed

end Numeral

end RouteAtlas.Decimal
