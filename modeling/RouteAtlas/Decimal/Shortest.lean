/-!
# RouteAtlas.Decimal.Shortest — the fewest digits that read back

A finite double `m * 2 ^ q` is the nearest double of every real number in an interval around it,
whose ends belong to it exactly when `m` is even.  The decimal number for the double is taken from
the coarsest grid of powers of ten that meets the interval: no grid point with fewer digits lies in
it.  Of two such points the nearer one is taken.
-/

namespace RouteAtlas.Decimal

/-- The number `digits * 10 ^ exponent`. -/
structure Scaled where
  digits : Nat
  exponent : Int
deriving DecidableEq, Repr

/-- A positive double as `mantissa * 2 ^ exponent`. -/
structure Binary where
  mantissa : Nat
  exponent : Int
  /-- The doubles below stand at half the distance of the doubles above. -/
  narrowBelow : Bool
deriving DecidableEq, Repr

/-- The magnitude of a finite double, read off its bits. -/
def Binary.ofBits (bits : UInt64) : Binary :=
  let field : Nat := bits.toNat / Nat.pow 2 52 % Nat.pow 2 11
  let fraction : Nat := bits.toNat % Nat.pow 2 52
  if field = 0 then ⟨fraction, -1074, false⟩
  else ⟨Nat.pow 2 52 + fraction, (field : Int) - 1075, fraction = 0 && 1 < field⟩

/-- The interval of the reals that round to a double, on a common denominator: the double is
`value / scale`, the ends are `low / scale` and `high / scale`. -/
structure Interval where
  low : Nat
  value : Nat
  high : Nat
  scale : Nat
  closed : Bool

/-- The reals that round to the double. -/
def Binary.interval (b : Binary) : Interval :=
  let q := b.exponent - 2
  let up := Nat.pow 2 q.toNat
  let low := 4 * b.mantissa - (if b.narrowBelow then 1 else 2)
  let scale := Nat.pow 2 (-q).toNat
  ⟨low * up, 4 * b.mantissa * up, (4 * b.mantissa + 2) * up, scale, b.mantissa % 2 = 0⟩

/-- The number `c * step / unit` lies in the interval. -/
def Interval.holds (i : Interval) (c step unit : Nat) : Bool :=
  let x := c * step * i.scale
  if i.closed then i.low * unit ≤ x && x ≤ i.high * unit
  else i.low * unit < x && x < i.high * unit

/-- The point of the grid `10 ^ k` nearest to the double, of those in its interval. -/
def Interval.gridPoint? (i : Interval) (k : Int) : Option Nat :=
  let step := Nat.pow 10 k.toNat
  let unit := Nat.pow 10 (-k).toNat
  let c := i.value * unit / (i.scale * step)
  match i.holds c step unit, i.holds (c + 1) step unit with
  | true, false => some c
  | false, true => some (c + 1)
  | false, false => none
  | true, true =>
    let below := i.value * unit - c * step * i.scale
    let above := (c + 1) * step * i.scale - i.value * unit
    some (if below < above then c else c + 1)

/-- An exponent of ten at which the grid is surely too coarse. -/
def Binary.topExponent (b : Binary) : Int :=
  ((Nat.log2 b.mantissa : Int) + 1 + b.exponent) * 30103 / 100000 + 2

/-- The shortest decimal number that reads back as the double; a grid finer than the smallest
double is never needed. -/
def Binary.shortest (b : Binary) : Scaled :=
  let i := b.interval
  let top := b.topExponent
  let tries := (top + 326).toNat
  let found := (List.range tries).findSome? fun (n : Nat) =>
    let k := top - (n : Int)
    (i.gridPoint? k).map (Scaled.mk · k)
  found.getD ⟨0, 0⟩

end RouteAtlas.Decimal
