import MockProvider.Decimal.Binary64

/-!
# The shortest decimal of a binary number

A binary number can be written with any decimal that rounds back to it. `Shortest.digits` finds one
with the fewest digits and, among those, the nearest to the number; halfway between two it takes
the one that ends in an even digit. For each count of digits only the two neighbours of the number
on that decimal grid come into question; the first grid with a neighbour inside the interval of
decimals that round back gives the answer. All of it is exact arithmetic on natural numbers.
-/

namespace MockProvider.Shortest

/-- A decimal: `digits · 10 ^ exponent`. -/
structure Decimal where
  digits : Nat
  exponent : Int
deriving DecidableEq, Repr

/-- The numerator of `num / den` over the common denominator of `den` and `10 ^ (-e)`, next to one
    unit of the grid `10 ^ e` over the same denominator. -/
def onGrid (num den : Nat) (e : Int) : Nat × Nat :=
  match e with
  | .ofNat k => (num, den * Nat.pow 10 k)
  | .negSucc k => (num * Nat.pow 10 (k + 1), den)

/-- The number of places before the decimal point of `num / den`: the `d` with
    `10 ^ (d - 1) ≤ num / den < 10 ^ d`, searched upwards from an estimate that is never too large
    and at most two too small. -/
def places (num den : Nat) : Int :=
  let estimate : Int := ((num.log2 : Int) - den.log2 - 1) * 30103 / 100000
  let reached (d : Int) : Bool :=
    let (n, unit) := onGrid num den d
    n < unit
  if reached estimate then estimate
  else if reached (estimate + 1) then estimate + 1
  else if reached (estimate + 2) then estimate + 2
  else estimate + 3

/-- Looks on the grids of `count` digits and more, at most `fuel` of them. The fractions
    `low / den`, `num / den` and `high / den` are the ends of the interval and the number itself,
    and `closed` tells whether the ends round back to the number. -/
def search (num low high den : Nat) (closed : Bool) (place : Int) : (fuel count : Nat) → Decimal
  | 0, count =>
    let e := place - count
    let (n, unit) := onGrid num den e
    ⟨n / unit, e⟩
  | fuel + 1, count =>
    let e := place - count
    let (n, unit) := onGrid num den e
    let (lo, _) := onGrid low den e
    let (hi, _) := onGrid high den e
    let below := n / unit
    let inside (c : Nat) : Bool :=
      if closed then lo ≤ c * unit && c * unit ≤ hi else lo < c * unit && c * unit < hi
    let above := below + 1
    match inside below, inside above with
    | true, true =>
      let down := n - below * unit
      let up := above * unit - n
      if down < up ∨ (down = up ∧ below % 2 = 0) then ⟨below, e⟩ else ⟨above, e⟩
    | true, false => ⟨below, e⟩
    | false, true => ⟨above, e⟩
    | false, false => search num low high den closed place fuel (count + 1)

/-- Drops the zeros at the end of the digits, at most `fuel` of them. -/
def dropZeros : (fuel : Nat) → Decimal → Decimal
  | 0, d => d
  | fuel + 1, d =>
    if d.digits % 10 = 0 ∧ d.digits ≠ 0 then dropZeros fuel ⟨d.digits / 10, d.exponent + 1⟩ else d

/-- The shortest decimal of the magnitude of a number other than zero. -/
def digits (rank : Nat) : Decimal :=
  let scale (r : Nat) : Nat :=
    -- the magnitude of a rank in units of `2 ^ (-1074)`
    let (m, e) := Binary64.parts r
    m <<< (e + 1074).toNat
  let value := scale rank
  let den := 1 <<< 1075
  dropZeros 20
    (search (2 * value) (scale (rank - 1) + value) (value + scale (rank + 1)) den (rank % 2 == 0)
      (places (2 * value) den) 17 1)

end MockProvider.Shortest
