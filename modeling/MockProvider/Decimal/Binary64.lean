/-!
# Binary floating point numbers of 64 bits

The finite numbers of the 64-bit binary format, signed zeros included, and rounding to them.

A magnitude is held by its rank: rank 0 is zero and the magnitudes ascend with their ranks. The
rank is also the bit pattern of the magnitude, so the first `2 ^ 52` ranks are the subnormal
numbers and each further block of `2 ^ 52` ranks shares an exponent. `Binary64.parts` gives the
significand and the power of two of a rank; `Binary64.ofRatio?` rounds a fraction to the nearest
rank, a half to the even one, and has no answer where the format has infinity.
-/

namespace MockProvider

/-- The number of finite magnitudes. -/
def Binary64.rankCount : Nat := 2047 <<< 52

/-- A finite number of the 64-bit binary format. -/
structure Binary64 where
  negative : Bool
  rank : Nat
  rank_lt : rank < Binary64.rankCount
deriving DecidableEq

namespace Binary64

/-- The significand and the power of two whose product is the magnitude of a rank. -/
def parts (rank : Nat) : Nat × Int :=
  if rank < 0x10000000000000 then (rank, -1074)
  else (rank % 0x10000000000000 + 0x10000000000000, ((rank >>> 52 : Nat) : Int) - 1075)

/-- Zero, which keeps a sign. -/
def zero (negative : Bool) : Binary64 :=
  ⟨negative, 0, by decide⟩

/-- The number with the other sign. -/
def negate (x : Binary64) : Binary64 :=
  { x with negative := !x.negative }

def isZero (x : Binary64) : Bool :=
  x.rank == 0

/-- Whether two numbers have the same value: the zeros do, whatever their signs. -/
def sameValue (x y : Binary64) : Bool :=
  x.rank == y.rank && (x.rank == 0 || x.negative == y.negative)

/-- The fraction `num / den`, rounded to a whole number; a half goes to the even neighbour. -/
def roundDiv (num den : Nat) : Nat :=
  let q := num / den
  let r := num % den
  if 2 * r > den ∨ (2 * r = den ∧ q % 2 = 1) then q + 1 else q

/-- The fraction `num / den · 2 ^ (-e)` as a numerator and a denominator. -/
def scaled (num den : Nat) (e : Int) : Nat × Nat :=
  match e with
  | .ofNat k => (num, den <<< k)
  | .negSucc k => (num <<< (k + 1), den)

/-- The rank nearest to the fraction `num / den`; it may lie beyond the finite ranks. -/
def nearestRank (num den : Nat) : Nat :=
  if num = 0 then 0
  else
    let e : Int := max ((num.log2 : Int) - den.log2 - 53) (-1074)
    let (n, d) := scaled num den e
    let e := if n / d < 0x20000000000000 then e else e + 1
    let (n, d) := scaled num den e
    (e + 1074).toNat <<< 52 + roundDiv n d

/-- The number nearest to `num / den`, unless that is infinity. -/
def ofRatio? (negative : Bool) (num den : Nat) : Option Binary64 :=
  let rank := nearestRank num den
  if h : rank < rankCount then some ⟨negative, rank, h⟩ else none

/-- The number nearest to a natural number, unless that is infinity. -/
def ofNat? (n : Nat) : Option Binary64 :=
  ofRatio? false n 1

def ratio (x : Binary64) : Nat × Nat :=
  let (m, e) := parts x.rank
  match e with
  | .ofNat k => (m <<< k, 1)
  | .negSucc k => (m, 1 <<< (k + 1))

/-- The product, rounded, unless it is infinite. -/
def mul? (x y : Binary64) : Option Binary64 :=
  let (a, b) := x.ratio
  let (c, d) := y.ratio
  ofRatio? (x.negative != y.negative) (a * c) (b * d)

/-- The quotient by a number other than zero, rounded, unless it is infinite. -/
def div? (x y : Binary64) : Option Binary64 :=
  let (a, b) := x.ratio
  let (c, d) := y.ratio
  ofRatio? (x.negative != y.negative) (a * d) (b * c)

/-! ## Values -/

@[simp] theorem sameValue_refl (x : Binary64) : x.sameValue x = true := by
  simp [sameValue]

theorem sameValue_comm (x y : Binary64) : x.sameValue y = y.sameValue x := by
  rw [Bool.eq_iff_iff]
  simp only [sameValue, Bool.and_eq_true, Bool.or_eq_true, beq_iff_eq]
  constructor <;> rintro ⟨h, hs⟩ <;> exact ⟨h.symm, hs.imp (fun z => by omega) Eq.symm⟩

theorem sameValue_trans {x y z : Binary64} (hxy : x.sameValue y = true) (hyz : y.sameValue z = true) :
    x.sameValue z = true := by
  simp only [sameValue, Bool.and_eq_true, Bool.or_eq_true, beq_iff_eq] at *
  obtain ⟨h, hs⟩ := hxy
  obtain ⟨h', hs'⟩ := hyz
  refine ⟨h.trans h', ?_⟩
  rcases hs with hs | hs
  · exact Or.inl hs
  · rcases hs' with hs' | hs'
    · exact Or.inl (by omega)
    · exact Or.inr (hs.trans hs')

end Binary64

end MockProvider
