import QueryTree.Decimal.Digits

/-! # Binary64 numbers

The finite doubles of one sign are counted in increasing order: the rank of a double is the number
of smaller ones, and it is also the value of its bits after the sign. Every magnitude is a whole
number of units of `2 ^ -1074`, so that sums, products and quotients are exact on natural numbers
and rounding is one function. -/

namespace QueryTree.Decimal

-- The core library's power, so that powers mean the same whatever else is imported.
attribute [local instance (high)] instPowNat

/-- The finite ranks are those below. -/
def rankLimit : Nat := 2047 * 2 ^ (52 : Nat)

structure Binary64 where
  negative : Bool
  rank : Nat
  finite : rank < rankLimit
  deriving DecidableEq

/-! ## Ranks and units -/

/-- The magnitude of a rank in units of `2 ^ -1074`. -/
def units (rank : Nat) : Nat :=
  if rank < 2 ^ (52 : Nat) then rank
  else (2 ^ (52 : Nat) + rank % 2 ^ (52 : Nat)) <<< (rank / 2 ^ (52 : Nat) - 1)

/-- The quotient rounded to the nearest number, half-way cases to the even one. -/
def divideRounded (num den : Nat) : Nat :=
  let below := num / den
  let rest := num % den
  if 2 * rest < den then below
  else if den < 2 * rest then below + 1
  else below + below % 2

/-- The rank nearest to `num / den`, half-way cases to the even rank. -/
def nearestRank (num den : Nat) : Nat :=
  let scaled := num * 2 ^ (1074 : Nat)
  let shift := (scaled / den).log2 - 52
  shift * 2 ^ (52 : Nat) + divideRounded scaled (den <<< shift)

def timesRank (a b : Nat) : Nat := nearestRank (units a * units b) (2 ^ (2148 : Nat))

def overRank (a b : Nat) : Nat := nearestRank (units a) (units b)

/-! ## Decimal scaling -/

/-- The rank nearest to a power of ten. -/
def tenPower (exponent : Nat) : Nat := nearestRank (Nat.pow 10 exponent) 1

/-- Scales by powers of ten up to the 308th, rounding after each one. There is no result when a
product is too large. -/
def scaleByTen (rank : Nat) (exponent : Int) : Option Nat :=
  if exponent.natAbs ≤ 308 then
    if 0 ≤ exponent then
      let product := timesRank rank (tenPower exponent.natAbs)
      if product < rankLimit then some product else none
    else some (overRank rank (tenPower exponent.natAbs))
  else if rank = 0 then some 0
  else if 0 ≤ exponent then none
  else scaleByTen (overRank rank (tenPower 308)) (exponent + 308)
termination_by exponent.natAbs

/-- The double read from a significand of at most 64 bits and a decimal exponent: the significand
is rounded first and the scaling after it, so that the last bit can differ from the nearest
double's. -/
def Binary64.ofDecimal? (negative : Bool) (significand : Nat) (exponent : Int) : Option Binary64 :=
  match scaleByTen (nearestRank significand 1) exponent with
  | none => none
  | some rank => if h : rank < rankLimit then some ⟨negative, rank, h⟩ else none

def Binary64.zero (negative : Bool) : Binary64 := ⟨negative, 0, by decide⟩

theorem units_pos {rank : Nat} (h : 0 < rank) : 0 < units rank := by
  unfold units
  split
  · exact h
  · rw [Nat.shiftLeft_eq]
    exact Nat.mul_pos (by omega) (Nat.two_pow_pos _)

end QueryTree.Decimal
