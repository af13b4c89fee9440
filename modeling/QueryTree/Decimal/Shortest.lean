import QueryTree.Decimal.Binary64

/-! # The shortest decimal that reads back

Of the decimals that round to a double, the one on the coarsest grid of powers of ten, and of the
two neighbours on that grid the nearer one. -/

namespace QueryTree.Decimal

-- The core library's power, so that powers mean the same whatever else is imported.
attribute [local instance (high)] instPowNat

/-- A number of the form `coefficient * 10 ^ exponent`. -/
structure Scientific where
  coefficient : Nat
  exponent : Int
  deriving DecidableEq, Repr

/-- The numbers that round to the rank, in units of `2 ^ -1075`: from half-way to the rank below up
to half-way to the rank above, both ends included when the rank is even. -/
def roundsTo (rank : Nat) (num den : Nat) : Bool :=
  let low := units (rank - 1) + units rank
  let high := units rank + units (rank + 1)
  if rank % 2 = 0 then low * den ≤ num && num ≤ high * den
  else low * den < num && num < high * den

/-- The multiple of `10 ^ exponent` next to the rank's magnitude that rounds to the rank; of two
the nearer one, of two equally near the even one. -/
def onGrid? (rank : Nat) (exponent : Int) : Option Scientific :=
  let step := Nat.pow 10 exponent.toNat * 2 ^ (1075 : Nat)
  let den := Nat.pow 10 (-exponent).toNat
  let magnitude := 2 * units rank * den
  let below := magnitude / step
  let rest := magnitude % step
  let lowFits := roundsTo rank (below * step) den
  let highFits := roundsTo rank ((below + 1) * step) den
  let nearer := if 2 * rest < step then below else if step < 2 * rest then below + 1 else below + below % 2
  if lowFits && highFits then some ⟨nearer, exponent⟩
  else if lowFits then some ⟨below, exponent⟩
  else if highFits then some ⟨below + 1, exponent⟩
  else none

/-- Tries the grids from `10 ^ exponent` downwards. -/
def coarsestFrom (rank : Nat) (exponent : Int) : Nat → Scientific
  | 0 => ⟨0, 0⟩
  | steps + 1 =>
    match onGrid? rank exponent with
    | some found => found
    | none => coarsestFrom rank (exponent - 1) steps

/-- The shortest decimal of a rank. Grids run from the magnitude's own size down to `10 ^ -324`. -/
def shortest (rank : Nat) : Scientific :=
  if rank = 0 then ⟨0, 0⟩
  else
    let size := (digits (units rank / 2 ^ (1074 : Nat))).length
    coarsestFrom rank size (size + 325)

/-! ## Coefficients -/

theorem roundsTo_zero {rank den : Nat} (h : 0 < rank) (hden : 0 < den) :
    roundsTo rank 0 den = false := by
  have hlow : 0 < (units (rank - 1) + units rank) * den :=
    Nat.mul_pos (Nat.add_pos_right _ (units_pos h)) hden
  unfold roundsTo
  simp only
  split
  · rw [decide_eq_false (Nat.not_le.2 hlow), Bool.false_and]
  · rw [decide_eq_false (Nat.not_lt_zero _), Bool.false_and]

theorem coefficient_pos_of_onGrid? {rank : Nat} (h : 0 < rank) {exponent : Int}
    {found : Scientific} (hfound : onGrid? rank exponent = some found) : 0 < found.coefficient := by
  unfold onGrid? at hfound
  simp only at hfound
  have hden : 0 < Nat.pow 10 (-exponent).toNat := Nat.pow_pos (by omega)
  generalize Nat.pow 10 exponent.toNat * 2 ^ (1075 : Nat) = step at hfound
  generalize Nat.pow 10 (-exponent).toNat = den at hfound hden
  generalize 2 * units rank * den / step = below at hfound
  -- The multiple below fits only if it is not zero.
  have hlow : roundsTo rank (below * step) den = true → 0 < below := by
    intro hfits
    rcases Nat.eq_zero_or_pos below with hzero | hpos
    · rw [hzero, Nat.zero_mul, roundsTo_zero h hden] at hfits
      cases hfits
    · exact hpos
  split at hfound
  · next hboth =>
    rw [Bool.and_eq_true] at hboth
    have hpos := hlow hboth.1
    cases hfound
    simp only
    split
    · exact hpos
    · split
      · omega
      · exact Nat.add_pos_left hpos _
  · split at hfound
    · next hfits =>
      cases hfound
      exact hlow hfits
    · split at hfound
      · cases hfound
        exact Nat.succ_pos _
      · cases hfound

/-- The shortest decimal has no zero as its coefficient unless it is `0 * 10 ^ 0`. -/
theorem shortest_eq_zero_or_pos (rank : Nat) :
    shortest rank = ⟨0, 0⟩ ∨ 0 < (shortest rank).coefficient := by
  have hfrom : 0 < rank → ∀ steps exponent, coarsestFrom rank exponent steps = ⟨0, 0⟩ ∨
      0 < (coarsestFrom rank exponent steps).coefficient := by
    intro h steps
    induction steps with
    | zero => exact fun exponent => Or.inl rfl
    | succ steps ih =>
      intro exponent
      unfold coarsestFrom
      split
      · next found hfound => exact Or.inr (coefficient_pos_of_onGrid? h hfound)
      · exact ih (exponent - 1)
  unfold shortest
  split
  · exact Or.inl rfl
  · exact hfrom (by omega) _ _

end QueryTree.Decimal
