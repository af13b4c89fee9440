import QueryTree.Proofs.Decimal.Rounding

/-! # The shortest decimal rounds back

The search for the shortest decimal of a double ends at the latest on the grid of `10 ^ -324`, which
is finer than the doubles are, and what it finds rounds to the double. -/

namespace QueryTree.Decimal

/-- The number that the decimal stands for. -/
def Scientific.number (decimal : Scientific) : ℚ := decimal.coefficient * 10 ^ decimal.exponent

theorem zpow_eq_div (exponent : Int) :
    (10 : ℚ) ^ exponent = 10 ^ exponent.toNat / 10 ^ (-exponent).toNat := by
  rcases Int.le_total 0 exponent with h | h
  · rw [Int.toNat_of_nonpos (by omega : -exponent ≤ 0), pow_zero, div_one, ← zpow_natCast,
      Int.toNat_of_nonneg h]
  · rw [Int.toNat_of_nonpos h, pow_zero, one_div, ← zpow_natCast, ← zpow_neg,
      Int.toNat_of_nonneg (by omega : 0 ≤ -exponent), neg_neg]

theorem roundsTo_of_onGrid? {rank : Nat} {exponent : Int} {found : Scientific}
    (h : onGrid? rank exponent = some found) : found.exponent = exponent ∧
      roundsTo rank (found.coefficient * (Nat.pow 10 exponent.toNat * 2 ^ 1075))
        (Nat.pow 10 (-exponent).toNat) = true := by
  unfold onGrid? at h
  simp only at h
  generalize 1075 = scale at h ⊢
  generalize Nat.pow 10 exponent.toNat * 2 ^ scale = step at h ⊢
  generalize Nat.pow 10 (-exponent).toNat = den at h ⊢
  generalize 2 * units rank * den / step = below at h
  generalize 2 * units rank * den % step = rest at h
  split at h
  · next hboth =>
    rw [Bool.and_eq_true] at hboth
    cases h
    refine ⟨rfl, ?_⟩
    simp only
    split
    · exact hboth.1
    · split
      · exact hboth.2
      · rcases Nat.mod_two_eq_zero_or_one below with heven | hodd
        · rw [heven, Nat.add_zero]
          exact hboth.1
        · rw [hodd]
          exact hboth.2
  · split at h
    · next hlow =>
      cases h
      exact ⟨rfl, hlow⟩
    · split at h
      · next hhigh =>
        cases h
        exact ⟨rfl, hhigh⟩
      · cases h

/-- What is found on a grid rounds to the rank. -/
theorem isNearest_of_onGrid? {rank : Nat} {exponent : Int} {found : Scientific}
    (h : onGrid? rank exponent = some found) : IsNearest rank found.number := by
  obtain ⟨hexponent, hrounds⟩ := roundsTo_of_onGrid? h
  have hpos : 0 < Nat.pow 10 (-exponent).toNat := Nat.pow_pos (by omega)
  have hnearest := isNearest_of_roundsTo hpos hrounds
  rw [Scientific.number, hexponent, zpow_eq_div]
  generalize 1075 = scale at hnearest
  have htwo : (2 : ℚ) ^ scale ≠ 0 := by positivity
  simp only [Nat.pow_eq, Nat.cast_mul, Nat.cast_pow, Nat.cast_ofNat] at hnearest
  rwa [← mul_assoc, mul_div_mul_right _ _ htwo, mul_div_assoc] at hnearest

/-- Where the grid is no coarser than the smallest double, the multiple below the magnitude of a
rank rounds to the rank. -/
theorem roundsTo_below {rank step den : Nat} (h : 0 < rank) (hstep : 0 < step)
    (hfine : step ≤ den) : roundsTo rank (2 * units rank * den / step * step) den = true := by
  obtain ⟨previous, rfl⟩ := Nat.exists_eq_succ_of_ne_zero h.ne'
  have hsplit := Nat.div_add_mod' (2 * units (previous + 1) * den) step
  have hrest := Nat.mod_lt (2 * units (previous + 1) * den) hstep
  have hbelow := Nat.mul_le_mul_right den (units_strictMono (Nat.lt_succ_self previous))
  have habove := Nat.mul_le_mul_right den (units_strictMono (Nat.lt_succ_self (previous + 1)))
  simp only [Nat.succ_eq_add_one, Nat.add_mul, Nat.one_mul] at hbelow habove
  rw [roundsTo_iff, Nat.succ_eq_add_one, Nat.add_sub_cancel, Nat.add_mul, Nat.add_mul]
  rw [Nat.mul_assoc] at hsplit hrest ⊢
  omega

theorem isSome_onGrid? {rank : Nat} (h : 0 < rank) : (onGrid? rank (-324)).isSome = true := by
  have hpos : 0 < Nat.pow 10 (-324 : Int).toNat * 2 ^ 1075 := by decide +kernel
  have hfine : Nat.pow 10 (-324 : Int).toNat * 2 ^ 1075 ≤ Nat.pow 10 (-(-324) : Int).toNat := by
    decide +kernel
  have hlow := roundsTo_below h hpos hfine
  unfold onGrid?
  simp only [hlow, Bool.true_and, if_pos]
  split
  · rfl
  · rfl

theorem exists_onGrid?_coarsestFrom {rank steps : Nat} {exponent : Int} {offset : Nat}
    (hoffset : offset < steps) (h : (onGrid? rank (exponent - offset)).isSome = true) :
    ∃ grid, onGrid? rank grid = some (coarsestFrom rank exponent steps) := by
  induction steps generalizing exponent offset with
  | zero => omega
  | succ steps ih =>
    unfold coarsestFrom
    split
    · next found hfound => exact ⟨exponent, hfound⟩
    · next hnone =>
      have hne : offset ≠ 0 := by
        rintro rfl
        rw [Int.natCast_zero, Int.sub_zero, hnone] at h
        cases h
      obtain ⟨offset, rfl⟩ := Nat.exists_eq_succ_of_ne_zero hne
      have hfiner : exponent - 1 - (offset : Int) = exponent - (offset.succ : Nat) := by omega
      have hlater : offset < steps := by omega
      refine ih hlater ?_
      rwa [hfiner]

theorem isNearest_shortest (rank : Nat) : IsNearest rank (shortest rank).number := by
  unfold shortest
  split
  · next hzero =>
    subst hzero
    have h := isNearest_of_roundsTo Nat.one_pos (show roundsTo 0 0 1 = true by decide)
    simpa [Scientific.number] using h
  · next hpos =>
    simp only
    generalize 1074 = scale
    generalize (digits (units rank / 2 ^ scale)).length = size
    have hlast := isSome_onGrid? (Nat.pos_of_ne_zero hpos)
    -- The search has as many steps as lead to the grid of `10 ^ -324`.
    obtain ⟨grid, hgrid⟩ := @exists_onGrid?_coarsestFrom rank (size + 325) size (size + 324)
      (by omega) (by rwa [show (size : Int) - ((size + 324 : Nat) : Int) = -324 by omega])
    exact isNearest_of_onGrid? hgrid

end QueryTree.Decimal
