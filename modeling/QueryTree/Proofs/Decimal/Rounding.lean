import Mathlib.Algebra.Order.Field.Rat
import Mathlib.Tactic.FieldSimp
import Mathlib.Tactic.Linarith
import Mathlib.Tactic.Positivity
import Mathlib.Tactic.Ring
import QueryTree.Decimal.Shortest

/-! # Rounding to the nearest double

A double is nearest to a number if no other one is as near, or if those that are as near have odd
ranks. There is one at most. Rounding a quotient leads to the nearest double, and the interval in
which numbers round to a double holds just those that it is nearest to. -/

namespace QueryTree.Decimal

/-! ## The nearest rank -/

/-- The magnitude that a rank stands for. -/
def magnitude (rank : Nat) : ℚ := units rank / 2 ^ 1074

/-- Every other rank is farther from the number, or as far while this one is even. -/
def IsNearest (rank : Nat) (number : ℚ) : Prop :=
  ∀ other, other ≠ rank → |number - magnitude rank| < |number - magnitude other| ∨
    |number - magnitude rank| = |number - magnitude other| ∧ rank % 2 = 0

theorem units_of_lt {rank : Nat} (h : rank < 2 ^ 52) : units rank = rank := if_pos h

theorem units_of_le {rank : Nat} (h : 2 ^ 52 ≤ rank) :
    units rank = (2 ^ 52 + rank % 2 ^ 52) * 2 ^ (rank / 2 ^ 52 - 1) := by
  rw [units, if_neg (Nat.not_lt.2 h), Nat.shiftLeft_eq]

theorem units_succ (rank : Nat) : units (rank + 1) = units rank + 2 ^ (rank / 2 ^ 52 - 1) := by
  by_cases hsmall : rank < 2 ^ 52
  · have hzero : rank / 2 ^ 52 = 0 := Nat.div_eq_of_lt hsmall
    rw [units_of_lt hsmall, hzero]
    by_cases hnext : rank + 1 < 2 ^ 52
    · exact units_of_lt hnext
    · obtain rfl : rank = 2 ^ 52 - 1 := by omega
      decide
  · obtain ⟨exponent, hexponent⟩ : ∃ exponent, rank / 2 ^ 52 = exponent + 1 :=
      ⟨rank / 2 ^ 52 - 1, by omega⟩
    rw [units_of_le (by omega), units_of_le (by omega), hexponent, Nat.add_sub_cancel]
    by_cases hlast : rank % 2 ^ 52 = 2 ^ 52 - 1
    · -- The last rank of its binade: the next one begins a binade with twice the step.
      have hdiv : (rank + 1) / 2 ^ 52 = exponent + 2 := by omega
      have hmod : (rank + 1) % 2 ^ 52 = 0 := by omega
      rw [hdiv, hmod, hlast, show exponent + 2 - 1 = exponent + 1 by omega, Nat.pow_succ]
      omega
    · have hdiv : (rank + 1) / 2 ^ 52 = exponent + 1 := by omega
      have hmod : (rank + 1) % 2 ^ 52 = rank % 2 ^ 52 + 1 := by omega
      rw [hdiv, hmod, Nat.add_sub_cancel, ← Nat.add_assoc, Nat.add_mul, Nat.one_mul]

theorem units_strictMono : StrictMono units :=
  strictMono_nat_of_lt_succ fun rank => by
    rw [units_succ]
    exact Nat.lt_add_of_pos_right (Nat.two_pow_pos _)

theorem magnitude_strictMono : StrictMono magnitude := by
  intro rank other h
  have hunits : (units rank : ℚ) < units other := by exact_mod_cast units_strictMono h
  exact div_lt_div_of_pos_right hunits (by positivity)

/-- There is one nearest rank at most. -/
theorem IsNearest.unique {rank other : Nat} {number : ℚ} (h : IsNearest rank number)
    (hother : IsNearest other number) : rank = other := by
  wlog hlt : rank < other generalizing rank other
  · rcases Nat.lt_or_ge other rank with hgt | hge
    · exact (this hother h hgt).symm
    · omega
  exfalso
  -- Both are as near and even, so there is a rank between them, and it is nearer.
  have heq : |number - magnitude rank| = |number - magnitude other| ∧
      rank % 2 = 0 ∧ other % 2 = 0 := by
    rcases h other (Nat.ne_of_gt hlt) with hnearer | ⟨hequal, heven⟩
    · rcases hother rank (Nat.ne_of_lt hlt) with hcloser | ⟨hequal, _⟩
      · exact absurd hcloser (not_lt.2 hnearer.le)
      · exact absurd hequal hnearer.ne'
    · rcases hother rank (Nat.ne_of_lt hlt) with hcloser | ⟨_, hotherEven⟩
      · exact absurd hequal hcloser.ne'
      · exact ⟨hequal, heven, hotherEven⟩
  obtain ⟨hequal, heven, hotherEven⟩ := heq
  have hlow := magnitude_strictMono (Nat.lt_succ_self rank)
  have hhigh := magnitude_strictMono (show rank + 1 < other by omega)
  have hmiddle : number - magnitude rank = magnitude other - number := by
    rcases abs_eq_abs.1 hequal with hsame | hopposite
    · linarith
    · linarith
  have hnear : |number - magnitude (rank + 1)| < |number - magnitude rank| := by
    have hpos : 0 ≤ number - magnitude rank := by linarith
    rw [abs_of_nonneg hpos, abs_lt]
    constructor <;> linarith
  rcases h (rank + 1) (by omega) with hnearer | ⟨hsame, _⟩
  · exact absurd hnear (not_lt.2 hnearer.le)
  · exact absurd hsame hnear.ne'

theorem nearer_or_even {rank : Nat} {near distance far : ℚ} (hnear : near ≤ distance)
    (hfar : distance ≤ far) (hodd : rank % 2 = 1 → near < distance) :
    near < far ∨ near = far ∧ rank % 2 = 0 := by
  rcases Nat.mod_two_eq_zero_or_one rank with heven | hrank
  · rcases (hnear.trans hfar).lt_or_eq with hlt | heq
    · exact Or.inl hlt
    · exact Or.inr ⟨heq, heven⟩
  · exact Or.inl (lt_of_lt_of_le (hodd hrank) hfar)

/-- What lies between the numbers half-way to the neighbours is nearest to the rank. -/
theorem isNearest_of_between {rank : Nat} {number : ℚ}
    (hlow : magnitude (rank - 1) + magnitude rank ≤ 2 * number)
    (hhigh : 2 * number ≤ magnitude rank + magnitude (rank + 1))
    (hodd : rank % 2 = 1 → magnitude (rank - 1) + magnitude rank < 2 * number ∧
      2 * number < magnitude rank + magnitude (rank + 1)) : IsNearest rank number := by
  intro other hne
  rcases Nat.lt_or_gt_of_ne hne with hbelow | habove
  · have hmono := magnitude_strictMono.monotone (show other ≤ rank - 1 by omega)
    have hstrict := magnitude_strictMono hbelow
    refine nearer_or_even (abs_le.2 ⟨by linarith, by linarith⟩)
      (le_abs_self (number - magnitude other)) fun hrank => ?_
    have hstrictly := (hodd hrank).1
    exact abs_lt.2 ⟨by linarith, by linarith⟩
  · have hmono := magnitude_strictMono.monotone (show rank + 1 ≤ other by omega)
    have hstrict := magnitude_strictMono habove
    rw [abs_sub_comm number (magnitude other)]
    refine nearer_or_even (abs_le.2 ⟨by linarith, by linarith⟩)
      (le_abs_self (magnitude other - number)) fun hrank => ?_
    have hstrictly := (hodd hrank).2
    exact abs_lt.2 ⟨by linarith, by linarith⟩

/-! ## The interval of a rank -/

theorem roundsTo_iff {rank num den : Nat} : roundsTo rank num den = true ↔
    (units (rank - 1) + units rank) * den ≤ num ∧ num ≤ (units rank + units (rank + 1)) * den ∧
      (rank % 2 = 1 → (units (rank - 1) + units rank) * den < num ∧
        num < (units rank + units (rank + 1)) * den) := by
  unfold roundsTo
  by_cases heven : rank % 2 = 0
  · simp [heven]
  · have hodd : rank % 2 = 1 := by omega
    simp only [hodd, Nat.one_ne_zero, if_false, Bool.and_eq_true, decide_eq_true_eq, forall_const]
    constructor
    · exact fun h => ⟨h.1.le, h.2.le, h⟩
    · exact fun h => h.2.2

/-- The interval holds numbers that the rank is nearest to. -/
theorem isNearest_of_roundsTo {rank num den : Nat} (hden : 0 < den)
    (h : roundsTo rank num den = true) : IsNearest rank (num / (den * 2 ^ 1075)) := by
  obtain ⟨hlow, hhigh, hodd⟩ := roundsTo_iff.1 h
  have hden' : (0 : ℚ) < den := by exact_mod_cast hden
  have htwice : 2 * ((num : ℚ) / (den * 2 ^ 1075)) = num / den / 2 ^ 1074 := by
    rw [pow_succ]
    field_simp
  have hsum : ∀ first second, magnitude first + magnitude second =
      ((units first + units second : Nat) : ℚ) / 2 ^ 1074 := by
    intro first second
    rw [magnitude, magnitude, ← add_div]
    push_cast
    rfl
  have hpos : (0 : ℚ) < 2 ^ 1074 := by positivity
  apply isNearest_of_between
  · rw [htwice, hsum, div_le_div_iff_of_pos_right hpos, le_div_iff₀ hden']
    exact_mod_cast hlow
  · rw [htwice, hsum, div_le_div_iff_of_pos_right hpos, div_le_iff₀ hden']
    exact_mod_cast hhigh
  · intro hrank
    obtain ⟨hlow', hhigh'⟩ := hodd hrank
    rw [htwice, hsum, hsum, div_lt_div_iff_of_pos_right hpos, div_lt_div_iff_of_pos_right hpos,
      lt_div_iff₀ hden', div_lt_iff₀ hden']
    exact ⟨by exact_mod_cast hlow', by exact_mod_cast hhigh'⟩

/-! ## Rounding quotients -/

/-- The rounded quotient is at most one half off, and less if it is odd. -/
theorem divideRounded_spec (num : Nat) {den : Nat} (hden : 0 < den) :
    2 * (divideRounded num den * den) ≤ 2 * num + den ∧
    2 * num ≤ 2 * (divideRounded num den * den) + den ∧
    (divideRounded num den % 2 = 1 →
      2 * (divideRounded num den * den) < 2 * num + den ∧
        2 * num < 2 * (divideRounded num den * den) + den) := by
  have hnum := Nat.div_add_mod' num den
  have hrest := Nat.mod_lt num hden
  have hnext : (num / den + 1) * den = num / den * den + den := Nat.succ_mul _ _
  unfold divideRounded
  simp only
  split
  · omega
  · split
    · omega
    · -- Half-way: the even one of the two neighbours.
      by_cases heven : num / den % 2 = 0
      · rw [heven, Nat.add_zero]
        omega
      · have hodd : num / den % 2 = 1 := by omega
        rw [hodd]
        omega

/-- A significand of 53 bits and an exponent make up a rank. -/
theorem units_mul_add {shift significand : Nat} (hlarge : 0 < shift → 2 ^ 52 ≤ significand)
    (hsmall : significand ≤ 2 ^ 53) :
    units (shift * 2 ^ 52 + significand) = significand * 2 ^ shift := by
  by_cases hsubnormal : significand < 2 ^ 52
  · have hshift : shift = 0 := by omega
    rw [hshift, Nat.zero_mul, Nat.zero_add, units_of_lt hsubnormal, Nat.pow_zero, Nat.mul_one]
  · by_cases hcarry : significand = 2 ^ 53
    · have hdiv : (shift * 2 ^ 52 + 2 ^ 53) / 2 ^ 52 = shift + 2 := by omega
      have hmod : (shift * 2 ^ 52 + 2 ^ 53) % 2 ^ 52 = 0 := by omega
      rw [hcarry, units_of_le (by omega), hdiv, hmod, show shift + 2 - 1 = shift + 1 by omega,
        Nat.pow_succ]
      omega
    · have hdiv : (shift * 2 ^ 52 + significand) / 2 ^ 52 = shift + 1 := by omega
      have hmod : (shift * 2 ^ 52 + significand) % 2 ^ 52 = significand - 2 ^ 52 := by omega
      rw [units_of_le (by omega), hdiv, hmod, Nat.add_sub_cancel,
        show 2 ^ 52 + (significand - 2 ^ 52) = significand by omega]

theorem nearestRank_eq (num den : Nat) : nearestRank num den =
    ((num * 2 ^ 1074 / den).log2 - 52) * 2 ^ 52 +
      divideRounded (num * 2 ^ 1074) (den * 2 ^ ((num * 2 ^ 1074 / den).log2 - 52)) := by
  unfold nearestRank
  generalize 1074 = scale
  simp only [Nat.shiftLeft_eq]

/-- Where a quotient stands between two powers of two. -/
theorem scaled_bounds (scaled : Nat) {den : Nat} (hden : 0 < den) :
    scaled < 2 ^ 53 * (den * 2 ^ ((scaled / den).log2 - 52)) ∧
    (0 < (scaled / den).log2 - 52 →
      2 ^ 52 * (den * 2 ^ ((scaled / den).log2 - 52)) ≤ scaled) := by
  have hsplit : ∀ bits shift, 2 ^ bits * (den * 2 ^ shift) = 2 ^ (bits + shift) * den := by
    intro bits shift
    rw [Nat.pow_add, Nat.mul_comm den, Nat.mul_assoc]
  rw [hsplit, hsplit]
  constructor
  · rw [← Nat.div_lt_iff_lt_mul hden]
    exact Nat.lt_of_lt_of_le Nat.lt_log2_self (Nat.pow_le_pow_right (by omega) (by omega))
  · intro hshift
    have hne : scaled / den ≠ 0 := by
      intro hzero
      rw [hzero] at hshift
      simp at hshift
    rw [← Nat.le_div_iff_mul_le hden, show 52 + ((scaled / den).log2 - 52) = (scaled / den).log2 by
      omega]
    exact Nat.log2_self_le hne

theorem units_step_above {shift significand : Nat} (hlarge : 0 < shift → 2 ^ 52 ≤ significand)
    (hsmall : significand ≤ 2 ^ 53) :
    significand * 2 ^ shift + 2 ^ shift ≤ units (shift * 2 ^ 52 + significand + 1) := by
  have hexponent : shift ≤ (shift * 2 ^ 52 + significand) / 2 ^ 52 - 1 := by omega
  rw [units_succ, units_mul_add hlarge hsmall]
  exact Nat.add_le_add_left (Nat.pow_le_pow_right (by omega) hexponent) _

/-- The step down is smaller at the first rank of a binade. -/
theorem units_step_below {shift significand : Nat} (hlarge : 0 < shift → 2 ^ 52 ≤ significand)
    (hsmall : significand ≤ 2 ^ 53) (hzero : shift * 2 ^ 52 + significand ≠ 0)
    (hfirst : ¬ (0 < shift ∧ significand = 2 ^ 52)) :
    units (shift * 2 ^ 52 + significand - 1) + 2 ^ shift = significand * 2 ^ shift := by
  obtain ⟨previous, hprevious⟩ := Nat.exists_eq_succ_of_ne_zero hzero
  have hexponent : previous / 2 ^ 52 - 1 = shift := by omega
  have hsucc := units_succ previous
  rw [hexponent] at hsucc
  rw [← units_mul_add hlarge hsmall, hprevious, Nat.succ_eq_add_one, hsucc, Nat.add_sub_cancel]

/-- A quotient is in the interval of the rank that it is rounded to. -/
theorem roundsTo_nearestRank (num : Nat) {den : Nat} (hden : 0 < den) :
    roundsTo (nearestRank num den) (num * 2 ^ 1075) den = true := by
  rw [nearestRank_eq, show 1075 = 1074 + 1 from rfl]
  generalize 1074 = exponent
  rw [@Nat.pow_succ 2 exponent, ← Nat.mul_assoc, Nat.mul_comm _ 2]
  generalize num * 2 ^ exponent = scaled
  obtain ⟨hbelow, habove⟩ := scaled_bounds scaled hden
  generalize (scaled / den).log2 - 52 = shift at hbelow habove ⊢
  have hpos : 0 < den * 2 ^ shift := Nat.mul_pos hden (Nat.two_pow_pos _)
  obtain ⟨hlow, hhigh, hodd⟩ := divideRounded_spec scaled hpos
  generalize divideRounded scaled (den * 2 ^ shift) = significand at hlow hhigh hodd ⊢
  -- The significand has 53 bits, or fewer where there is no shift.
  have hsmall : significand ≤ 2 ^ 53 := by
    by_contra hlarge
    have hmul := Nat.mul_le_mul_right (den * 2 ^ shift) (show 2 ^ 53 + 1 ≤ significand by omega)
    rw [Nat.succ_mul] at hmul
    omega
  have hlarge : 0 < shift → 2 ^ 52 ≤ significand := by
    intro hshift
    by_contra hless
    have hmul := Nat.mul_le_mul_right (den * 2 ^ shift) (show significand + 1 ≤ 2 ^ 52 by omega)
    rw [Nat.succ_mul] at hmul
    have := habove hshift
    omega
  -- From here on everything is counted in units of the quotient's denominator.
  have hscale : ∀ a, a * 2 ^ shift * den = a * (den * 2 ^ shift) := by
    intro a
    rw [Nat.mul_assoc, Nat.mul_comm (2 ^ shift)]
  have hunits := units_mul_add hlarge hsmall
  have hnext := Nat.mul_le_mul_right den (units_step_above hlarge hsmall)
  rw [Nat.add_mul, hscale, Nat.mul_comm (2 ^ shift)] at hnext
  have hparity : (shift * 2 ^ 52 + significand) % 2 = significand % 2 := by omega
  rw [roundsTo_iff, hparity, Nat.add_mul, Nat.add_mul, hunits, hscale]
  by_cases hzero : shift * 2 ^ 52 + significand = 0
  · obtain ⟨rfl, rfl⟩ : shift = 0 ∧ significand = 0 := by omega
    simp [units] at hhigh hnext ⊢
    omega
  by_cases hfirst : 0 < shift ∧ significand = 2 ^ 52
  · -- The first rank of a binade is even, and the number is not below it.
    have hmono := Nat.mul_le_mul_right den
      (units_strictMono.monotone (Nat.sub_le (shift * 2 ^ 52 + significand) 1))
    rw [hunits, hscale] at hmono
    have hscaled := habove hfirst.1
    rw [hfirst.2] at hhigh hnext hmono ⊢
    exact ⟨by omega, by omega, by omega⟩
  · have hprevious := congrArg (· * den) (units_step_below hlarge hsmall hzero hfirst)
    simp only [Nat.add_mul, hscale, Nat.mul_comm (2 ^ shift)] at hprevious
    exact ⟨by omega, by omega, by omega⟩

theorem isNearest_nearestRank (num : Nat) {den : Nat} (hden : 0 < den) :
    IsNearest (nearestRank num den) (num / den) := by
  have h := isNearest_of_roundsTo hden (roundsTo_nearestRank num hden)
  generalize 1075 = exponent at h
  rwa [Nat.cast_mul, Nat.cast_pow, Nat.cast_ofNat, mul_div_mul_right _ _ (by positivity)] at h

/-! ## Exact results -/

theorem divideRounded_mul (quotient : Nat) {den : Nat} (hden : 0 < den) :
    divideRounded (quotient * den) den = quotient := by
  rw [divideRounded, Nat.mul_div_cancel _ hden, Nat.mul_mod_left]
  simp [hden]

/-- A number of 53 bits with a power of two behind it is not changed by rounding. -/
theorem units_nearestRank {significand : Nat} (h : significand < 2 ^ 53) (exponent : Nat) :
    units (nearestRank (significand * 2 ^ exponent) 1) = significand * 2 ^ exponent * 2 ^ 1074 := by
  rw [nearestRank_eq, Nat.div_one, Nat.one_mul]
  generalize 1074 = scale
  rw [Nat.mul_assoc, ← Nat.pow_add]
  generalize exponent + scale = power
  obtain ⟨hbelow, habove⟩ := scaled_bounds (significand * 2 ^ power) Nat.one_pos
  rw [Nat.div_one, Nat.one_mul] at hbelow habove
  have hshift : (significand * 2 ^ power).log2 - 52 ≤ power := by
    by_cases hzero : significand * 2 ^ power = 0
    · rw [hzero, Nat.log2_zero]
      omega
    · have hlt : significand * 2 ^ power < 2 ^ (53 + power) := by
        rw [Nat.pow_add]
        exact Nat.mul_lt_mul_of_pos_right h (Nat.two_pow_pos _)
      have hlog := (Nat.log2_lt hzero).2 hlt
      omega
  generalize (significand * 2 ^ power).log2 - 52 = shift at hbelow habove hshift ⊢
  obtain ⟨extra, rfl⟩ := Nat.exists_eq_add_of_le' hshift
  have hpos := Nat.two_pow_pos shift
  rw [Nat.pow_add, ← Nat.mul_assoc] at hbelow habove ⊢
  rw [divideRounded_mul _ hpos]
  exact units_mul_add (fun hshift => Nat.le_of_mul_le_mul_right (habove hshift) hpos)
    (Nat.lt_of_mul_lt_mul_right hbelow).le

theorem magnitude_nearestRank {significand : Nat} (h : significand < 2 ^ 53) (exponent : Nat) :
    magnitude (nearestRank (significand * 2 ^ exponent) 1) = significand * 2 ^ exponent := by
  rw [magnitude, units_nearestRank h]
  generalize 1074 = power
  rw [Nat.cast_mul, Nat.cast_mul, Nat.cast_pow, Nat.cast_pow, Nat.cast_ofNat,
    mul_div_cancel_right₀ _ (by positivity)]

/-! ## Decimal scaling -/

theorem isNearest_timesRank (a b : Nat) :
    IsNearest (timesRank a b) (magnitude a * magnitude b) := by
  have h := isNearest_nearestRank (units a * units b) (Nat.two_pow_pos 2148)
  rw [timesRank, magnitude, magnitude, div_mul_div_comm, ← pow_add,
    show 1074 + 1074 = 2148 from rfl]
  generalize 2148 = scale at h ⊢
  rwa [Nat.cast_mul, Nat.cast_pow, Nat.cast_ofNat] at h

theorem isNearest_overRank (a : Nat) {b : Nat} (h : 0 < b) :
    IsNearest (overRank a b) (magnitude a / magnitude b) := by
  rw [magnitude, magnitude, div_div_div_cancel_right₀ (by positivity)]
  exact isNearest_nearestRank (units a) (units_pos h)

/-- The powers of ten up to the 22nd are doubles. -/
theorem magnitude_tenPower {exponent : Nat} (h : exponent ≤ 22) :
    magnitude (tenPower exponent) = 10 ^ exponent := by
  have hfive : 5 ^ exponent < 2 ^ 53 :=
    Nat.lt_of_le_of_lt (Nat.pow_le_pow_right (by omega) h) (by decide)
  have hten : Nat.pow 10 exponent = 5 ^ exponent * 2 ^ exponent := Nat.mul_pow 5 2 exponent
  rw [tenPower, hten, magnitude_nearestRank hfive, Nat.cast_pow, ← mul_pow]
  norm_num

/-- A number is not rounded beyond a double that it does not exceed. -/
theorem IsNearest.le {rank bound : Nat} {number : ℚ} (h : IsNearest rank number)
    (hbound : number ≤ magnitude bound) : rank ≤ bound := by
  by_contra hlt
  have hmono := magnitude_strictMono (Nat.lt_of_not_le hlt)
  have hnear : |number - magnitude bound| < |number - magnitude rank| := by
    rw [abs_of_nonpos (by linarith), abs_of_nonpos (by linarith)]
    linarith
  rcases h bound (by omega) with hcloser | ⟨hequal, _⟩
  · exact absurd hcloser (not_lt.2 hnear.le)
  · exact absurd hequal hnear.ne'

theorem IsNearest.lt_rankLimit {rank : Nat} {number : ℚ} (h : IsNearest rank number)
    (hsmall : number ≤ 2 ^ 53 * 10 ^ 22) : rank < rankLimit := by
  have hunits : 2 ^ 53 * 10 ^ 22 * 2 ^ 1074 ≤ units (rankLimit - 1) := by decide +kernel
  have hlast : (2 : ℚ) ^ 53 * 10 ^ 22 ≤ magnitude (rankLimit - 1) := by
    rw [magnitude]
    generalize 1074 = scale at hunits ⊢
    rw [le_div_iff₀ (by positivity)]
    exact_mod_cast hunits
  exact Nat.lt_of_le_of_lt (h.le (hsmall.trans hlast)) (by decide)

theorem tenPower_pos {exponent : Nat} (h : exponent ≤ 22) : 0 < tenPower exponent := by
  by_contra hzero
  have hmagnitude := magnitude_tenPower h
  rw [Nat.eq_zero_of_not_pos hzero, magnitude, units_of_lt (by decide), Nat.cast_zero,
    zero_div] at hmagnitude
  exact absurd hmagnitude (ne_of_lt (by positivity))

section

variable {significand exponent : Nat}

theorem scaled_le (h : significand < 2 ^ 53) (hexponent : exponent ≤ 22) :
    (significand : ℚ) * 10 ^ exponent ≤ 2 ^ 53 * 10 ^ 22 := by
  have hless : (significand : ℚ) ≤ 2 ^ 53 := by exact_mod_cast h.le
  have hten : (10 : ℚ) ^ exponent ≤ 10 ^ 22 := pow_le_pow_right₀ (by norm_num) hexponent
  exact mul_le_mul hless hten (by positivity) (by positivity)

theorem exists_scaleByTen (h : significand < 2 ^ 53) (hexponent : exponent ≤ 22) :
    ∃ rank, scaleByTen (nearestRank significand 1) exponent = some rank ∧ rank < rankLimit ∧
      IsNearest rank (significand * 10 ^ exponent) := by
  have hsignificand : magnitude (nearestRank significand 1) = significand := by
    simpa using magnitude_nearestRank h 0
  have hnearest := isNearest_timesRank (nearestRank significand 1) (tenPower exponent)
  rw [hsignificand, magnitude_tenPower hexponent] at hnearest
  have hlimit := hnearest.lt_rankLimit (scaled_le h hexponent)
  refine ⟨_, ?_, hlimit, hnearest⟩
  rw [scaleByTen, Int.natAbs_natCast, if_pos (by omega), if_pos (by omega)]
  exact if_pos hlimit

theorem exists_scaleByTen_neg (h : significand < 2 ^ 53) (hexponent : exponent ≤ 22)
    (hpos : 0 < exponent) :
    ∃ rank, scaleByTen (nearestRank significand 1) (-exponent) = some rank ∧ rank < rankLimit ∧
      IsNearest rank (significand / 10 ^ exponent) := by
  have hsignificand : magnitude (nearestRank significand 1) = significand := by
    simpa using magnitude_nearestRank h 0
  have hnearest := isNearest_overRank (nearestRank significand 1) (tenPower_pos hexponent)
  rw [hsignificand, magnitude_tenPower hexponent] at hnearest
  have hsmaller : (significand : ℚ) / 10 ^ exponent ≤ significand * 10 ^ exponent := by
    have hone : (1 : ℚ) ≤ 10 ^ exponent := one_le_pow₀ (by norm_num)
    exact (div_le_self (Nat.cast_nonneg _) hone).trans
      (le_mul_of_one_le_right (Nat.cast_nonneg _) hone)
  refine ⟨_, ?_, hnearest.lt_rankLimit (hsmaller.trans (scaled_le h hexponent)), hnearest⟩
  rw [scaleByTen, Int.natAbs_neg, Int.natAbs_natCast, if_pos (by omega), if_neg (by omega)]

end

/-- The double of a decimal whose significand and power of ten are doubles is the nearest one. -/
theorem exists_ofDecimal? {significand : Nat} (h : significand < 2 ^ 53) {exponent : Int}
    (hexponent : exponent.natAbs ≤ 22) (negative : Bool) :
    ∃ x, Binary64.ofDecimal? negative significand exponent = some x ∧ x.negative = negative ∧
      IsNearest x.rank (significand * 10 ^ exponent) := by
  have hscale : ∃ rank, scaleByTen (nearestRank significand 1) exponent = some rank ∧
      rank < rankLimit ∧ IsNearest rank (significand * 10 ^ exponent) := by
    by_cases hpositive : 0 ≤ exponent
    · obtain ⟨power, rfl⟩ := Int.eq_ofNat_of_zero_le hpositive
      rw [zpow_natCast]
      exact exists_scaleByTen h (by omega)
    · obtain ⟨power, rfl⟩ := Int.exists_eq_neg_ofNat (by omega : exponent ≤ 0)
      rw [zpow_neg, zpow_natCast, ← div_eq_mul_inv]
      exact exists_scaleByTen_neg h (by omega) (by omega)
  obtain ⟨rank, hrank, hlimit, hnearest⟩ := hscale
  refine ⟨⟨negative, rank, hlimit⟩, ?_, rfl, hnearest⟩
  simp only [Binary64.ofDecimal?, hrank, dif_pos hlimit]

end QueryTree.Decimal
