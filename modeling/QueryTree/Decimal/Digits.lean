/-! # Decimal digits -/

namespace QueryTree.Decimal

def digit (d : Nat) : Char := Char.ofNat (48 + d % 10)

def digitValue (c : Char) : Nat := c.toNat - 48

/-- The digits of a number, without leading zeros. -/
def digits (n : Nat) : List Char :=
  if n < 10 then [digit n] else digits (n / 10) ++ [digit (n % 10)]

/-- The number that a list of digits spells. -/
def value (ds : List Char) : Nat := ds.foldl (fun n c => 10 * n + digitValue c) 0

/-- An integer with a minus sign if it is negative. -/
def integer (n : Int) : List Char :=
  if n < 0 then '-' :: digits n.natAbs else digits n.natAbs

/-- The number that the text spells in digits alone. -/
def natural? (text : List Char) : Option Nat :=
  if text ≠ [] ∧ text.all Char.isDigit then some (value text) else none

/-- The integer that the text spells in digits after at most one sign. -/
def signed? : List Char → Option Int
  | '-' :: rest => (natural? rest).map fun n => -(n : Int)
  | '+' :: rest => (natural? rest).map fun n => (n : Int)
  | text => (natural? text).map fun n => (n : Int)

theorem isDigit_digit (d : Nat) : (digit d).isDigit = true := by
  have h : d % 10 < 10 := Nat.mod_lt _ (by omega)
  unfold digit
  generalize d % 10 = k at h
  match k, h with
  | 0, _ | 1, _ | 2, _ | 3, _ | 4, _ | 5, _ | 6, _ | 7, _ | 8, _ | 9, _ => decide

theorem digitValue_digit {d : Nat} (h : d < 10) : digitValue (digit d) = d := by
  match d, h with
  | 0, _ | 1, _ | 2, _ | 3, _ | 4, _ | 5, _ | 6, _ | 7, _ | 8, _ | 9, _ => decide

theorem digits_ne_nil (n : Nat) : digits n ≠ [] := by
  unfold digits; split <;> simp

theorem digits_all_isDigit (n : Nat) : (digits n).all Char.isDigit = true := by
  induction n using Nat.strongRecOn with
  | ind n ih =>
    unfold digits
    split
    · simp [isDigit_digit]
    · rw [List.all_append, ih (n / 10) (by omega)]
      simp [isDigit_digit]

theorem value_append_singleton (ds : List Char) (c : Char) :
    value (ds ++ [c]) = 10 * value ds + digitValue c := by
  simp [value, List.foldl_append]

/-- The digits of a number spell that number. -/
theorem value_digits (n : Nat) : value (digits n) = n := by
  induction n using Nat.strongRecOn with
  | ind n ih =>
    unfold digits
    split
    · next h => simp [value, digitValue_digit h]
    · rw [value_append_singleton, ih (n / 10) (by omega),
        digitValue_digit (Nat.mod_lt _ (by omega))]
      omega

end QueryTree.Decimal
