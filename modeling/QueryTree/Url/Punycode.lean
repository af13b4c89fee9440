import QueryTree.Decimal.Digits

/-! # Punycode

A label of a domain name with characters beyond ASCII is written as its ASCII characters followed by
a description of where the others go in. The others go in by ascending code; each is told by how many
places and codes it lies behind the one before, in digits whose weights adapt. -/

namespace QueryTree.Url.Punycode

-- The core library's power, so that powers mean the same whatever else is imported.
attribute [local instance (high)] instPowNat

def maxDigit : Nat := 36

/-- The value of a digit from which on the next digit counts. -/
def threshold (k bias : Nat) : Nat :=
  if k ≤ bias then 1 else if bias + 26 ≤ k then 26 else k - bias

theorem threshold_pos (k bias : Nat) : 1 ≤ threshold k bias := by
  unfold threshold; split <;> (try split) <;> omega

theorem threshold_le (k bias : Nat) : threshold k bias ≤ 26 := by
  unfold threshold; split <;> (try split) <;> omega

def shrink (delta k : Nat) : Nat × Nat :=
  if 455 < delta then shrink (delta / 35) (k + maxDigit) else (delta, k)
termination_by delta
decreasing_by exact Nat.div_lt_self (by omega) (by omega)

/-- The bias after a character: how far the digits of the next one are likely to reach. -/
def adapt (delta count : Nat) (isFirst : Bool) : Nat :=
  let scaled := if isFirst then delta / 700 else delta / 2
  let (delta, k) := shrink (scaled + scaled / count) 0
  k + maxDigit * delta / (delta + 38)

/-! ## Reading -/

def digitValue? (c : Char) : Option Nat :=
  if c.isDigit then some (c.toNat - 22)
  else if c.isLower then some (c.toNat - 97)
  else if c.isUpper then some (c.toNat - 65)
  else none

/-- Distances and weights are words of 32 bits. -/
def wordLimit : Nat := 2 ^ (32 : Nat)

/-- Reads the distance to the next character. -/
def readDistance (bias k weight distance : Nat) : List Char → Option (Nat × List Char)
  | [] => none
  | c :: rest =>
    match digitValue? c with
    | none => none
    | some digit =>
      let distance := distance + digit * weight
      let t := threshold k bias
      if wordLimit ≤ distance then none
      else if digit < t then some (distance, rest)
      else if wordLimit ≤ weight * (maxDigit - t) then none
      else readDistance bias (k + maxDigit) (weight * (maxDigit - t)) distance rest

theorem length_of_readDistance {bias k weight distance found : Nat} {text rest : List Char}
    (h : readDistance bias k weight distance text = some (found, rest)) :
    rest.length < text.length := by
  induction text generalizing k weight distance with
  | nil => simp [readDistance] at h
  | cons c tail ih =>
    rw [readDistance] at h
    split at h
    · cases h
    · dsimp only at h
      split at h
      · cases h
      · split at h
        · cases h; simp
        · split at h
          · cases h
          · have := ih h; simp; omega

/-- Puts in the characters that the text tells, from the code and position on. -/
def insertTold (bias code position : Nat) (label : List Char) (text : List Char) :
    Option (List Char) :=
  if text.isEmpty then some label
  else
    match h : readDistance bias maxDigit 1 position text with
    | none => none
    | some (distance, rest) =>
      let count := label.length + 1
      let code := code + distance / count
      let place := distance % count
      if code.isValidChar then
        have : rest.length < text.length := length_of_readDistance h
        insertTold (adapt (distance - position) count (position == 0)) code (place + 1)
          (label.insertIdx place (Char.ofNat code)) rest
      else none
termination_by text.length

/-- The label that the text behind the mark of such labels spells. The last hyphen ends the ASCII
characters, if there are any. -/
def decode? (text : List Char) : Option (List Char) :=
  let told := (text.reverse.takeWhile (· != '-')).reverse
  let basic := text.take (text.length - told.length - 1)
  insertTold 72 128 0 basic (if basic.isEmpty then text else told)

/-! ## Writing -/

def digit (value : Nat) : Char := Char.ofNat (if value < 26 then 97 + value else 22 + value)

def writeDistance (bias k distance : Nat) : List Char :=
  let t := threshold k bias
  if distance < t then [digit distance]
  else digit (t + (distance - t) % (maxDigit - t)) ::
    writeDistance bias (k + maxDigit) ((distance - t) / (maxDigit - t))
termination_by distance
decreasing_by
  have h1 := threshold_pos k bias
  have h2 := threshold_le k bias
  calc (distance - threshold k bias) / (maxDigit - threshold k bias)
      ≤ distance - threshold k bias := Nat.div_le_self _ _
    _ < distance := by omega

structure Writing where
  written : List Char
  distance : Nat
  bias : Nat
  count : Nat

/-- Goes over one character of the label while those with the code are written. -/
def Writing.pass (basics code : Nat) (state : Writing) (c : Char) : Writing :=
  if c.toNat < code then { state with distance := state.distance + 1 }
  else if c.toNat = code then
    ⟨state.written ++ writeDistance state.bias maxDigit state.distance, 0,
      adapt state.distance (state.count + 1) (state.count == basics), state.count + 1⟩
  else state

def Writing.passAll (label : List Char) (basics : Nat) (state : Writing) (next : Nat) :
    List Nat → Writing
  | [] => state
  | code :: codes =>
    let start := { state with distance := state.distance + (code - next) * (state.count + 1) }
    let done := label.foldl (pass basics code) start
    passAll label basics { done with distance := done.distance + 1 } (code + 1) codes

def insertCode (code : Nat) : List Nat → List Nat
  | [] => [code]
  | other :: rest =>
    if code < other then code :: other :: rest
    else if code = other then other :: rest
    else other :: insertCode code rest

/-- The text behind the mark for a label. -/
def encode (label : List Char) : List Char :=
  let basic := label.filter fun c => c.toNat < 128
  let codes := ((label.filter fun c => 128 ≤ c.toNat).map Char.toNat).foldr insertCode []
  let start : Writing := ⟨basic ++ (if basic.isEmpty then [] else ['-']), 0, 72, basic.length⟩
  (Writing.passAll label basic.length start 128 codes).written

end QueryTree.Url.Punycode
