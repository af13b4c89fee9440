import QueryTree.Json.Basic
import QueryTree.Decimal.Shortest

/-! # Numbers as JSON text -/

namespace QueryTree.Number

-- The core library's power, so that powers mean the same whatever else is imported.
attribute [local instance (high)] instPowNat

open QueryTree.Decimal

/-! ## Writing -/

/-- Puts the point into the digits of a number whose first digit stands for `10 ^ leading`. -/
def positional (ds : List Char) (leading : Int) : List Char :=
  if leading < 0 then
    '0' :: '.' :: (List.replicate (-leading - 1).toNat '0' ++ ds)
  else
    let before := leading.toNat + 1
    if ds.length ≤ before then ds ++ List.replicate (before - ds.length) '0' ++ ['.', '0']
    else ds.take before ++ '.' :: ds.drop before

/-- One digit, the others after a point, and the exponent with its sign. -/
def exponential (ds : List Char) (leading : Int) : List Char :=
  let mantissa := match ds with
    | first :: second :: rest => first :: '.' :: second :: rest
    | short => short
  mantissa ++ 'e' :: (if leading < 0 then '-' else '+') :: digits leading.natAbs

/-- Positional from `10 ^ -5` up to below `10 ^ 16`, with an exponent outside. -/
def realText (x : Binary64) : List Char :=
  let found := shortest x.rank
  let ds := digits found.coefficient
  let leading := found.exponent + (ds.length - 1 : Nat)
  let magnitude :=
    if -5 ≤ leading ∧ leading < 16 then positional ds leading else exponential ds leading
  if x.negative then '-' :: magnitude else magnitude

def spell : Number → List Char
  | .whole value _ => integer value
  | .real value => realText value

def toText (n : Number) : String := String.ofList n.spell

/-- The natural number below `2 ^ 64`. -/
def ofNat? (n : Nat) : Option Number :=
  if h : -2 ^ (63 : Nat) ≤ (n : Int) ∧ (n : Int) < 2 ^ (64 : Nat) then some (.whole n h)
  else none

def ofInt? (n : Int) : Option Number :=
  if h : -2 ^ (63 : Nat) ≤ n ∧ n < 2 ^ (64 : Nat) then some (.whole n h) else none

/-! ## Reading -/

/-- The parts of a number's text; an exponent has its sign before its digits. -/
structure Spelling where
  negative : Bool
  whole : List Char
  fraction : Option (List Char)
  exponent : Option (Bool × List Char)

/-- Appends digits to a number as long as it stays below `2 ^ 64`, and gives back the digits that
are left. -/
def absorb (number : Nat) : List Char → Nat × List Char
  | [] => (number, [])
  | d :: rest =>
    let longer := number * 10 + digitValue d
    if longer < 2 ^ (64 : Nat) then absorb longer rest else (number, d :: rest)

/-- The significand of at most 64 bits and the decimal exponent that a spelling stands for. Digits
that no longer fit count as zeros. -/
def Spelling.scaled (s : Spelling) : Nat × Int :=
  let (significand, left) := absorb 0 s.whole
  let fraction := s.fraction.getD []
  let (significand, dropped) := absorb significand fraction
  let exponent : Int := (left.length : Int) - (fraction.length - dropped.length : Nat)
  match s.exponent with
  | none => (significand, exponent)
  | some (negative, ds) =>
    (significand, if negative then exponent - value ds else exponent + value ds)

/-- The number, unless its magnitude is too large. An integer of 64 bits stays one, and every other
number, zero with a minus sign among them, is a double. -/
def Spelling.number? (s : Spelling) : Option Number :=
  let (significand, exponent) := s.scaled
  let double := (Binary64.ofDecimal? s.negative significand exponent).map Number.real
  match s.fraction, s.exponent with
  | none, none =>
    if exponent ≠ 0 then double
    else if s.negative then if significand = 0 then double else (ofInt? (-significand)).or double
    else (ofNat? significand).or double
  | _, _ => double

/-- How many digits of an exponent are read before it exceeds 31 bits, that digit included. -/
def exponentDigits (limit number : Nat) : List Char → Nat
  | [] => 0
  | d :: rest =>
    let longer := number * 10 + digitValue d
    if limit < longer then 1 else exponentDigits limit longer rest + 1

/-- How many characters of the spelling lie behind the place where it proves to be too large. -/
def Spelling.unread (s : Spelling) : Nat :=
  match s.exponent with
  | none => 0
  | some (_, ds) => ds.length - exponentDigits (2 ^ (31 : Nat) - 1) 0 ds

end QueryTree.Number
