import QueryTree.Text.Hexadecimal
import QueryTree.Text.Parts

/-! # Tables of characters

What characters have in common is kept for ascending ranges of codes and found by halving. A table
is written with blanks between its ranges. A range is one code, or two with a hyphen between them,
and what holds for it stands behind an equals sign. -/

namespace QueryTree.Text

structure CodeRange (α : Type) where
  first : Nat
  last : Nat
  value : α

/-- Ranges that ascend and do not overlap. -/
abbrev CodeTable (α : Type) := Array (CodeRange α)

abbrev CodePoints := CodeTable Unit

namespace CodeTable

/-! ## Looking up -/

variable {α : Type}

/-- The range that holds the code, among those from one place on and before another. -/
def search? (table : CodeTable α) (code low high : Nat) : Option (CodeRange α) :=
  if low < high then
    let middle := (low + high) / 2
    match table[middle]? with
    | none => none
    | some range =>
      if code < range.first then search? table code low middle
      else if range.last < code then search? table code (middle + 1) high
      else some range
  else none
termination_by high - low

def find? (table : CodeTable α) (c : Char) : Option (CodeRange α) :=
  search? table c.toNat 0 table.size

def value? (table : CodeTable α) (c : Char) : Option α := (find? table c).map (·.value)

def contains (table : CodeTable α) (c : Char) : Bool := (find? table c).isSome

theorem bounds_of_search? {table : CodeTable α} {code low high : Nat} {range : CodeRange α}
    (h : search? table code low high = some range) : range.first ≤ code ∧ code ≤ range.last := by
  fun_induction search? table code low high with
  | case1 | case5 => cases h
  | case2 _ _ _ _ _ _ _ ih | case3 _ _ _ _ _ _ _ _ ih => exact ih h
  | case4 => cases h; omega

theorem bounds_of_find? {table : CodeTable α} {c : Char} {range : CodeRange α}
    (h : find? table c = some range) : range.first ≤ c.toNat ∧ c.toNat ≤ range.last :=
  bounds_of_search? h

/-! ## Writing tables -/

/-- What stands before the first mark and what stands behind it. -/
def cutAt (mark : Char) (text : List Char) : List Char × List Char :=
  (text.takeWhile (· != mark), (text.dropWhile (· != mark)).drop 1)

def rangeOfText (read : List Char → α) (text : List Char) : CodeRange α :=
  let (codes, spelled) := cutAt '=' text
  let (first, last) := cutAt '-' codes
  ⟨ofHex first, ofHex (if last.isEmpty then first else last), read spelled⟩

def ofText (read : List Char → α) (text : String) : CodeTable α :=
  let parts := ((text.replace "\n" " ").splitOn " ").filter fun part => !part.isEmpty
  (parts.map fun part => rangeOfText read part.toList).toArray

end CodeTable

def CodePoints.ofText (text : String) : CodePoints := CodeTable.ofText (fun _ => ()) text

/-! ## Sequences -/

/-- What each code of a range stands for, in their order. -/
abbrev Sequences := CodeTable (Array (List Char))

/-- A slash stands between the codes of a range, and a plus between the characters of a sequence. -/
def Sequences.ofText (text : String) : Sequences :=
  CodeTable.ofText
    (fun spelled =>
      ((splitAt '/' spelled).map fun sequence =>
        (splitAt '+' sequence).map fun digits => Char.ofNat (ofHex digits)).toArray) text

def Sequences.sequence? (table : Sequences) (c : Char) : Option (List Char) :=
  (CodeTable.find? table c).bind fun range => range.value[c.toNat - range.first]?

end QueryTree.Text
