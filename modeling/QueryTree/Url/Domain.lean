import QueryTree.Text.Composition
import QueryTree.Text.Direction
import QueryTree.Text.Joining
import QueryTree.Url.DomainMapping
import QueryTree.Url.Punycode

/-! # Domain names

A domain name is mapped, composed and cut into labels. A label with characters beyond ASCII is
written in Punycode behind a mark of four characters. A label that comes with the mark must be one
that could have been written so. -/

namespace QueryTree.Url.Domain

open Text

/-! ## Labels -/

def isForbidden (c : Char) : Bool :=
  c.toNat ≤ 0x20 || c.toNat == 0x7F || "%#/:<>?@[\\]^|".toList.contains c

def punycodeMark : List Char := "xn--".toList

def isAscii (c : Char) : Bool := c.toNat < 0x80

def maxDecoded : Nat := 2000

def maxEncoded : Nat := 1000

/-- The characters that a label stands for. -/
def spelled? (label : List Char) : Option (List Char) :=
  if punycodeMark.isPrefixOf label then
    let rest := label.drop punycodeMark.length
    if rest.all isAscii && rest.length ≤ maxDecoded then
      (Punycode.decode? rest).filter fun decoded => !decoded.all isAscii
    else none
  else some label

def written? (label : List Char) : Option (List Char) :=
  if label.all isAscii then some label
  else if label.length ≤ maxEncoded then some (punycodeMark ++ Punycode.encode label)
  else none

/-! ## Joiners -/

def joiner : Char := Char.ofNat 0x200D

def nonJoiner : Char := Char.ofNat 0x200C

/-- How the first letter joins that is not transparent. -/
def nextJoining (text : List Char) : Joining :=
  match text.dropWhile fun c => Joining.ofChar c == .transparent with
  | [] => .none
  | c :: _ => Joining.ofChar c

def isBehindVirama (before : List Char) : Bool :=
  before.head?.any fun mark => combiningClass mark == viramaClass

/-- Whether the letters around a place would be joined. -/
def isInsideJoin (before rest : List Char) : Bool :=
  (nextJoining before).joinsNext && (nextJoining rest).joinsPrevious

/-- A joiner may follow a virama. A non-joiner may also keep apart letters that would be joined.
What stands before is given from its end on. -/
def joinersFit (before : List Char) : List Char → Bool
  | [] => true
  | c :: rest =>
    (if c = joiner then isBehindVirama before
      else if c = nonJoiner then isBehindVirama before || isInsideJoin before rest
      else true) && joinersFit (c :: before) rest

def isWellFormed (label : List Char) : Bool :=
  label.all (fun c => DomainMapping.isValid c && !isForbidden c) && compose label == label &&
    !label.head?.any isMark && joinersFit [] label

/-! ## Directions -/

/-- A label begins with a letter, holds no letter of the other direction, and ends in a letter or
number, apart from marks. Only one kind of numbers goes with letters written to the left. -/
def keepsDirection (label : List Char) : Bool :=
  let directions := label.map Direction.ofChar
  let last := ((directions.reverse.dropWhile (· == .mark)).head?).getD .mark
  match directions.head? with
  | none => true
  | some .leftward =>
    !directions.contains .rightward && [.leftward, .number, .arabicNumber].contains last &&
      !(directions.contains .number && directions.contains .arabicNumber)
  | some .rightward =>
    !directions.contains .leftward && !directions.contains .arabicNumber &&
      [.rightward, .number].contains last
  | some _ => false

def hasLeftward (label : List Char) : Bool :=
  label.any fun c => [.leftward, .arabicNumber].contains (Direction.ofChar c)

/-! ## Names -/

/-- The form of a name in lower case ASCII. -/
def ascii? (text : List Char) : Option (List Char) := do
  let mapped ← text.mapM DomainMapping.mapped?
  let labels := splitAt '.' (compose mapped.flatten)
  let spelled ← labels.mapM spelled?
  let written ← labels.mapM written?
  if spelled.all isWellFormed && (!spelled.any hasLeftward || spelled.all keepsDirection) then
    some (joinWith '.' written)
  else none

end QueryTree.Url.Domain
