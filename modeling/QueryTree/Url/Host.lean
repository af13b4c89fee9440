import QueryTree.Url.Basic
import QueryTree.Url.Encoding
import QueryTree.Url.Domain

/-! # Reading hosts

A host in brackets is an IPv6 address. Any other host of a special scheme is a domain name with its
percent signs decoded, or an IPv4 address if its last label is a number. -/

namespace QueryTree

namespace Host

open Text (splitAt)

/-! ## IPv4 addresses -/

def numberIn? (base : Nat) (digits : List Char) : Option Nat :=
  digits.foldlM (fun n c =>
    match Text.hexValue? c with
    | some d => if d < base then some (n * base + d) else none
    | none => none) 0

/-- A number is decimal, octal after a zero or hexadecimal after `0x`. -/
def addressNumber? : List Char → Option Nat
  | [] => none
  | '0' :: 'x' :: digits => numberIn? 16 digits
  | '0' :: 'X' :: digits => numberIn? 16 digits
  | '0' :: digit :: digits => numberIn? 8 (digit :: digits)
  | digits => numberIn? 10 digits

/-- The labels of a domain without an empty one at the end. -/
def labelsOf (domain : List Char) : List (List Char) :=
  match (splitAt '.' domain).reverse with
  | [] :: rest => rest.reverse
  | labels => labels.reverse

def endsInNumber (domain : List Char) : Bool :=
  match (labelsOf domain).getLast? with
  | none => false
  | some label => (label ≠ [] && label.all Char.isDigit) || (addressNumber? label).isSome

/-- The last of up to four numbers fills all places that the others leave. -/
def ipv4? (domain : List Char) : Option (BitVec 32) :=
  match (labelsOf domain).mapM addressNumber? with
  | none => none
  | some numbers =>
    match numbers.reverse with
    | [] => none
    | last :: others =>
      let others := others.reverse
      if others.length ≤ 3 ∧ others.all (· ≤ 255) ∧ last < 1 <<< (8 * (4 - others.length)) then
        some (BitVec.ofNat 32
          (others.foldl (fun n octet => n * 256 + octet) 0 <<< (8 * (4 - others.length)) + last))
      else none

/-! ## IPv6 addresses -/

def hexPiece? (group : List Char) : Option Nat :=
  if group ≠ [] ∧ group.length ≤ 4 then numberIn? 16 group else none

/-- A number up to 255 without leading zeros. -/
def octet? (digits : List Char) : Option Nat :=
  match digits with
  | ['0'] => some 0
  | '0' :: _ => none
  | _ =>
    match Decimal.natural? digits with
    | some n => if n ≤ 255 then some n else none
    | none => none

/-- The two pieces that four numbers between dots stand for. -/
def dottedPieces? (group : List Char) : Option (List Nat) :=
  match (splitAt '.' group).mapM octet? with
  | some [a, b, c, d] => some [a * 256 + b, c * 256 + d]
  | _ => none

/-- The pieces of groups between colons, the last of which may be dotted. -/
def groupPieces? (dotted : Bool) : List (List Char) → Option (List Nat)
  | [] => some []
  | [group] =>
    if dotted && group.contains '.' then dottedPieces? group else (hexPiece? group).map ([·])
  | group :: rest =>
    match hexPiece? group, groupPieces? dotted rest with
    | some piece, some pieces => some (piece :: pieces)
    | _, _ => none

def sidePieces? (dotted : Bool) (side : List Char) : Option (List Nat) :=
  if side.isEmpty then some [] else groupPieces? dotted (splitAt ':' side)

/-- What stands before and after the first two colons in a row. -/
def splitAtGap : List Char → Option (List Char × List Char)
  | [] => none
  | ':' :: ':' :: rest => some ([], rest)
  | c :: rest => (splitAtGap rest).map fun sides => (c :: sides.1, sides.2)

def ofPieces (pieces : List Nat) : BitVec 128 :=
  BitVec.ofNat 128 (pieces.foldl (fun n piece => n * 65536 + piece) 0)

/-- Eight pieces, or fewer around two colons that stand for one or more zeros. -/
def ipv6? (text : List Char) : Option (BitVec 128) :=
  match splitAtGap text with
  | none =>
    match groupPieces? true (splitAt ':' text) with
    | some pieces => if pieces.length = 8 then some (ofPieces pieces) else none
    | none => none
  | some (front, back) =>
    match sidePieces? false front, sidePieces? true back with
    | some high, some low =>
      if high.length + low.length ≤ 7 then
        some (ofPieces (high ++ List.replicate (8 - high.length - low.length) 0 ++ low))
      else none
    | _, _ => none

/-! ## Hosts -/

def ofBrackets? (text : List Char) : Except UrlError Host :=
  match text.reverse with
  | ']' :: inside =>
    match ipv6? inside.reverse with
    | some address => .ok (.ipv6 address)
    | none => .error .badIpv6
  | _ => .error .badIpv6

def ofDomain? (domain : List Char) : Except UrlError Host :=
  if domain.isEmpty then .error .emptyHost
  else if endsInNumber domain then
    match ipv4? domain with
    | some address => .ok (.ipv4 address)
    | none => .error .badIpv4
  else .ok (.domain (String.ofList domain))

/-- The host of a special scheme. -/
def ofText? : List Char → Except UrlError Host
  | '[' :: rest => ofBrackets? rest
  | text =>
    match (Url.textOfBytes? (Url.decode text)).bind fun name => Url.Domain.ascii? name.toList with
    | some name => ofDomain? name
    | none => .error .badDomain

def isForbidden (c : Char) : Bool :=
  c.toNat == 0 || " \t\n\r#/:<>?@[\\]^|".toList.contains c

/-- The host of any other scheme, which is kept as it is. -/
def ofOpaqueText? : List Char → Except UrlError Host
  | '[' :: rest => ofBrackets? rest
  | text =>
    if text.any isForbidden then .error .badHostCharacter
    else .ok (.domain (String.ofList (Url.encodeWith Url.isControl text)))

end Host

end QueryTree
