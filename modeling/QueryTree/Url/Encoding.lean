import QueryTree.Text.Hexadecimal

/-! # Percent encoding

Each part of a URL has its own set of characters that it cannot hold as they are. The bytes of such a
character are written as a percent sign and two hexadecimal digits. -/

namespace QueryTree.Url

open Text (hexValue?)

/-! ## Sets of characters -/

/-- Controls and everything beyond ASCII. -/
def isControl (c : Char) : Bool := c.toNat < 0x20 || 0x7E < c.toNat

def needsEncodingInFragment (c : Char) : Bool := isControl c || " \"<>\x60".toList.contains c

def needsEncodingInQuery (isSpecial : Bool) (c : Char) : Bool :=
  isControl c || " \"#<>".toList.contains c || (isSpecial && c == '\'')

def needsEncodingInPath (c : Char) : Bool :=
  needsEncodingInFragment c || "#?\x7b\x7d".toList.contains c

def needsEncodingInCredentials (c : Char) : Bool :=
  needsEncodingInPath c || "/:;=@[\\]^|".toList.contains c

/-! ## Encoding and decoding -/

def hexDigit (d : Nat) : Char := Char.ofNat (if d < 10 then 48 + d else 55 + d)

def encodeByte (byte : UInt8) : List Char :=
  ['%', hexDigit (byte.toNat / 16), hexDigit (byte.toNat % 16)]

def encodeWith (needsEncoding : Char → Bool) (text : List Char) : List Char :=
  text.flatMap fun c =>
    if needsEncoding c then (String.utf8EncodeChar c).flatMap encodeByte else [c]

/-- The bytes of a text in which a percent sign and two hexadecimal digits stand for a byte. -/
def decode : List Char → List UInt8
  | [] => []
  | '%' :: high :: low :: rest =>
    match hexValue? high, hexValue? low with
    | some h, some l => UInt8.ofNat (16 * h + l) :: decode rest
    | _, _ => 37 :: decode (high :: low :: rest)
  | c :: rest => String.utf8EncodeChar c ++ decode rest

/-- The text that the bytes spell in UTF-8. -/
def textOfBytes? (bytes : List UInt8) : Option String := String.fromUTF8? ⟨bytes.toArray⟩

end QueryTree.Url
