/-! # Text from any bytes

Bytes are read as UTF-8. A sequence that breaks off, or a byte that starts none, stands for one
replacement character. -/

namespace QueryTree.Text

/-- The least and greatest byte at each place after a first byte, if that byte starts a sequence. -/
def followers? (lead : Nat) : Option (List (Nat × Nat)) :=
  let any := (0x80, 0xBF)
  if lead < 0x80 then some []
  else if lead < 0xC2 then none
  else if lead < 0xE0 then some [any]
  else if lead = 0xE0 then some [(0xA0, 0xBF), any]
  else if lead = 0xED then some [(0x80, 0x9F), any]
  else if lead < 0xF0 then some [any, any]
  else if lead = 0xF0 then some [(0x90, 0xBF), any, any]
  else if lead < 0xF4 then some [any, any, any]
  else if lead = 0xF4 then some [(0x80, 0x8F), any, any]
  else none

/-- The bytes at the start that lie in the ranges, one after the other. -/
def takeWithin : List (Nat × Nat) → List UInt8 → List UInt8
  | (low, high) :: ranges, byte :: rest =>
    if low ≤ byte.toNat && byte.toNat ≤ high then byte :: takeWithin ranges rest else []
  | _, _ => []

def replacement : Char := Char.ofNat 0xFFFD

/-- The character with a first byte and as many followers as that byte asks for. -/
def sequenceChar (lead : Nat) (followers : List UInt8) : Char :=
  let bits := match followers.length with
    | 0 => lead
    | 1 => lead - 0xC0
    | 2 => lead - 0xE0
    | _ => lead - 0xF0
  Char.ofNat (followers.foldl (fun n byte => n * 64 + (byte.toNat - 0x80)) bits)

def lossyChars : List UInt8 → List Char
  | [] => []
  | lead :: rest =>
    match followers? lead.toNat with
    | none => replacement :: lossyChars rest
    | some ranges =>
      let found := takeWithin ranges rest
      (if found.length = ranges.length then sequenceChar lead.toNat found else replacement) ::
        lossyChars (rest.drop found.length)
termination_by bytes => bytes.length
decreasing_by all_goals simp; try omega

def lossyText (bytes : List UInt8) : String := String.ofList (lossyChars bytes)

end QueryTree.Text
