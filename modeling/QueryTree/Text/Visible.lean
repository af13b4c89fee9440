import QueryTree.Text.Hidden

/-! # Quoted text in messages

In a message every character of a quoted text can be seen: hidden characters are written by their
code points. -/

namespace QueryTree.Text

def hexDigits (n : Nat) : List Char := Nat.toDigits 16 n

def visible (c : Char) : List Char :=
  if c = '\x00' then ['\\', '0']
  else if c = '\t' then ['\\', 't']
  else if c = '\r' then ['\\', 'r']
  else if c = '\n' then ['\\', 'n']
  else if c = '\\' then ['\\', '\\']
  else if c = '"' then ['\\', '"']
  else if isHidden c then '\\' :: 'u' :: '\x7b' :: (hexDigits c.toNat ++ ['\x7d'])
  else [c]

def visiblyQuoted (text : String) : String :=
  String.ofList ('"' :: (text.toList.flatMap visible ++ ['"']))

end QueryTree.Text
