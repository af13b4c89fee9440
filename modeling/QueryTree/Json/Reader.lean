import QueryTree.Json.Fault
import QueryTree.Text.Hexadecimal

/-! # Reading JSON text

A reader takes what it reads off the front of the text and leaves the rest. Arrays and objects may
stand inside each other 127 deep. -/

namespace QueryTree

abbrev Reader (α : Type) := List Char → Except Json.Fault (α × List Char)

namespace Reader

open Json (Cause Fault Failure byteLength)
open Text (hexValue?)

def isSpace (c : Char) : Bool := c == ' ' || c == '\n' || c == '\t' || c == '\r'

def skipSpace (text : List Char) : List Char := text.dropWhile isSpace

/-! ## Words -/

/-- Reads the rest of a word whose first letter has been read. -/
def readWord : List Char → List Char → Except Fault (List Char)
  | [], text => .ok text
  | _ :: _, [] => .error (.before .endOfValue [])
  | letter :: letters, c :: rest =>
    if c = letter then readWord letters rest else .error (.inside .expectedWord (c :: rest))

/-! ## Numbers -/

/-- The digits at the front of the text and the rest. -/
def splitDigits (text : List Char) : List Char × List Char :=
  (text.takeWhile Char.isDigit, text.dropWhile Char.isDigit)

/-- Reads the digits before the point. `atEnd` is the cause when the text ends too early. -/
def readWhole (atEnd : Cause) : Reader (List Char)
  | [] => .error (.before atEnd [])
  | '0' :: rest =>
    match rest with
    | [] => .ok (['0'], [])
    | c :: _ => if c.isDigit then .error (.inside .badNumber rest) else .ok (['0'], rest)
  | c :: rest =>
    if c.isDigit then .ok (splitDigits (c :: rest)) else .error (.inside .badNumber (c :: rest))

def readFraction (atEnd : Cause) : Reader (Option (List Char))
  | '.' :: rest =>
    match splitDigits rest with
    | ([], []) => .error (.before atEnd [])
    | ([], after) => .error (.inside .badNumber after)
    | (ds, after) => .ok (some ds, after)
  | text => .ok (none, text)

def readExponentDigits (atEnd : Cause) (negative : Bool) (text : List Char) :
    Except Fault (Option (Bool × List Char) × List Char) :=
  match splitDigits text with
  | ([], []) => .error (.before atEnd [])
  | ([], after) => .error (.inside .badNumber after)
  | (ds, after) => .ok (some (negative, ds), after)

def readExponent (atEnd : Cause) : Reader (Option (Bool × List Char))
  | c :: rest =>
    if c = 'e' ∨ c = 'E' then
      match rest with
      | '+' :: after => readExponentDigits atEnd false after
      | '-' :: after => readExponentDigits atEnd true after
      | after => readExponentDigits atEnd false after
    else .ok (none, c :: rest)
  | [] => .ok (none, [])

/-- Reads a number's parts after its sign. -/
def readSpelling (atEnd : Cause) (negative : Bool) : Reader Number.Spelling := fun text => do
  let (whole, rest) ← readWhole atEnd text
  let (fraction, rest) ← readFraction atEnd rest
  let (exponent, rest) ← readExponent atEnd rest
  .ok (⟨negative, whole, fraction, exponent⟩, rest)

def readNumber (negative : Bool) : Reader Number := fun text => do
  let (spelling, rest) ← readSpelling .endOfValue negative text
  match spelling.number? with
  | some number => .ok (number, rest)
  | none => .error ⟨.numberTooLarge, byteLength rest + spelling.unread⟩

/-! ## Texts -/

/-- The fault of four bytes that are not hexadecimal digits, or of fewer than four. -/
def hexFault (text : List Char) : Fault :=
  if 4 ≤ byteLength text then ⟨.badEscape, byteLength text - 4⟩ else .before .endOfText []

/-- Reads four hexadecimal digits. -/
def readUnit : Reader Nat
  | a :: b :: c :: d :: rest =>
    match hexValue? a, hexValue? b, hexValue? c, hexValue? d with
    | some p, some q, some r, some s => .ok (((p * 16 + q) * 16 + r) * 16 + s, rest)
    | _, _, _, _ => .error (hexFault (a :: b :: c :: d :: rest))
  | text => .error (hexFault text)

def isHighSurrogate (unit : Nat) : Bool := 0xD800 ≤ unit && unit ≤ 0xDBFF

def isLowSurrogate (unit : Nat) : Bool := 0xDC00 ≤ unit && unit ≤ 0xDFFF

/-- Reads the second half of a pair of surrogates. -/
def readPair (high : Nat) : Reader Char
  | '\\' :: 'u' :: rest => do
    let (low, after) ← readUnit rest
    if isLowSurrogate low then
      .ok (Char.ofNat ((high - 0xD800) * 0x400 + (low - 0xDC00) + 0x10000), after)
    else .error (.before .loneSurrogate after)
  | ['\\'] => .error (.before .endOfText [])
  | '\\' :: rest => .error (.inside .halfEscape rest)
  | [] => .error (.before .endOfText [])
  | text => .error (.inside .halfEscape text)

def readHexEscape : Reader Char := fun text => do
  let (unit, rest) ← readUnit text
  if isLowSurrogate unit then .error (.before .loneSurrogate rest)
  else if isHighSurrogate unit then readPair unit rest
  else .ok (Char.ofNat unit, rest)

/-- The character that a backslash and a letter other than `u` stand for. -/
def escapeOf? (letter : Char) : Option Char :=
  if letter = '"' then some '"'
  else if letter = '\\' then some '\\'
  else if letter = '/' then some '/'
  else if letter = 'b' then some '\x08'
  else if letter = 'f' then some '\x0c'
  else if letter = 'n' then some '\n'
  else if letter = 'r' then some '\r'
  else if letter = 't' then some '\t'
  else none

/-- Reads an escape after its backslash. -/
def readEscape : Reader Char
  | [] => .error (.before .endOfText [])
  | letter :: rest =>
    if letter = 'u' then readHexEscape rest
    else match escapeOf? letter with
      | some c => .ok (c, rest)
      | none => .error (.inside .badEscape (letter :: rest))

theorem readUnit_shorter {text rest : List Char} {unit : Nat} (h : readUnit text = .ok (unit, rest)) :
    rest.length < text.length := by
  unfold readUnit at h
  split at h
  · split at h
    · simp only [Except.ok.injEq, Prod.mk.injEq] at h
      obtain ⟨_, rfl⟩ := h
      simp only [List.length_cons]
      omega
    · simp at h
  · simp at h

theorem readPair_shorter {high : Nat} {text rest : List Char} {c : Char}
    (h : readPair high text = .ok (c, rest)) : rest.length < text.length := by
  unfold readPair at h
  split at h
  · next after =>
    cases hu : readUnit after with
    | error fault => simp [hu, bind, Except.bind] at h
    | ok found =>
      obtain ⟨low, last⟩ := found
      have hs := readUnit_shorter hu
      simp only [hu, bind, Except.bind] at h
      split at h
      · simp only [Except.ok.injEq, Prod.mk.injEq] at h
        obtain ⟨_, rfl⟩ := h
        simp only [List.length_cons]
        omega
      · simp at h
  all_goals simp at h

theorem readHexEscape_shorter {text rest : List Char} {c : Char}
    (h : readHexEscape text = .ok (c, rest)) : rest.length < text.length := by
  unfold readHexEscape at h
  cases hu : readUnit text with
  | error fault => simp [hu, bind, Except.bind] at h
  | ok found =>
    obtain ⟨unit, after⟩ := found
    have hs := readUnit_shorter hu
    simp only [hu, bind, Except.bind] at h
    split at h
    · simp at h
    · split at h
      · exact Nat.lt_trans (readPair_shorter h) hs
      · simp only [Except.ok.injEq, Prod.mk.injEq] at h
        obtain ⟨_, rfl⟩ := h
        exact hs

theorem readEscape_shorter {text rest : List Char} {c : Char}
    (h : readEscape text = .ok (c, rest)) : rest.length < text.length := by
  unfold readEscape at h
  split at h
  · simp at h
  · next letter after =>
    split at h
    · exact Nat.lt_succ_of_lt (readHexEscape_shorter h)
    · split at h
      · simp only [Except.ok.injEq, Prod.mk.injEq] at h
        obtain ⟨_, rfl⟩ := h
        simp
      · simp at h

/-- Reads a text after its opening quote. `back` holds the characters read so far, last first. -/
def readTextFrom (back : List Char) (text : List Char) : Except Fault (String × List Char) :=
  match text with
  | [] => .error (.before .endOfText [])
  | c :: rest =>
    if c = '"' then .ok (String.ofList back.reverse, rest)
    else if c = '\\' then
      match h : readEscape rest with
      | .error fault => .error fault
      | .ok (decoded, after) =>
        have : after.length < rest.length := readEscape_shorter h
        readTextFrom (decoded :: back) after
    else if c.toNat < 32 then .error (.inside .controlCharacter (c :: rest))
    else readTextFrom (c :: back) rest
termination_by text.length

def readText : Reader String := readTextFrom []

/-! ## Items and members -/

/-- Steps through the items of an array that is known to have another one, up to and with the
closing bracket. -/
def foldItems {σ : Type} (step : σ → Reader σ) : Nat → σ → Reader σ
  | 0, _, text => .error (.before .endOfArray text)
  | fuel + 1, state, text => do
    let (state, rest) ← step state text
    match skipSpace rest with
    | [] => .error (.before .endOfArray [])
    | c :: after =>
      if c = ']' then .ok (state, after)
      else if c = ',' then
        match skipSpace after with
        | [] => .error (.before .endOfValue [])
        | d :: more =>
          if d = ']' then .error (.inside .trailingComma (d :: more))
          else foldItems step fuel state (d :: more)
      else .error (.inside .expectedCommaInArray (c :: after))

/-- Steps through the items of an array after the opening bracket. -/
def readItems {σ : Type} (fuel : Nat) (step : σ → Reader σ) (start : σ) : Reader σ := fun text =>
  match skipSpace text with
  | [] => .error (.before .endOfArray [])
  | c :: after => if c = ']' then .ok (start, after) else foldItems step fuel start (c :: after)

def readColon (text : List Char) : Except Fault (List Char) :=
  match skipSpace text with
  | [] => .error (.before .endOfObject [])
  | c :: rest => if c = ':' then .ok rest else .error (.inside .expectedColon (c :: rest))

/-- Steps through the members of an object after the opening quote of a key, up to and with the
closing brace. A step gets the key and reads on from the colon. -/
def foldMembers {σ : Type} (step : σ → String → Reader σ) : Nat → σ → Reader σ
  | 0, _, text => .error (.before .endOfObject text)
  | fuel + 1, state, text => do
    let (key, rest) ← readText text
    let (state, rest) ← step state key rest
    match skipSpace rest with
    | [] => .error (.before .endOfObject [])
    | c :: after =>
      if c = '\x7d' then .ok (state, after)
      else if c = ',' then
        match skipSpace after with
        | [] => .error (.before .endOfValue [])
        | d :: more =>
          if d = '"' then foldMembers step fuel state more
          else if d = '\x7d' then .error (.inside .trailingComma (d :: more))
          else .error (.inside .keyNotText (d :: more))
      else .error (.inside .expectedCommaInObject (c :: after))

/-- Steps through the members of an object after the opening brace. -/
def readMembers {σ : Type} (fuel : Nat) (step : σ → String → Reader σ) (start : σ) : Reader σ :=
  fun text =>
    match skipSpace text with
    | [] => .error (.before .endOfObject [])
    | c :: after =>
      if c = '\x7d' then .ok (start, after)
      else if c = '"' then foldMembers step fuel start after
      else .error (.inside .keyNotText (c :: after))

/-! ## Values -/

/-- Reads an item and puts it in front of those read before. -/
def pushItem {α : Type} (item : Reader α) (back : List α) : Reader (List α) := fun text => do
  let (value, rest) ← item text
  .ok (value :: back, rest)

/-- Reads a member's value. A key that comes again keeps its place and takes the new value. -/
def putMember (value : Reader Json) (members : List (String × Json)) (key : String) :
    Reader (List (String × Json)) := fun text => do
  let text ← readColon text
  let (found, rest) ← value text
  .ok (Entries.put key found members, rest)

/-- Reads a value. `inner` reads the values inside it, unless the nesting is used up. -/
def readValueWith (fuel : Nat) (inner : Option (Reader Json)) : Reader Json := fun text =>
  match skipSpace text with
  | [] => .error (.before .endOfValue [])
  | c :: rest =>
    if c = 'n' then do
      let rest ← readWord "ull".toList rest
      .ok (.null, rest)
    else if c = 't' then do
      let rest ← readWord "rue".toList rest
      .ok (.boolean true, rest)
    else if c = 'f' then do
      let rest ← readWord "alse".toList rest
      .ok (.boolean false, rest)
    else if c = '-' then do
      let (number, rest) ← readNumber true rest
      .ok (.number number, rest)
    else if c.isDigit then do
      let (number, rest) ← readNumber false (c :: rest)
      .ok (.number number, rest)
    else if c = '"' then do
      let (value, rest) ← readText rest
      .ok (.text value, rest)
    else if c = '[' then
      match inner with
      | none => .error (.inside .nestedTooDeep (c :: rest))
      | some item => do
        let (back, rest) ← readItems fuel (pushItem item) [] rest
        .ok (.array back.reverse, rest)
    else if c = '\x7b' then
      match inner with
      | none => .error (.inside .nestedTooDeep (c :: rest))
      | some value => do
        let (members, rest) ← readMembers fuel (putMember value) [] rest
        .ok (.object members, rest)
    else .error (.inside .expectedValue (c :: rest))

/-- Reads a value in which arrays and objects nest at most `depth` deep. -/
def readValue (fuel : Nat) : (depth : Nat) → Reader Json
  | 0 => readValueWith fuel none
  | depth + 1 => readValueWith fuel (some (readValue fuel depth))

/-! ## Whole texts -/

def maxDepth : Nat := 127

/-- Reads a whole text, in which nothing but white space may follow what the reader reads. The reader
gets the length of the text as its fuel. -/
def readWholeText {α : Type} (reader : Nat → Reader α) (text : String) : Except Failure α :=
  let chars := text.toList
  match reader chars.length chars with
  | .error fault => .error (fault.locate text)
  | .ok (value, rest) =>
    match skipSpace rest with
    | [] => .ok value
    | after => .error ((Fault.inside .trailingText after).locate text)

end Reader

/-- The value that a text spells. -/
def Json.ofText? (text : String) : Except Json.Failure Json :=
  Reader.readWholeText (fun fuel => Reader.readValue fuel Reader.maxDepth) text

end QueryTree
