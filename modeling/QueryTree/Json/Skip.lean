import QueryTree.Json.Reader

/-! # Passing over a value

A record passes over the values of members that it does not know. Their nesting is not limited, and
neither the size of numbers nor the pairing of surrogates is looked at. -/

namespace QueryTree.Reader

open Json (Cause Fault Failure byteLength)

/-- Passes over an escape after its backslash. -/
def skipEscape (text : List Char) : Except Fault (List Char) :=
  match text with
  | [] => .error (.before .endOfText [])
  | letter :: rest =>
    if letter = 'u' then (readUnit rest).map Prod.snd
    else match escapeOf? letter with
      | some _ => .ok rest
      | none => .error (.inside .badEscape (letter :: rest))

theorem skipEscape_shorter {text rest : List Char} (h : skipEscape text = .ok rest) :
    rest.length < text.length := by
  unfold skipEscape at h
  split at h
  · simp at h
  · next letter after =>
    split at h
    · cases hu : readUnit after with
      | error fault => simp [hu, Except.map] at h
      | ok found =>
        obtain ⟨unit, last⟩ := found
        simp only [hu, Except.map, Except.ok.injEq] at h
        subst h
        exact Nat.lt_succ_of_lt (readUnit_shorter hu)
    · split at h
      · simp only [Except.ok.injEq] at h
        subst h
        simp
      · simp at h

/-- Passes over a text after its opening quote. -/
def skipText (text : List Char) : Except Fault (List Char) :=
  match text with
  | [] => .error (.before .endOfText [])
  | c :: rest =>
    if c = '"' then .ok rest
    else if c = '\\' then
      match h : skipEscape rest with
      | .error fault => .error fault
      | .ok after =>
        have : after.length < rest.length := skipEscape_shorter h
        skipText after
    else if c.toNat < 32 then .error (.before .controlCharacter (c :: rest))
    else skipText rest
termination_by text.length

/-- Passes over a key after its opening quote, and over the colon behind it. -/
def skipKey (text : List Char) : Except Fault (List Char) := do
  let rest ← skipText text
  readColon rest

/-- Passes over a key and its colon in front of a member's value. -/
def skipMember (text : List Char) : Except Fault (List Char) :=
  match skipSpace text with
  | [] => .error (.before .endOfObject [])
  | c :: rest =>
    if c = '"' then skipKey rest else .error (.inside .keyNotText (c :: rest))

/-- Passes over a value that is neither an array nor an object. -/
def skipScalar (c : Char) (rest : List Char) : Except Fault (List Char) :=
  if c = 'n' then readWord "ull".toList rest
  else if c = 't' then readWord "rue".toList rest
  else if c = 'f' then readWord "alse".toList rest
  else if c = '-' then (readSpelling .badNumber true rest).map Prod.snd
  else if c.isDigit then (readSpelling .badNumber false (c :: rest)).map Prod.snd
  else if c = '"' then skipText rest
  else .error (.inside .expectedValue (c :: rest))

/-- What has been opened and not yet closed, the innermost first. -/
inductive Bracket where
  | square
  | curly

/-- What a value that is passed over goes on with: another value, or the end. -/
inductive Ahead where
  | value (open_ : List Bracket) (text : List Char)
  | done (rest : List Char)

/-- Goes to the next value inside the innermost bracket. -/
def enterNext (open_ : List Bracket) (bracket : Bracket) (text : List Char) :
    Except Fault Ahead :=
  match bracket with
  | .square => .ok (.value (.square :: open_) text)
  | .curly => do
    let rest ← skipMember text
    .ok (.value (.curly :: open_) rest)

/-- Closes brackets behind a value up to a comma. `fuel` bounds the number of brackets. -/
def closeBrackets : Nat → List Bracket → List Char → Except Fault Ahead
  | _, [], text => .ok (.done text)
  | 0, _, text => .ok (.done text)
  | fuel + 1, bracket :: outer, text =>
    match bracket, skipSpace text with
    | .square, [] => .error (.before .endOfArray [])
    | .curly, [] => .error (.before .endOfObject [])
    | bracket, ',' :: rest => enterNext outer bracket rest
    | .square, ']' :: rest => closeBrackets fuel outer rest
    | .curly, '\x7d' :: rest => closeBrackets fuel outer rest
    | .square, rest => .error (.inside .expectedCommaInArray rest)
    | .curly, rest => .error (.inside .expectedCommaInObject rest)

/-- Goes into brackets that have just been opened; empty ones are closed at once. -/
def openBracket (fuel : Nat) (outer : List Bracket) (bracket : Bracket) (text : List Char) :
    Except Fault Ahead :=
  match bracket, skipSpace text with
  | .square, [] => .error (.before .endOfArray [])
  | .curly, [] => .error (.before .endOfObject [])
  | .square, ']' :: rest => closeBrackets fuel outer rest
  | .curly, '\x7d' :: rest => closeBrackets fuel outer rest
  | bracket, rest => enterNext outer bracket rest

def skipStep (fuel : Nat) (outer : List Bracket) (text : List Char) : Except Fault Ahead :=
  match skipSpace text with
  | [] => .error (.before .endOfValue [])
  | c :: rest =>
    if c = '[' then openBracket fuel outer .square rest
    else if c = '\x7b' then openBracket fuel outer .curly rest
    else do
      let rest ← skipScalar c rest
      closeBrackets fuel outer rest

def skipFrom : Nat → List Bracket → List Char → Except Fault (List Char)
  | 0, _, text => .ok text
  | fuel + 1, outer, text => do
    match ← skipStep (fuel + 1) outer text with
    | .done rest => .ok rest
    | .value open_ rest => skipFrom fuel open_ rest

/-- Passes over one value. -/
def skipValue (fuel : Nat) (text : List Char) : Except Fault (List Char) :=
  skipFrom (fuel + 1) [] text

end QueryTree.Reader
