/-! # Similar texts

How much two texts resemble each other is a number from 0 to 1. Characters match if they are equal
and stand at about the same place. What counts is how many of each text's characters match, and how
many of the matches stand in the same order. -/

namespace QueryTree.Text

/-- Marks the first unmarked character of the window that is equal to the given one. -/
def mark (c : Char) (low high index : Nat) : List (Char × Bool) → Option (List (Char × Bool))
  | [] => none
  | (other, isMarked) :: rest =>
    if high ≤ index then none
    else if low ≤ index && other == c && !isMarked then some ((other, true) :: rest)
    else (mark c low high (index + 1) rest).map ((other, isMarked) :: ·)

/-- The matched characters of the first text, and the second text with its matches marked. -/
def markAll (reach index : Nat) (others : List (Char × Bool)) :
    List Char → List Char × List (Char × Bool)
  | [] => ([], others)
  | c :: rest =>
    match mark c (index - reach) (index + reach + 1) 0 others with
    | none => markAll reach (index + 1) others rest
    | some others =>
      let (matched, others) := markAll reach (index + 1) others rest
      (c :: matched, others)

/-- Rounded at each step, so that a share of seven tenths may come out just above it. -/
def similarity (s t : List Char) : Float :=
  if s.isEmpty && t.isEmpty then 1
  else
    let reach := max s.length t.length / 2 - 1
    let (matched, marked) := markAll reach 0 (t.map fun c => (c, false)) s
    let inOrder := (marked.filter Prod.snd).map Prod.fst
    let swaps := ((matched.zip inOrder).countP fun pair => pair.1 != pair.2) / 2
    let count := Float.ofNat matched.length
    if matched.isEmpty then 0
    else
      (count / Float.ofNat s.length + count / Float.ofNat t.length +
        Float.ofNat (matched.length - swaps) / count) / 3

/-- From which similarity on a text is worth a hint. -/
def hintThreshold : Float := 0.7

def insertByScore (scored : Float × String) : List (Float × String) → List (Float × String)
  | [] => [scored]
  | other :: rest =>
    if scored.1 ≤ other.1 then scored :: other :: rest else other :: insertByScore scored rest

/-- The similar texts among some, the most similar one last. -/
def similarTo (text : String) (others : List String) : List String :=
  let scored := others.map fun other => (similarity text.toList other.toList, other)
  ((scored.filter fun pair => hintThreshold < pair.1).foldr insertByScore []).map Prod.snd

def mostSimilar? (text : String) (others : List String) : Option String :=
  (similarTo text others).getLast?

end QueryTree.Text
