/-! # Parts of a text

A text is cut at each separator. There is one more part than there are separators. -/

namespace QueryTree.Text

def splitBy (isSeparator : Char → Bool) : List Char → List (List Char)
  | [] => [[]]
  | c :: rest =>
    match splitBy isSeparator rest with
    | [] => [[]]
    | part :: parts => if isSeparator c then [] :: part :: parts else (c :: part) :: parts

def splitAt (separator : Char) (text : List Char) : List (List Char) :=
  splitBy (· == separator) text

def joinWith (separator : Char) : List (List Char) → List Char
  | [] => []
  | [part] => part
  | part :: parts => part ++ separator :: joinWith separator parts

theorem splitBy_ne_nil (isSeparator : Char → Bool) (text : List Char) :
    splitBy isSeparator text ≠ [] := by
  cases text with
  | nil => simp [splitBy]
  | cons c rest => rw [splitBy]; split <;> (try split) <;> simp

/-- Nothing but the separators is lost. -/
theorem joinWith_splitAt (separator : Char) (text : List Char) :
    joinWith separator (splitAt separator text) = text := by
  unfold splitAt
  induction text with
  | nil => rfl
  | cons c rest ih =>
    rw [splitBy]
    split
    · next h => exact absurd h (splitBy_ne_nil _ _)
    · next part parts h =>
      rw [h] at ih
      split
      · next hc => rw [joinWith, ih, eq_of_beq hc]; rfl; simp
      · rw [← ih]; cases parts <;> rfl

end QueryTree.Text
