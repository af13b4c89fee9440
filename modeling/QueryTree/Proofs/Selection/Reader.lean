import QueryTree.Proofs.Selection.Outline

/-! # Reading query texts

A reader finds the outline that a query text spells. It goes from left to right, reads each literal as
one constant, and looks ahead no further than a blank and a brace. It takes in whatever the grammar
allows, so that a text spells one outline at most. -/

namespace QueryTree

open Text (isName isNameContinue)

namespace Outline

/-! ## The reader -/

def readMark : List Char → Bool × List Char
  | '.' :: '.' :: '.' :: ' ' :: 'o' :: 'n' :: ' ' :: rest => (true, rest)
  | text => (false, text)

/-- Reads a constant and gives back its text. -/
def readLiteral (text : List Char) : Option (List Char × List Char) :=
  (Constant.read text.length text).map fun found =>
    (text.take (text.length - found.2.length), found.2)

/-- Reads arguments up to and with the closing parenthesis. -/
def readArguments : Nat → List Char → Option (List (List Char × List Char) × List Char)
  | 0, _ => none
  | fuel + 1, text =>
    let (name, rest) := Constant.splitName text
    match rest with
    | ':' :: ' ' :: rest => do
      let (literal, rest) ← readLiteral rest
      match rest with
      | ')' :: rest => if isName name then some ([(name, literal)], rest) else none
      | ',' :: ' ' :: rest => do
        let (arguments, rest) ← readArguments fuel rest
        if isName name then some ((name, literal) :: arguments, rest) else none
      | _ => none
    | _ => none

def readHead (text : List Char) : Option (Head × List Char) :=
  let (isFragment, rest) := readMark text
  let (name, rest) := Constant.splitName rest
  if isName name then
    match rest with
    | '(' :: rest => do
      let (arguments, rest) ← readArguments rest.length rest
      some (⟨isFragment, name, arguments⟩, rest)
    | rest => some (⟨isFragment, name, []⟩, rest)
  else none

mutual

/-- Reads a selection. The fuel bounds the length of what is read. -/
def read : Nat → List Char → Option (Outline × List Char)
  | 0, _ => none
  | fuel + 1, text => do
    let (head, rest) ← readHead text
    match rest with
    | ' ' :: '\x7b' :: ' ' :: '\x7d' :: rest => some (.object head [], rest)
    | ' ' :: '\x7b' :: ' ' :: rest => do
      let (selections, rest) ← readAll fuel rest
      some (.object head selections, rest)
    | rest => some (.leaf head, rest)

/-- Reads selections up to and with the closing brace. -/
def readAll : Nat → List Char → Option (List Outline × List Char)
  | 0, _ => none
  | fuel + 1, text => do
    let (selection, rest) ← read fuel text
    match rest with
    | ' ' :: '\x7d' :: rest => some ([selection], rest)
    | ' ' :: rest => do
      let (selections, rest) ← readAll fuel rest
      some (selection :: selections, rest)
    | _ => none

end

/-- The outline that a whole text spells. -/
def ofText? (text : String) : Option Outline :=
  match read text.toList.length text.toList with
  | some (outline, []) => some outline
  | _ => none

/-! ## Heads -/

theorem readMark_of_isName {name : List Char} (h : isName name = true) (rest : List Char) :
    readMark (name ++ rest) = (false, name ++ rest) := by
  obtain ⟨c, more, rfl, hc⟩ := Text.exists_cons_of_isName h
  unfold readMark
  split
  · next heq =>
    obtain ⟨rfl, _⟩ := List.cons.inj heq
    exact absurd hc (by decide)
  · rfl

theorem readMark_append (isFragment : Bool) {name : List Char} (h : isName name = true)
    (rest : List Char) :
    readMark (fragmentMark isFragment ++ (name ++ rest)) = (isFragment, name ++ rest) := by
  cases isFragment with
  | false => exact readMark_of_isName h rest
  | true => rfl

theorem readLiteral_append {literal : List Char} {value : Constant}
    (h : Constant.Spells literal value) {rest : List Char} (hrest : Constant.Ends rest) :
    readLiteral (literal ++ rest) = some (literal, rest) := by
  have hread := Constant.read_append h (literal ++ rest).length rest (by simp) hrest
  rw [readLiteral, hread, Option.map_some, List.length_append, Nat.add_sub_cancel, List.take_left]

theorem ends_cons {c : Char} (h : isNameContinue c = false ∧ c ≠ '.') (rest : List Char) :
    Constant.Ends (c :: rest) := by
  rintro d ⟨⟩
  exact h

theorem splitName_cons {name : List Char} (h : isName name = true) {c : Char}
    (hc : isNameContinue c = false) (rest : List Char) :
    Constant.splitName (name ++ c :: rest) = (name, c :: rest) := by
  apply Constant.splitName_append h
  rintro d ⟨⟩
  exact hc

theorem readArguments_append {inner : List Char} {arguments : List (List Char × List Char)}
    (h : SpellsArguments inner arguments) {fuel : Nat} (hfuel : inner.length ≤ fuel)
    (rest : List Char) : readArguments fuel (inner ++ ')' :: rest) = some (arguments, rest) := by
  have hcolon : isNameContinue ':' = false := by decide
  induction h generalizing fuel with
  | @last name literal value hname h =>
    cases fuel with
    | zero => simp at hfuel
    | succ fuel =>
      have hliteral := readLiteral_append h (@ends_cons ')' (by decide) rest)
      simp only [List.append_assoc, List.cons_append, readArguments, splitName_cons hname hcolon,
        hliteral, bind, Option.bind, if_pos hname]
  | @more name literal others value arguments hname h hrest ih =>
    cases fuel with
    | zero => simp at hfuel
    | succ fuel =>
      simp only [List.length_append, List.length_cons] at hfuel
      have hothers := @ih fuel (by omega)
      have hliteral := readLiteral_append h (@ends_cons ',' (by decide)
        (' ' :: (others ++ ')' :: rest)))
      simp only [List.append_assoc, List.cons_append, readArguments, splitName_cons hname hcolon,
        hliteral, hothers, bind, Option.bind, if_pos hname]

/-- What follows a selection: nothing, or a blank and something other than an opening brace. -/
def Follows (rest : List Char) : Prop :=
  rest = [] ∨ ∃ c more, rest = ' ' :: c :: more ∧ c ≠ '\x7b'

/-- What follows a head: nothing, or a blank. -/
def FollowsHead (rest : List Char) : Prop := rest = [] ∨ ∃ more, rest = ' ' :: more

theorem Follows.followsHead {rest : List Char} (h : Follows rest) : FollowsHead rest := by
  rcases h with rfl | ⟨c, more, rfl, _⟩
  · exact Or.inl rfl
  · exact Or.inr ⟨_, rfl⟩

theorem readHead_append {text : List Char} {head : Head} (h : SpellsHead text head)
    {rest : List Char} (hrest : FollowsHead rest) : readHead (text ++ rest) = some (head, rest) := by
  cases h with
  | @plain name isFragment hname =>
    have hsplit : Constant.splitName (name ++ rest) = (name, rest) := by
      apply Constant.splitName_append hname
      rcases hrest with rfl | ⟨more, rfl⟩
      · rintro c ⟨⟩
      · rintro c ⟨⟩
        decide
    simp only [List.append_assoc, readHead, readMark_append isFragment hname, hsplit, if_pos hname]
    rcases hrest with rfl | ⟨more, rfl⟩ <;> rfl
  | @withArguments name inner arguments isFragment hname h =>
    have hparen : isNameContinue '(' = false := by decide
    have hread := readArguments_append h
      (show inner.length ≤ (inner ++ ')' :: rest).length by simp) rest
    simp only [List.append_assoc, List.cons_append, List.nil_append, readHead,
      readMark_append isFragment hname, splitName_cons hname hparen, if_pos hname, hread, bind,
      Option.bind]

/-! ## Selections -/

theorem exists_cons_of_spellsHead {text : List Char} {head : Head} (h : SpellsHead text head) :
    ∃ c more, text = c :: more ∧ c ≠ '\x7b' ∧ c ≠ '\x7d' := by
  have hmark : ∀ (isFragment : Bool) {name : List Char}, isName name = true → ∀ rest,
      ∃ c more, fragmentMark isFragment ++ (name ++ rest) = c :: more ∧
        c ≠ '\x7b' ∧ c ≠ '\x7d' := by
    intro isFragment name hname rest
    cases isFragment with
    | true => exact ⟨'.', _, rfl, by decide, by decide⟩
    | false =>
      obtain ⟨c, more, rfl, hc⟩ := Text.exists_cons_of_isName hname
      refine ⟨c, _, rfl, ?_, ?_⟩
      · rintro rfl
        exact absurd hc (by decide)
      · rintro rfl
        exact absurd hc (by decide)
  cases h with
  | plain isFragment hname => simpa using hmark isFragment hname []
  | withArguments isFragment hname h => exact hmark isFragment hname _

theorem exists_cons_of_spells {text : List Char} {outline : Outline} (h : Spells text outline) :
    ∃ c more, text = c :: more ∧ c ≠ '\x7b' ∧ c ≠ '\x7d' := by
  cases h with
  | leaf h => exact exists_cons_of_spellsHead h
  | empty h =>
    obtain ⟨c, more, rfl, hc⟩ := exists_cons_of_spellsHead h
    exact ⟨c, _, rfl, hc⟩
  | block h hinner =>
    obtain ⟨c, more, rfl, hc⟩ := exists_cons_of_spellsHead h
    exact ⟨c, _, rfl, hc⟩

theorem exists_cons_of_spellsAll {text : List Char} {selections : List Outline}
    (h : SpellsAll text selections) :
    ∃ c more, text = c :: more ∧ c ≠ '\x7b' ∧ c ≠ '\x7d' := by
  cases h with
  | last h => exact exists_cons_of_spells h
  | more h _ =>
    obtain ⟨c, more, rfl, hc⟩ := exists_cons_of_spells h
    exact ⟨c, _, rfl, hc⟩

theorem read_leaf {text : List Char} {head : Head} (h : SpellsHead text head) {rest : List Char}
    (hrest : Follows rest) (fuel : Nat) :
    read (fuel + 1) (text ++ rest) = some (.leaf head, rest) := by
  simp only [read, readHead_append h hrest.followsHead, bind, Option.bind]
  rcases hrest with rfl | ⟨c, more, rfl, hc⟩
  · rfl
  · split
    · next heq => exact absurd (List.cons.inj (List.cons.inj heq).2).1 hc
    · next heq => exact absurd (List.cons.inj (List.cons.inj heq).2).1 hc
    · rfl

theorem read_empty {text : List Char} {head : Head} (h : SpellsHead text head) (rest : List Char)
    (fuel : Nat) :
    read (fuel + 1) (text ++ ' ' :: '\x7b' :: ' ' :: '\x7d' :: rest) =
      some (.object head [], rest) := by
  simp only [read, readHead_append h (Or.inr ⟨_, rfl⟩), bind, Option.bind]

theorem read_block {text inner rest : List Char} {head : Head} {selections : List Outline}
    (h : SpellsHead text head) (hinner : SpellsAll inner selections) {fuel : Nat}
    (hall : readAll fuel (inner ++ ' ' :: '\x7d' :: rest) = some (selections, rest)) :
    read (fuel + 1) (text ++ ' ' :: '\x7b' :: ' ' :: (inner ++ ' ' :: '\x7d' :: rest)) =
      some (.object head selections, rest) := by
  obtain ⟨c, more, rfl, _, hbrace⟩ := exists_cons_of_spellsAll hinner
  simp only [read, readHead_append h (Or.inr ⟨_, rfl⟩), bind, Option.bind]
  split
  · next heq =>
    simp only [List.cons_append, List.cons.injEq, true_and] at heq
    exact absurd heq.1 hbrace
  · next heq =>
    simp only [List.cons.injEq, true_and] at heq
    rw [← heq, hall]
  · next hblock => exact absurd rfl (hblock _)

theorem readAll_last {text rest : List Char} {selection : Outline} {fuel : Nat}
    (hread : read fuel (text ++ ' ' :: '\x7d' :: rest) =
      some (selection, ' ' :: '\x7d' :: rest)) :
    readAll (fuel + 1) (text ++ ' ' :: '\x7d' :: rest) = some ([selection], rest) := by
  simp only [readAll, hread, bind, Option.bind]

theorem readAll_more {text others rest : List Char} {selection : Outline}
    {selections : List Outline} (hothers : SpellsAll others selections) {fuel : Nat}
    (hread : read fuel (text ++ ' ' :: (others ++ ' ' :: '\x7d' :: rest)) =
      some (selection, ' ' :: (others ++ ' ' :: '\x7d' :: rest)))
    (hall : readAll fuel (others ++ ' ' :: '\x7d' :: rest) = some (selections, rest)) :
    readAll (fuel + 1) (text ++ ' ' :: (others ++ ' ' :: '\x7d' :: rest)) =
      some (selection :: selections, rest) := by
  obtain ⟨c, more, rfl, _, hbrace⟩ := exists_cons_of_spellsAll hothers
  simp only [readAll, hread, bind, Option.bind]
  split
  · next heq =>
    simp only [List.cons_append, List.cons.injEq, true_and] at heq
    exact absurd heq.1 hbrace
  · next heq =>
    simp only [List.cons.injEq, true_and] at heq
    rw [← heq, hall]
  · next hblank => exact absurd rfl (hblank _)

theorem follows_close (rest : List Char) : Follows (' ' :: '\x7d' :: rest) :=
  Or.inr ⟨'\x7d', rest, rfl, by decide⟩

theorem follows_selections {others : List Char} {selections : List Outline}
    (h : SpellsAll others selections) (rest : List Char) : Follows (' ' :: (others ++ rest)) := by
  obtain ⟨c, more, rfl, hc, _⟩ := exists_cons_of_spellsAll h
  exact Or.inr ⟨c, _, rfl, hc⟩

mutual

/-- The reader takes in a selection up to its end. -/
theorem read_append : ∀ {text : List Char} {outline : Outline}, Spells text outline →
    ∀ (fuel : Nat) (rest : List Char), text.length ≤ fuel → Follows rest →
      read fuel (text ++ rest) = some (outline, rest)
  | _, _, h, 0, rest, hfuel, hrest => by
    obtain ⟨c, more, rfl, _⟩ := exists_cons_of_spells h
    simp at hfuel
  | _, _, .leaf h, fuel + 1, rest, hfuel, hrest => read_leaf h hrest fuel
  | _, _, .empty h, fuel + 1, rest, hfuel, hrest => by
    rw [List.append_assoc]
    exact read_empty h rest fuel
  | _, _, .block h hinner, fuel + 1, rest, hfuel, hrest => by
    have hlength : " \x7b ".toList.length = 3 := rfl
    simp only [List.length_append] at hfuel
    have hall := readAll_append hinner fuel rest (by omega)
    have hread := read_block h hinner hall
    simpa using hread

theorem readAll_append : ∀ {text : List Char} {selections : List Outline},
    SpellsAll text selections → ∀ (fuel : Nat) (rest : List Char), text.length < fuel →
      readAll fuel (text ++ ' ' :: '\x7d' :: rest) = some (selections, rest)
  | _, _, .last h, fuel + 1, rest, hfuel =>
    readAll_last (read_append h fuel _ (by omega) (follows_close rest))
  | _, _, .more h hrest, fuel + 1, rest, hfuel => by
    simp only [List.length_append, List.length_cons] at hfuel
    have hread := read_append h fuel _ (by omega) (follows_selections hrest (' ' :: '\x7d' :: rest))
    have hall := readAll_append hrest fuel rest (by omega)
    rw [List.append_assoc, List.cons_append]
    exact readAll_more hrest hread hall

end

theorem ofText?_of_spells {text : String} {outline : Outline} (h : Spells text.toList outline) :
    ofText? text = some outline := by
  have hread := read_append h text.toList.length [] (Nat.le_refl _) (Or.inl rfl)
  rw [List.append_nil] at hread
  rw [ofText?, hread]

theorem Spells.unique {text : List Char} {outline other : Outline} (h : Spells text outline)
    (hother : Spells text other) : outline = other := by
  have hread := ofText?_of_spells (show Spells (String.ofList text).toList outline by simpa)
  have hreadOther := ofText?_of_spells (show Spells (String.ofList text).toList other by simpa)
  rw [hread, Option.some.injEq] at hreadOther
  exact hreadOther

end Outline

end QueryTree
