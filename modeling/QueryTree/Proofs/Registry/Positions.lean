import QueryTree.Proofs.Registry.Placement

/-! # Positions of a history

What a step brings to an endpoint counts for as long as the endpoint has had an instance ever since,
and until a later step brings something else. Here is what one more step does to the positions that
count. -/

namespace QueryTree.History

variable {steps : List Step} {step : Step} {url : String} {position : Nat}

/-! ## Steps at a position -/

/-- Something happens in the step at the position, which depends on the steps before. -/
def Occurs (happens : List Step → Step → Prop) (steps : List Step) (position : Nat) : Prop :=
  ∃ step, steps[position]? = some step ∧ happens (steps.take position) step

theorem Occurs.lt_length {happens : List Step → Step → Prop} (h : Occurs happens steps position) :
    position < steps.length := by
  obtain ⟨step, hstep, _⟩ := h
  exact (List.getElem?_eq_some_iff.1 hstep).1

theorem occurs_snoc (happens : List Step → Step → Prop) :
    Occurs happens (steps ++ [step]) position ↔
      Occurs happens steps position ∨ position = steps.length ∧ happens steps step := by
  have hbeyond : ∀ all : List Step, all.length ≤ position → ¬ Occurs happens all position :=
    fun all hle h => absurd h.lt_length (by omega)
  rcases Nat.lt_trichotomy position steps.length with hlt | rfl | hgt
  · have hne : position ≠ steps.length := by omega
    simp only [Occurs, List.getElem?_append_left hlt,
      List.take_append_of_le_length (Nat.le_of_lt hlt), hne, false_and, or_false]
  · simp [Occurs]
  · have hne : position ≠ steps.length := by omega
    have hbefore := hbeyond steps (Nat.le_of_lt hgt)
    have hafter := hbeyond (steps ++ [step]) (by simp; omega)
    simp only [hbefore, hafter, hne, false_and, or_false]

/-- The endpoint has an instance at all times from the position on. -/
def HeldFrom (steps : List Step) (url : String) (position : Nat) : Prop :=
  ∀ later, position ≤ later → later ≤ steps.length → HasInstance (steps.take later) url

theorem HeldFrom.hasInstance (h : HeldFrom steps url position) (hle : position ≤ steps.length) :
    HasInstance steps url := by
  have hend := h steps.length hle (Nat.le_refl _)
  rwa [List.take_length] at hend

theorem heldFrom_snoc (hle : position ≤ steps.length + 1) :
    HeldFrom (steps ++ [step]) url position ↔
      HasInstance (steps ++ [step]) url ∧ HeldFrom steps url position := by
  constructor
  · intro h
    refine ⟨h.hasInstance (by simpa using hle), ?_⟩
    intro later hlater hend
    have htake : (steps ++ [step]).take later = steps.take later :=
      List.take_append_of_le_length hend
    rw [← htake]
    exact h later hlater (by simp; omega)
  · rintro ⟨hend, h⟩ later hlater hlength
    rcases Nat.lt_or_ge steps.length later with hnew | hold
    · rwa [List.take_of_length_le (by simp; omega)]
    · rw [List.take_append_of_le_length hold]
      exact h later hlater hold

/-! ## The latest position -/

/-- The value of the latest position that counts. -/
def Latest {α : Type} (counts : Nat → α → Prop) (value : α) : Prop :=
  ∃ position, counts position value ∧ ∀ later other, position < later → ¬ counts later other

section Latest

variable {α : Type} {counts after : Nat → α → Prop} {length : Nat} {holds : Prop}
  {brings : α → Prop} {value : α}

theorem exists_latest (hlength : ∀ position value, counts position value → position < length)
    (h : counts position value) : ∃ last, Latest counts last := by
  induction hrest : length - position using Nat.strongRecOn generalizing position value with
  | ind rest ih =>
    by_cases hlater : ∃ later other, position < later ∧ counts later other
    · obtain ⟨later, other, hlt, hcounts⟩ := hlater
      have hend := hlength later other hcounts
      exact ih (length - later) (by omega) hcounts rfl
    · refine ⟨value, position, h, ?_⟩
      intro later other hlt hcounts
      exact hlater ⟨later, other, hlt, hcounts⟩

/-- When the positions that count stay the same but for a new one at the end, the latest value is
the new one, and the one before if there is none. -/
theorem latest_snoc (hlength : ∀ position value, counts position value → position < length)
    (hafter : ∀ position value, after position value ↔
      holds ∧ (counts position value ∨ position = length ∧ brings value)) :
    Latest after value ↔
      holds ∧ (brings value ∨ (∀ other, ¬ brings other) ∧ Latest counts value) := by
  constructor
  · rintro ⟨position, hposition, hlast⟩
    obtain ⟨hholds, hcounts | ⟨_, hbrings⟩⟩ := (hafter position value).1 hposition
    · refine ⟨hholds, Or.inr ⟨?_, position, hcounts, ?_⟩⟩
      · intro other hbrings
        apply hlast length other (hlength position value hcounts)
        exact (hafter length other).2 ⟨hholds, Or.inr ⟨rfl, hbrings⟩⟩
      · intro later other hlt hlater
        exact hlast later other hlt ((hafter later other).2 ⟨hholds, Or.inl hlater⟩)
    · exact ⟨hholds, Or.inl hbrings⟩
  · rintro ⟨hholds, hbrings | ⟨hnone, position, hcounts, hlast⟩⟩
    · refine ⟨length, (hafter length value).2 ⟨hholds, Or.inr ⟨rfl, hbrings⟩⟩, ?_⟩
      intro later other hlt hlater
      obtain ⟨_, hlater | ⟨rfl, _⟩⟩ := (hafter later other).1 hlater
      · exact absurd (hlength later other hlater) (by omega)
      · omega
    · refine ⟨position, (hafter position value).2 ⟨hholds, Or.inl hcounts⟩, ?_⟩
      intro later other hlt hlater
      obtain ⟨_, hlater | ⟨_, hbrings⟩⟩ := (hafter later other).1 hlater
      · exact hlast later other hlt hlater
      · exact hnone other hbrings

end Latest

end QueryTree.History
