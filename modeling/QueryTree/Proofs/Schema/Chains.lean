import QueryTree.TypeRef

/-! # Chains that spell a type

A chain spells a type if its wrappers lead down to a layer of another kind that has a name. So a
type that is read from a chain never ends in a wrapper. -/

namespace QueryTree

namespace Chain

/-- The wrappers are those of the type, and the first other layer names its base. Names of wrappers
and layers below the named one do not count. -/
inductive Spells : Chain → TypeRef → Prop
  | last {kind : TypeKind} {name : String} (hkind : kind.isWrapper = false) :
    Spells (.last kind (some name)) (.named kind name)
  | named {kind : TypeKind} {name : String} {below : Chain} (hkind : kind.isWrapper = false) :
    Spells (.over kind (some name) below) (.named kind name)
  | list {name : Option String} {below : Chain} {inner : TypeRef} (h : Spells below inner) :
    Spells (.over .list name below) (.list inner)
  | nonNull {name : Option String} {below : Chain} {inner : TypeRef} (h : Spells below inner) :
    Spells (.over .nonNull name below) (.nonNull inner)

variable {chain : Chain} {type : TypeRef}

theorem ofChain_of_spells (h : chain.Spells type) : TypeRef.ofChain chain = .ok type := by
  induction h with
  | last hkind => simp [TypeRef.ofChain, hkind, TypeRef.ofLayer]
  | @named kind name below hkind =>
    cases kind with
    | list | nonNull => cases hkind
    | scalar | object | interface | union | enum | inputObject => rfl
  | list _ ih => simp [TypeRef.ofChain, ih, Except.map]
  | nonNull _ ih => simp [TypeRef.ofChain, ih, Except.map]

theorem spells_of_ofLayer {kind : TypeKind} {name : Option String} (hkind : kind.isWrapper = false)
    (h : TypeRef.ofLayer kind name = .ok type) :
    (Chain.last kind name).Spells type ∧ ∀ below, (Chain.over kind name below).Spells type := by
  cases name with
  | none => cases h
  | some name =>
    cases h
    exact ⟨.last hkind, fun _ => .named hkind⟩

theorem spells_of_ofChain {type : TypeRef} :
    ∀ {chain : Chain}, TypeRef.ofChain chain = .ok type → chain.Spells type
  | .last kind name, h => by
    rw [TypeRef.ofChain] at h
    split at h
    · cases h
    · next hkind => exact (spells_of_ofLayer (by simpa using hkind) h).1
  | .over kind name below, h => by
    have hbelow : ∀ (wrap : TypeRef → TypeRef),
        (TypeRef.ofChain below).map wrap = .ok type →
          ∃ inner, below.Spells inner ∧ type = wrap inner := by
      intro wrap hwrap
      cases hread : TypeRef.ofChain below with
      | error error => rw [hread] at hwrap; cases hwrap
      | ok inner =>
        rw [hread] at hwrap
        cases hwrap
        exact ⟨inner, spells_of_ofChain hread, rfl⟩
    cases kind with
    | list =>
      obtain ⟨inner, hinner, rfl⟩ := hbelow .list h
      exact .list hinner
    | nonNull =>
      obtain ⟨inner, hinner, rfl⟩ := hbelow .nonNull h
      exact .nonNull hinner
    | scalar | object | interface | union | enum | inputObject =>
      exact (spells_of_ofLayer rfl h).2 below

theorem ofChain_eq_ok_iff : TypeRef.ofChain chain = .ok type ↔ chain.Spells type :=
  ⟨spells_of_ofChain, ofChain_of_spells⟩

theorem Spells.isWrapper_baseKind (h : chain.Spells type) : type.baseKind.isWrapper = false := by
  induction h with
  | last hkind => exact hkind
  | named hkind => exact hkind
  | list _ ih => exact ih
  | nonNull _ ih => exact ih

/-- A chain spells one type at most. -/
instance (chain : Chain) (p : TypeRef → Prop) [DecidablePred p] :
    Decidable (∀ type, chain.Spells type → p type) :=
  match hread : TypeRef.ofChain chain with
  | .ok type => decidable_of_iff (p type) (by
    simp only [← ofChain_eq_ok_iff, hread, Except.ok.injEq, forall_eq'])
  | .error _ => .isTrue (by simp [← ofChain_eq_ok_iff, hread])

end Chain

end QueryTree
