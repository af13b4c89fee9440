import QueryTree.Proofs.Registry.Placement

/-! # Endpoints without instances

Schemas and headers are kept by endpoint, and both go with the last instance. When an instance
moves, the endpoint that it leaves is the only one that can lose them. -/

namespace QueryTree.Registry

/-! ## Used endpoints -/

/-- An endpoint stays used when an instance that was elsewhere moves. -/
theorem isUsed_of_moved {registry moved : Registry} {id other : String}
    (hmoved : ∀ holder, holder ≠ id →
      moved.instances.find? holder = registry.instances.find? holder)
    (hne : registry.instances.find? id ≠ some other) (h : registry.isUsed other = true) :
    moved.isUsed other = true := by
  rw [isUsed_iff] at h ⊢
  obtain ⟨holder, hholder⟩ := h
  refine ⟨holder, ?_⟩
  rw [hmoved, hholder]
  rintro rfl
  exact hne hholder

theorem isUsed_place_self (registry : Registry) (id url : String) :
    (registry.place id url).isUsed url = true := by
  rw [isUsed_iff]
  exact ⟨id, by rw [instances_place, Table.find?_insert_self]⟩

theorem isUsed_place_of_ne {registry : Registry} {id other : String}
    (hne : registry.instances.find? id ≠ some other) (h : registry.isUsed other = true)
    (url : String) : (registry.place id url).isUsed other = true := by
  refine isUsed_of_moved ?_ hne h
  intro holder hholder
  rw [instances_place, Table.find?_insert_of_ne hholder]

theorem isUsed_unregister_of_ne {registry : Registry} {id other : String}
    (hne : registry.instances.find? id ≠ some other) (h : registry.isUsed other = true) :
    (registry.unregister id).isUsed other = true := by
  refine isUsed_of_moved ?_ hne h
  intro holder hholder
  rw [instances_unregister, if_neg (Ne.symm hholder)]

/-! ## What is kept by endpoint -/

theorem eq_ite_of_some {α : Type} {value? : Option α} {used : Bool}
    (h : ∀ value, value? = some value → used = true) : value? = if used then value? else none := by
  split
  · rfl
  · next hunused =>
    rw [Option.eq_none_iff_forall_not_mem]
    exact fun value hvalue => hunused (h value hvalue)

/-- A table that changes with the instances only where an endpoint without instances is evicted. -/
structure IsKept {α : Type} (table : Registry → Table α) : Prop where
  moves : ∀ (registry : Registry) (instances : Table String),
    table { registry with instances := instances } = table registry
  evicts : ∀ (registry : Registry) (url : String), table (registry.evictUnused url) =
    if registry.isUsed url then table registry else (table registry).erase url

theorem isKept_schemas : IsKept schemas where
  moves := fun _ _ => rfl
  evicts := by
    intro registry url
    unfold evictUnused
    split
    · rfl
    · simp only
      split <;> rfl

theorem isKept_headers : IsKept headers where
  moves := fun _ _ => rfl
  evicts := by
    intro registry url
    unfold evictUnused
    split
    · rfl
    · simp only
      split <;> rfl

namespace IsKept

variable {α : Type} {table : Registry → Table α} (htable : IsKept table)
include htable

/-- When nothing is held for unused endpoints except perhaps `url`, evicting `url` leaves what is
held for the used ones. -/
theorem find?_evictUnused {registry : Registry} {url : String}
    (h : ∀ other value, other ≠ url → (table registry).find? other = some value →
      registry.isUsed other = true) (other : String) :
    (table (registry.evictUnused url)).find? other =
      if (registry.evictUnused url).isUsed other then (table registry).find? other else none := by
  rw [isUsed_congr (instances_evictUnused registry url), htable.evicts]
  by_cases heq : other = url
  · subst heq
    split
    · rfl
    · rw [Table.find?_erase_self]
  · rw [← eq_ite_of_some fun value hvalue => h other value heq hvalue]
    split
    · rfl
    · rw [Table.find?_erase_of_ne heq]

theorem find?_place {registry : Registry} {url : String}
    (h : ∀ other value, (table registry).find? other = some value →
      registry.isUsed other = true ∨ other = url) (id other : String) :
    (table (registry.place id url)).find? other =
      if (registry.place id url).isUsed other then (table registry).find? other else none := by
  -- An endpoint stays used unless the instance leaves it, and its new one is used.
  have hstays : ∀ used value, (registry.instances.find? id = some used → used = url) →
      (table registry).find? used = some value → (registry.place id url).isUsed used = true := by
    intro used value hleft hvalue
    by_cases htarget : used = url
    · rw [htarget]
      exact isUsed_place_self registry id url
    · have hbefore := (h used value hvalue).resolve_right htarget
      exact isUsed_place_of_ne (fun hat => htarget (hleft hat)) hbefore url
  have hnowhere : (registry.instances.find? id = some other → other = url) →
      (table registry).find? other =
        if (registry.place id url).isUsed other then (table registry).find? other else none := by
    intro hleft
    exact eq_ite_of_some fun value hvalue => hstays other value hleft hvalue
  cases hfound : registry.instances.find? id with
  | none =>
    have hplace : registry.place id url =
        { registry with instances := registry.instances.insert id url } := by simp [place, hfound]
    rw [← hnowhere (by simp [hfound]), hplace, htable.moves]
  | some previous =>
    by_cases heq : previous = url
    · have hplace : registry.place id url =
          { registry with instances := registry.instances.insert id url } := by
        simp [place, hfound, heq]
      rw [← hnowhere (by simp [hfound, heq, eq_comm]), hplace, htable.moves]
    · have hplace : registry.place id url =
          evictUnused { registry with instances := registry.instances.insert id url } previous := by
        simp [place, hfound, heq]
      rw [hplace] at hstays ⊢
      rw [htable.find?_evictUnused, htable.moves]
      intro used value hne hvalue
      rw [htable.moves] at hvalue
      rw [← isUsed_congr (instances_evictUnused _ previous)]
      exact hstays used value (by simp [hfound, Ne.symm hne]) hvalue

theorem find?_unregister {registry : Registry}
    (h : ∀ other value, (table registry).find? other = some value → registry.isUsed other = true)
    (id other : String) :
    (table (registry.unregister id)).find? other =
      if (registry.unregister id).isUsed other then (table registry).find? other else none := by
  cases hfound : registry.instances.find? id with
  | none =>
    have hunregister : registry.unregister id = registry := by simp [unregister, hfound]
    rw [hunregister]
    exact eq_ite_of_some (h other)
  | some previous =>
    have hunregister : registry.unregister id =
        evictUnused { registry with instances := registry.instances.erase id } previous := by
      simp [unregister, hfound]
    have hstays : ∀ used value, used ≠ previous → (table registry).find? used = some value →
        (registry.unregister id).isUsed used = true := by
      intro used value hne hvalue
      exact isUsed_unregister_of_ne (by simp [hfound, Ne.symm hne]) (h used value hvalue)
    rw [hunregister] at hstays ⊢
    rw [htable.find?_evictUnused, htable.moves]
    intro used value hne hvalue
    rw [htable.moves] at hvalue
    rw [← isUsed_congr (instances_evictUnused _ previous)]
    exact hstays used value hne hvalue

end IsKept

end QueryTree.Registry
