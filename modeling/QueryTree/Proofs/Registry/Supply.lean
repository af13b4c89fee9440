import QueryTree.Proofs.Registry.Positions
import QueryTree.Proofs.Registry.Vacancy
import QueryTree.Proofs.Request.Headers

/-! # Which headers are kept

Headers that come with a registration are for its endpoint, and for as long as the endpoint is never
without instances. They replace earlier ones as a whole. -/

namespace QueryTree

/-- The headers that a step supplies for the endpoint, unless they are rejected. -/
def Step.headersFor? (url : String) : Step → Option Headers
  | .registerWithHeaders _ target headersText | .registerWithHeadersOffline _ target headersText =>
    if target = url then (Headers.ofText headersText).toOption else none
  | .register _ _ | .registerOffline _ _ | .unregister _ | .refresh _ | .deliver _ _ _ => none

theorem Step.isFolded_of_headersFor? {url : String} {step : Step} {supplied : Headers}
    (h : step.headersFor? url = some supplied) : supplied.IsFolded := by
  cases step with
  | registerWithHeaders _ target headersText | registerWithHeadersOffline _ target headersText =>
    rw [headersFor?] at h
    split at h
    · cases hparse : Headers.ofText headersText with
      | error error => simp [hparse, Except.toOption] at h
      | ok parsed =>
        obtain rfl : parsed = supplied := by simpa [hparse, Except.toOption] using h
        exact Headers.isFolded_of_ofText hparse
    · cases h
  | register | registerOffline | unregister | refresh | deliver => cases h

/-! ## By the steps alone -/

namespace History

/-- The step at the position supplied the headers for the endpoint, which has had an instance at all
times since then. -/
structure Supplied (steps : List Step) (url : String) (position : Nat) (supplied : Headers) :
    Prop where
  registered : Occurs (fun _ step => step.headersFor? url = some supplied) steps position
  held : HeldFrom steps url (position + 1)

def LatestSupplied (steps : List Step) (url : String) : Headers → Prop :=
  Latest (Supplied steps url)

variable {steps : List Step} {step : Step} {url : String} {position : Nat} {supplied : Headers}

theorem Supplied.hasInstance (h : Supplied steps url position supplied) : HasInstance steps url :=
  h.held.hasInstance h.registered.lt_length

theorem supplied_snoc :
    Supplied (steps ++ [step]) url position supplied ↔
      HasInstance (steps ++ [step]) url ∧ (Supplied steps url position supplied ∨
        position = steps.length ∧ step.headersFor? url = some supplied) := by
  constructor
  · intro h
    have hlength := h.registered.lt_length
    have hregistered := h.registered
    rw [List.length_append, List.length_singleton] at hlength
    rw [occurs_snoc] at hregistered
    have hheld := (heldFrom_snoc hlength).1 h.held
    exact ⟨hheld.1, hregistered.imp_left fun hbefore => ⟨hbefore, hheld.2⟩⟩
  · rintro ⟨hend, h⟩
    have hlength : position + 1 ≤ steps.length + 1 := by
      rcases h with hbefore | ⟨rfl, _⟩
      · exact Nat.succ_le_succ (Nat.le_of_lt hbefore.registered.lt_length)
      · exact Nat.le_refl _
    refine ⟨(occurs_snoc _).2 (h.imp_left Supplied.registered), ?_⟩
    rw [heldFrom_snoc hlength]
    refine ⟨hend, ?_⟩
    rcases h with hbefore | ⟨rfl, _⟩
    · exact hbefore.held
    · intro later hlater hlast
      omega

theorem latestSupplied_snoc :
    LatestSupplied (steps ++ [step]) url supplied ↔
      HasInstance (steps ++ [step]) url ∧ (step.headersFor? url = some supplied ∨
        step.headersFor? url = none ∧ LatestSupplied steps url supplied) := by
  have hlength : ∀ position supplied, Supplied steps url position supplied →
      position < steps.length := fun _ _ h => h.registered.lt_length
  rw [Option.eq_none_iff_forall_ne_some]
  exact latest_snoc hlength fun _ _ => supplied_snoc

end History

namespace Registry

/-! ## The headers of an endpoint -/

/-- No headers are kept for an endpoint without instances. -/
def HeadersUsed (registry : Registry) : Prop :=
  ∀ url supplied, registry.headers.find? url = some supplied → registry.isUsed url = true

theorem headersUsed_new (defaults : Headers) : (new defaults).HeadersUsed := by
  intro url supplied h
  cases h

theorem headers_register (registry : Registry) (id url : String) (isOnline : Bool) :
    (registry.register id url isOnline).1.headers = (registry.place id url).headers := by
  unfold register
  simp only
  split <;> rfl

theorem headers_complete (registry : Registry) (fetch : Fetch) (reply : Reply) :
    (registry.complete fetch reply).1.headers = registry.headers := by
  unfold complete
  simp only
  split
  · rfl
  · split <;> rfl

theorem headers_deliver (registry : Registry) (url : String) (index : Nat) (reply : Reply) :
    (registry.deliver url index reply).1.headers = registry.headers := by
  unfold deliver
  split
  · rfl
  · exact headers_complete ..

/-- The headers for the endpoint of a registration may have been stored before. -/
theorem find?_headers_register {registry : Registry} {url : String}
    (h : ∀ other supplied, registry.headers.find? other = some supplied →
      registry.isUsed other = true ∨ other = url) (id : String) (isOnline : Bool)
    (other : String) :
    (registry.register id url isOnline).1.headers.find? other =
      if (registry.register id url isOnline).1.isUsed other then registry.headers.find? other
      else none := by
  have hinstances : (registry.register id url isOnline).1.instances =
      (registry.place id url).instances := by rw [instances_register, instances_place]
  rw [headers_register, isUsed_congr hinstances]
  exact isKept_headers.find?_place h id other

/-- Headers that come with a registration are stored before it, and replace earlier ones as a
whole. -/
theorem find?_headers_register_stored {registry : Registry} (h : registry.HeadersUsed)
    (id url : String) (supplied : Headers) (isOnline : Bool) (other : String) :
    (register { registry with headers := registry.headers.insert url supplied }
        id url isOnline).1.headers.find? other =
      if (register { registry with headers := registry.headers.insert url supplied }
        id url isOnline).1.isUsed other
      then (if url = other then some supplied else none).or (registry.headers.find? other)
      else none := by
  have hstored : ∀ target found,
      (registry.headers.insert url supplied).find? target = some found →
        registry.isUsed target = true ∨ target = url := by
    intro target found hfound
    by_cases heq : target = url
    · exact Or.inr heq
    · rw [Table.find?_insert_of_ne heq] at hfound
      exact Or.inl (h target found hfound)
  have hinsert : (registry.headers.insert url supplied).find? other =
      (if url = other then some supplied else none).or (registry.headers.find? other) := by
    rw [Table.find?_insert]
    split <;> rfl
  rw [find?_headers_register hstored, hinsert]

theorem headers_step {registry : Registry} (h : registry.HeadersUsed) (step : Step)
    (url : String) :
    (registry.step step).1.headers.find? url =
      if (registry.step step).1.isUsed url then
        (step.headersFor? url).or (registry.headers.find? url)
      else none := by
  have hsame := eq_ite_of_some (h url)
  have hused : ∀ {target} other found, registry.headers.find? other = some found →
      registry.isUsed other = true ∨ other = target :=
    fun other found hfound => Or.inl (h other found hfound)
  cases step with
  | register id target => exact find?_headers_register hused id true url
  | registerOffline id target => exact find?_headers_register hused id false url
  | registerWithHeaders id target headersText =>
    cases hparse : Headers.ofText headersText with
    | error error =>
      rw [step_of_rejected hparse]
      simpa [Step.headersFor?, hparse, Except.toOption] using hsame
    | ok supplied =>
      rw [step_of_headers hparse]
      simp only [Step.headersFor?, hparse, Except.toOption]
      exact find?_headers_register_stored h id target supplied true url
  | registerWithHeadersOffline id target headersText =>
    cases hparse : Headers.ofText headersText with
    | error error =>
      rw [step_of_rejected_offline hparse]
      simpa [Step.headersFor?, hparse, Except.toOption] using hsame
    | ok supplied =>
      rw [step_of_headers_offline hparse]
      simp only [Step.headersFor?, hparse, Except.toOption]
      exact find?_headers_register_stored h id target supplied false url
  | unregister id => exact isKept_headers.find?_unregister h id url
  | refresh target => exact hsame
  | deliver target index reply =>
    change (registry.deliver target index reply).1.headers.find? url =
      if (registry.deliver target index reply).1.isUsed url then registry.headers.find? url
      else none
    rw [headers_deliver, isUsed_congr (instances_deliver ..)]
    exact hsame

theorem headersUsed_step {registry : Registry} (h : registry.HeadersUsed) (step : Step) :
    (registry.step step).1.HeadersUsed := by
  intro url supplied hfound
  rw [headers_step h] at hfound
  split at hfound
  · assumption
  · cases hfound

theorem headersUsed_run (defaults : Headers) (steps : List Step) :
    ((new defaults).run steps).HeadersUsed := by
  induction steps using List.reverseRecOn with
  | nil => exact headersUsed_new defaults
  | append_singleton steps step ih =>
    rw [run_snoc]
    exact headersUsed_step ih step

/-- The headers that are kept for an endpoint after a run are those supplied last. -/
theorem headers_run_eq_some_iff (defaults : Headers) (steps : List Step) (url : String)
    (supplied : Headers) :
    ((new defaults).run steps).headers.find? url = some supplied ↔
      History.LatestSupplied steps url supplied := by
  induction steps using List.reverseRecOn generalizing supplied with
  | nil =>
    constructor
    · intro h
      cases h
    · rintro ⟨position, h, _⟩
      exact absurd h.registered.lt_length (Nat.not_lt_zero _)
  | append_singleton steps step ih =>
    have hused := isUsed_run defaults (steps ++ [step]) url
    have hstep := headers_step (headersUsed_run defaults steps) step url
    rw [run_snoc] at hused ⊢
    rw [hstep, History.latestSupplied_snoc, ← hused, ← ih]
    split
    · next hend => simp only [hend, true_and, Option.or_eq_some_iff]
    · next hend => simp [hend]

theorem headers_run_eq_none_iff (defaults : Headers) (steps : List Step) (url : String) :
    ((new defaults).run steps).headers.find? url = none ↔
      ∀ position supplied, ¬ History.Supplied steps url position supplied := by
  simp only [Option.eq_none_iff_forall_ne_some, ne_eq, headers_run_eq_some_iff]
  constructor
  · intro hnone position supplied h
    have hlength : ∀ position supplied, History.Supplied steps url position supplied →
        position < steps.length := fun _ _ h => h.registered.lt_length
    obtain ⟨last, hlast⟩ := History.exists_latest hlength h
    exact hnone last hlast
  · rintro hnone supplied ⟨position, h, _⟩
    exact hnone position supplied h

end Registry

end QueryTree
