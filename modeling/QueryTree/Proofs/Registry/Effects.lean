import QueryTree.Proofs.Registry.Placement

/-! # What steps come to

There are four ways to register an instance, and headers may reject a registration. What is left of
a step is one of six effects, and only a registration can give an endpoint its first instance. -/

namespace QueryTree

/-! ## Registrations -/

structure Registration where
  id : String
  url : String
  isOnline : Bool

/-- The registration that a step makes, unless its headers reject it. -/
def Step.registration? : Step → Option Registration
  | .register id url => some ⟨id, url, true⟩
  | .registerOffline id url => some ⟨id, url, false⟩
  | .registerWithHeaders id url headersText =>
    if (Headers.ofText headersText).isOk then some ⟨id, url, true⟩ else none
  | .registerWithHeadersOffline id url headersText =>
    if (Headers.ofText headersText).isOk then some ⟨id, url, false⟩ else none
  | .unregister _ | .refresh _ | .deliver _ _ _ => none

theorem History.hasInstance_of_snoc {steps : List Step} {step : Step} {url : String}
    (h : HasInstance (steps ++ [step]) url) :
    HasInstance steps url ∨
      ∃ id isOnline, step.registration? = some ⟨id, url, isOnline⟩ := by
  obtain ⟨holder, hholder⟩ := h
  rw [endpoint?_snoc] at hholder
  -- Either the step puts the holder there, or the holder was there before.
  cases step with
  | register id target | registerOffline id target =>
    simp only [Step.endpointAfter] at hholder
    split at hholder
    · right
      rw [Option.some.injEq] at hholder
      exact ⟨_, _, by rw [hholder]; rfl⟩
    · exact Or.inl ⟨holder, hholder⟩
  | registerWithHeaders id target headersText
  | registerWithHeadersOffline id target headersText =>
    simp only [Step.endpointAfter] at hholder
    split at hholder
    · next hlegal =>
      right
      rw [Option.some.injEq] at hholder
      exact ⟨id, _, by rw [Step.registration?, if_pos hlegal.2, hholder]⟩
    · exact Or.inl ⟨holder, hholder⟩
  | unregister id =>
    simp only [Step.endpointAfter] at hholder
    split at hholder
    · cases hholder
    · exact Or.inl ⟨holder, hholder⟩
  | refresh target => exact Or.inl ⟨holder, hholder⟩
  | deliver target index reply => exact Or.inl ⟨holder, hholder⟩

namespace Registry

/-! ## What a step comes to -/

theorem complete_outcome (registry : Registry) (fetch : Fetch) (reply : Reply) :
    (registry.complete fetch reply).2 = fetch.outcome reply := by
  unfold complete
  simp only
  split
  · next h => rw [h]
  · next h => split <;> rw [h]

theorem url_of_pending {registry : Registry} {url : String} {index : Nat} {fetch : Fetch}
    (h : (registry.pending url)[index]? = some fetch) : fetch.url = url := by
  have hmem := List.mem_of_getElem? h
  rw [pending, List.mem_filter, beq_iff_eq] at hmem
  exact hmem.2

/-- What a step makes of the registry, with its outcome. A registration may have stored headers
before. -/
inductive Effect (registry : Registry) : Step → Registry × StepOutcome → Prop
  | registers {step : Step} (headers : Table Headers) {id url : String} {isOnline : Bool}
    (h : step.registration? = some ⟨id, url, isOnline⟩) :
    Effect registry step
      ((register { registry with headers := headers } id url isOnline).1,
        .registered (register { registry with headers := headers } id url isOnline).2)
  | rejects {step : Step} (error : HeaderError) (h : step.registration? = none) :
    Effect registry step (registry, .rejected error)
  | unregisters (id : String) :
    Effect registry (.unregister id) (registry.unregister id, .nothing)
  | refreshes (url : String) :
    Effect registry (.refresh url)
      ((registry.startFetch url false).1, .refreshing (registry.startFetch url false).2)
  | misses (url : String) (index : Nat) (reply : Reply) :
    Effect registry (.deliver url index reply) (registry, .delivered none)
  | ends {url : String} {index : Nat} (reply : Reply) {fetch : Fetch}
    (h : (registry.pending url)[index]? = some fetch) :
    Effect registry (.deliver url index reply)
      ((registry.complete fetch reply).1, .delivered (some (fetch, fetch.outcome reply)))

theorem effect_step (registry : Registry) (step : Step) :
    registry.Effect step (registry.step step) := by
  cases step with
  | register id url => exact .registers registry.headers rfl
  | registerOffline id url => exact .registers registry.headers rfl
  | registerWithHeaders id url headersText =>
    cases hparse : Headers.ofText headersText with
    | error error =>
      rw [step_of_rejected hparse]
      exact .rejects error (by simp [Step.registration?, hparse, Except.isOk, Except.toBool])
    | ok headers =>
      rw [step_of_headers hparse]
      exact .registers _ (by simp [Step.registration?, hparse, Except.isOk, Except.toBool])
  | registerWithHeadersOffline id url headersText =>
    cases hparse : Headers.ofText headersText with
    | error error =>
      rw [step_of_rejected_offline hparse]
      exact .rejects error (by simp [Step.registration?, hparse, Except.isOk, Except.toBool])
    | ok headers =>
      rw [step_of_headers_offline hparse]
      exact .registers _ (by simp [Step.registration?, hparse, Except.isOk, Except.toBool])
  | unregister id => exact .unregisters id
  | refresh url => exact .refreshes url
  | deliver url index reply =>
    cases hpending : (registry.pending url)[index]? with
    | none =>
      rw [step_of_not_pending hpending]
      exact .misses url index reply
    | some fetch =>
      rw [step_of_pending hpending, complete_outcome]
      exact .ends reply hpending

/-- Whatever headers come with it, an instance is registered in the same way. -/
theorem step_of_registration {step : Step} {id url : String} {isOnline : Bool}
    (h : step.registration? = some ⟨id, url, isOnline⟩) (registry : Registry) :
    ∃ headers, registry.step step =
      ((register { registry with headers := headers } id url isOnline).1,
        .registered (register { registry with headers := headers } id url isOnline).2) := by
  have heffect := effect_step registry step
  generalize registry.step step = result at heffect ⊢
  cases heffect with
  | registers headers hregistration =>
    cases h.symm.trans hregistration
    exact ⟨headers, rfl⟩
  | rejects error hnone => cases h.symm.trans hnone
  | unregisters | refreshes | misses | ends => cases h

end Registry

end QueryTree
