import QueryTree.Proofs.Registry.Traffic

/-! # No endpoint is stuck

An endpoint with an instance has a schema or an outstanding fetch, unless a fetch of it failed or a
registration was offline since it got its first instance. From there the next registration starts a
fetch again: a mark that would prevent it never outlives the fetches of the endpoint. -/

namespace QueryTree

/-! ## Setbacks -/

/-- A fetch of the endpoint fails in the step, and the registry tells it. -/
def Registry.Fails (registry : Registry) (url : String) (step : Step) : Prop :=
  ∃ fetch error, (registry.step step).2 = .delivered (some (fetch, .error error)) ∧
    fetch.url = url ∧
    (registry.step step).1.events = registry.events ++ [.refreshFailed url error.message]

/-- Since the endpoint last came to have instances, a fetch of it failed or an instance was
registered there offline. -/
inductive History.LetDown (headers : Headers) (url : String) : List Step → Prop
  | failed {steps : List Step} {step : Step} (hused : HasInstance steps url)
    (h : ((Registry.new headers).run steps).Fails url step) : LetDown headers url (steps ++ [step])
  | offline {steps : List Step} {step : Step} {id : String}
    (h : step.registration? = some ⟨id, url, false⟩) : LetDown headers url (steps ++ [step])
  | still {steps : List Step} {step : Step} (h : LetDown headers url steps)
    (hused : HasInstance (steps ++ [step]) url) : LetDown headers url (steps ++ [step])

namespace Registry

theorem events_complete_of_error {fetch : Fetch} {reply : Reply} {error : FetchError}
    (h : fetch.outcome reply = .error error) (registry : Registry) :
    (registry.complete fetch reply).1.events =
      registry.events ++ [.refreshFailed fetch.url error.message] := by
  simp only [complete, h]
  rfl

theorem fails_of_outcome {registry : Registry} {step : Step} {fetch : Fetch} {error : FetchError}
    (h : (registry.step step).2 = .delivered (some (fetch, .error error))) :
    registry.Fails fetch.url step := by
  refine ⟨fetch, error, h, rfl, ?_⟩
  obtain ⟨url, index, reply, rfl, hpending, herror⟩ := (outcome_eq_delivered_iff ..).1 h
  rw [step_of_pending hpending]
  exact events_complete_of_error herror registry

/-! ## One step -/

/-- The endpoint has a schema or waits for one. -/
def Served (registry : Registry) (url : String) : Prop :=
  (∃ schema, registry.schema url = some schema) ∨ registry.pending url ≠ []

theorem served_of_schemaFor {registry : Registry} (htidy : registry.Tidy) {step : Step}
    {url : String} (hused : (registry.step step).1.isUsed url = true)
    (h : ((registry.step step).2.schemaFor? url).isSome ∨ (registry.schema url).isSome) :
    (registry.step step).1.Served url := by
  left
  rw [schema_step htidy, if_pos hused, ← Option.isSome_iff_exists, Option.isSome_or,
    Bool.or_eq_true]
  exact h

/-- An endpoint that keeps an instance stays served unless a fetch of it fails. -/
theorem served_step {registry : Registry} (htidy : registry.Tidy) {url : String}
    (hsound : (registry.traffic url).Sound url) {step : Step}
    (hused : (registry.step step).1.isUsed url = true) (h : registry.Served url) :
    (registry.step step).1.Served url ∨ registry.Fails url step := by
  obtain ⟨schema, hschema⟩ | hpending := h
  · left
    apply served_of_schemaFor htidy hused
    exact Or.inr (by rw [hschema]; rfl)
  · -- Only an end takes away what is outstanding, and it brings a schema or fails.
    have hchanges := changes_step registry step url
    generalize houtcome : (registry.step step).2 = outcome at hchanges
    generalize hbefore : registry.traffic url = before at hchanges hsound
    generalize hafter : (registry.step step).1.traffic url = after at hchanges
    have hwaits : after.pending ≠ [] → (registry.step step).1.Served url := by
      intro hsome
      rw [← hafter] at hsome
      exact Or.inr hsome
    cases hchanges with
    | registers => exact Or.inl (hwaits (by simp))
    | refreshes => exact Or.inl (hwaits (by simp))
    | @ends fetch result hfetch =>
      obtain rfl := hsound.urls fetch hfetch
      cases result with
      | error error => exact Or.inr (fails_of_outcome houtcome)
      | ok schema =>
        left
        apply served_of_schemaFor htidy hused
        exact Or.inl (by simp [houtcome, StepOutcome.schemaFor?])
    | stays =>
      left
      apply hwaits
      rw [← hbefore]
      exact hpending

theorem pending_ne_nil_of_mem_inFlight {registry : Registry} {url : String}
    (hsound : (registry.traffic url).Sound url) (h : url ∈ registry.inFlight) :
    registry.pending url ≠ [] := by
  have hmarked : (registry.traffic url).isMarked = true := by simpa [traffic] using h
  exact Traffic.pending_ne_nil_of_marked hsound hmarked

theorem needsFetch_of_not_served {registry : Registry} {url : String}
    (hsound : (registry.traffic url).Sound url) (h : ¬ registry.Served url) :
    registry.NeedsFetch url := by
  rw [Served, not_or, not_exists, ← Option.eq_none_iff_forall_ne_some, ne_eq, not_not] at h
  obtain ⟨hschema, hpending⟩ := h
  refine ⟨(schema_eq_none_iff registry url).1 hschema, ?_⟩
  intro hmark
  exact pending_ne_nil_of_mem_inFlight hsound hmark hpending

theorem served_register {registry : Registry} {url : String}
    (hsound : (registry.traffic url).Sound url) (id : String) :
    (registry.register id url true).1.Served url := by
  obtain ⟨_, _, hregister⟩ | ⟨hneedless, hregister⟩ := register_cases registry id url true
  · right
    rw [hregister, pending_startFetch, if_pos rfl]
    simp
  · have hplaced : ((registry.place id url).traffic url).Sound url := by rwa [traffic_place]
    rw [hregister]
    by_contra hnot
    exact hneedless rfl (needsFetch_of_not_served hplaced hnot)

/-! ## Whole runs -/

theorem served_run (headers : Headers) (steps : List Step) (url : String)
    (h : History.HasInstance steps url) :
    ((new headers).run steps).Served url ∨ History.LetDown headers url steps := by
  induction steps using List.reverseRecOn with
  | nil =>
    obtain ⟨id, hid⟩ := h
    cases hid
  | append_singleton steps step ih =>
    have hsound := Traffic.sound_run headers steps url
    rw [run_snoc]
    obtain hbefore | ⟨id, isOnline, hregistration⟩ := History.hasInstance_of_snoc h
    · obtain hserved | hdown := ih hbefore
      · have hused := (isUsed_run headers (steps ++ [step]) url).2 h
        rw [run_snoc] at hused
        exact (served_step (tidy_run headers steps) hsound hused hserved).imp_right
          (History.LetDown.failed hbefore)
      · exact Or.inr (.still hdown h)
    · cases isOnline with
      | true =>
        obtain ⟨registered, hstep⟩ := step_of_registration hregistration ((new headers).run steps)
        rw [hstep]
        exact Or.inl (@served_register { (new headers).run steps with headers := registered } url
          hsound id)
      | false => exact Or.inr (.offline hregistration)

/-- No endpoint is ever stuck. A marked endpoint has an outstanding fetch; an endpoint with an
instance has a schema, an outstanding fetch or a setback since it last came to have instances; and
without the first two the next registration online starts a fetch. -/
theorem run_never_stuck (headers : Headers) (steps : List Step) (url : String) :
    (url ∈ ((new headers).run steps).inFlight → ((new headers).run steps).pending url ≠ []) ∧
    (History.HasInstance steps url →
      (∃ schema, ((new headers).run steps).schema url = some schema) ∨
        ((new headers).run steps).pending url ≠ [] ∨ History.LetDown headers url steps) ∧
    (((new headers).run steps).schema url = none → ((new headers).run steps).pending url = [] →
      ∀ step id, step.registration? = some ⟨id, url, true⟩ →
        ∃ fetch, (((new headers).run steps).step step).2 = .registered (some fetch) ∧
          fetch.url = url ∧ fetch.isRegistration = true ∧
          (((new headers).run steps).step step).1.pending url = [fetch]) := by
  have hsound := Traffic.sound_run headers steps url
  refine ⟨pending_ne_nil_of_mem_inFlight hsound, ?_, ?_⟩
  · intro hused
    exact or_assoc.1 (served_run headers steps url hused)
  · intro hschema hpending step id hregistration
    have hneeds : ((new headers).run steps).NeedsFetch url := by
      apply needsFetch_of_not_served hsound
      simp [Served, hschema, hpending]
    have htidy := tidy_run headers steps
    obtain ⟨registered, hstep⟩ := step_of_registration hregistration ((new headers).run steps)
    obtain ⟨fetch, hfetch, hurl, hkind, hafter, _⟩ :=
      @register_of_needsFetch { (new headers).run steps with headers := registered } htidy url
        hneeds id
    have hempty : pending { (new headers).run steps with headers := registered } url = [] :=
      hpending
    rw [hstep, hafter, hempty, hfetch]
    exact ⟨fetch, rfl, hurl, hkind, rfl⟩

end Registry

end QueryTree
