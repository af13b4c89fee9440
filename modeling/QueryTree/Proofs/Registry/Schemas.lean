import QueryTree.Proofs.Registry.Effects
import QueryTree.Proofs.Registry.Vacancy

/-! # What a step does to the schemas

Only a successful fetch sets a schema, and only for an endpoint with an instance; the schema goes with
the last instance. So no schema is ever kept for an endpoint without instances. -/

namespace QueryTree

/-! ## Used endpoints -/

/-- The schema that a fetch of the endpoint ended with. -/
def StepOutcome.schemaFor? (url : String) : StepOutcome → Option Schema
  | .delivered (some (fetch, .ok schema)) => if fetch.url = url then some schema else none
  | _ => none

namespace Registry

/-- Every schema that is kept belongs to an endpoint with an instance. -/
def Tidy (registry : Registry) : Prop :=
  ∀ url snapshot, registry.schemas.find? url = some snapshot → registry.isUsed url = true

theorem tidy_new (headers : Headers) : (new headers).Tidy := by
  intro url snapshot h
  simp [new] at h

theorem Tidy.find?_eq_none {registry : Registry} (h : registry.Tidy) {url : String}
    (hunused : ¬ registry.isUsed url = true) : registry.schemas.find? url = none := by
  rw [Option.eq_none_iff_forall_not_mem]
  exact fun snapshot hkept => hunused (h url snapshot hkept)

theorem Tidy.find?_eq_ite {registry : Registry} (h : registry.Tidy) (url : String) :
    registry.schemas.find? url =
      if registry.isUsed url then registry.schemas.find? url else none := eq_ite_of_some (h url)

theorem schema_eq_none_iff (registry : Registry) (url : String) :
    registry.schema url = none ↔ registry.schemas.find? url = none := by
  rw [schema, Option.map_eq_none_iff]

/-! ## Instances that move -/

theorem find?_schemas_place {registry : Registry} (h : registry.Tidy) (id url other : String) :
    (registry.place id url).schemas.find? other =
      if (registry.place id url).isUsed other then registry.schemas.find? other else none := by
  refine isKept_schemas.find?_place ?_ id other
  exact fun kept snapshot hkept => Or.inl (h kept snapshot hkept)

theorem find?_schemas_unregister {registry : Registry} (h : registry.Tidy) (id other : String) :
    (registry.unregister id).schemas.find? other =
      if (registry.unregister id).isUsed other then registry.schemas.find? other else none :=
  isKept_schemas.find?_unregister h id other

theorem find?_schemas_register {registry : Registry} (h : registry.Tidy) (id url : String)
    (isOnline : Bool) (other : String) :
    (registry.register id url isOnline).1.schemas.find? other =
      if (registry.register id url isOnline).1.isUsed other then registry.schemas.find? other
      else none := by
  have hinstances : (registry.register id url isOnline).1.instances =
      (registry.place id url).instances := by rw [instances_register, instances_place]
  have hschemas : (registry.register id url isOnline).1.schemas =
      (registry.place id url).schemas := by
    unfold register
    simp only
    split <;> rfl
  rw [hschemas, isUsed_congr hinstances]
  exact find?_schemas_place h id url other

/-! ## Steps -/

/-- A schema that a step sets nothing for is kept as long as its endpoint is used. -/
theorem schema_eq_ite {registry after : Registry} {url : String}
    (h : after.schemas.find? url =
      if after.isUsed url then registry.schemas.find? url else none) :
    after.schema url = if after.isUsed url then none.or (registry.schema url) else none := by
  rw [schema, h]
  split <;> rfl

theorem schema_complete {registry : Registry} (h : registry.Tidy) (fetch : Fetch) (reply : Reply)
    (url : String) :
    (registry.complete fetch reply).1.schema url =
      if registry.isUsed url then
        ((StepOutcome.delivered (some (fetch, (registry.complete fetch reply).2))).schemaFor? url).or
          (registry.schema url)
      else none := by
  have hkept : registry.schema url =
      if registry.isUsed url then none.or (registry.schema url) else none :=
    schema_eq_ite (h.find?_eq_ite url)
  unfold complete
  simp only
  split
  · exact hkept
  · next schema hok =>
    split
    · next hused =>
      by_cases heq : fetch.url = url
      · subst heq
        have hused : registry.isUsed fetch.url = true := hused
        simp [Registry.schema, emit, StepOutcome.schemaFor?, hused]
      · have hother : (registry.schemas.insert fetch.url ⟨schema, fetch.number⟩).find? url =
            registry.schemas.find? url := Table.find?_insert_of_ne (Ne.symm heq) _ _
        simp only [StepOutcome.schemaFor?, if_neg heq]
        rw [← hkept, Registry.schema, Registry.schema]
        exact congrArg _ hother
    · next hunused =>
      by_cases heq : fetch.url = url
      · subst heq
        have hunused : ¬ registry.isUsed fetch.url = true := hunused
        rw [if_neg hunused, schema_eq_none_iff]
        exact h.find?_eq_none hunused
      · simp only [StepOutcome.schemaFor?, if_neg heq]
        exact hkept

/-- What a step does to the schema of an endpoint: a successful fetch replaces it, and it goes with
the last instance. -/
theorem schema_step {registry : Registry} (h : registry.Tidy) (step : Step) (url : String) :
    (registry.step step).1.schema url =
      if (registry.step step).1.isUsed url then
        ((registry.step step).2.schemaFor? url).or (registry.schema url)
      else none := by
  have hsame := h.find?_eq_ite url
  have heffect := effect_step registry step
  generalize registry.step step = result at heffect ⊢
  cases heffect with
  | @registers _ headers id target isOnline =>
    have htidy : ({ registry with headers := headers } : Registry).Tidy := h
    exact @schema_eq_ite registry _ _ (find?_schemas_register htidy id target isOnline url)
  | rejects | refreshes | misses => exact schema_eq_ite hsame
  | unregisters id => exact schema_eq_ite (find?_schemas_unregister h id url)
  | @ends _ _ reply fetch =>
    rw [isUsed_congr (instances_complete registry fetch reply), ← complete_outcome registry]
    exact schema_complete h fetch reply url

theorem tidy_step {registry : Registry} (h : registry.Tidy) (step : Step) :
    (registry.step step).1.Tidy := by
  intro url snapshot hkept
  by_contra hunused
  have hnone := schema_step h step url
  rw [if_neg hunused, schema_eq_none_iff, hkept] at hnone
  cases hnone

theorem tidy_run (headers : Headers) (steps : List Step) : ((new headers).run steps).Tidy := by
  induction steps using List.reverseRecOn with
  | nil => exact tidy_new headers
  | append_singleton steps step ih =>
    rw [run_snoc]
    exact tidy_step ih step

end Registry

/-! ## Successful fetches -/

/-- The step delivers a whole body with a status of success to an outstanding fetch of the endpoint
whose request was sent, and the body spells the schema. -/
def Registry.Completes (registry : Registry) (url : String) (schema : Schema) (step : Step) :
    Prop :=
  ∃ index status body fetch request,
    step = .deliver url index (.whole status body) ∧
    (registry.pending url)[index]? = some fetch ∧ fetch.request = .ok request ∧
    200 ≤ status ∧ status < 300 ∧ Schema.ofResponseText body = .ok schema

theorem Request.outcome_eq_ok_iff (request : Request) (reply : Reply) (schema : Schema) :
    request.outcome reply = .ok schema ↔ ∃ status body, reply = .whole status body ∧
      200 ≤ status ∧ status < 300 ∧ Schema.ofResponseText body = .ok schema := by
  cases reply with
  | whole status body =>
    simp only [outcome, isSuccess, Bool.and_eq_true, decide_eq_true_eq]
    split
    · next hsuccess => cases hbuilt : Schema.ofResponseText body <;> simp [hbuilt, hsuccess]
    · next hfailure =>
      simp only [reduceCtorEq, Reply.whole.injEq, false_iff]
      rintro ⟨_, _, ⟨rfl, rfl⟩, hlow, hhigh, _⟩
      exact hfailure ⟨hlow, hhigh⟩
  | cut status => simp [outcome]
  | dropped => simp [outcome]

theorem Fetch.outcome_eq_ok_iff (fetch : Fetch) (reply : Reply) (schema : Schema) :
    fetch.outcome reply = .ok schema ↔ ∃ request, fetch.request = .ok request ∧
      request.outcome reply = .ok schema := by
  unfold outcome
  cases fetch.request <;> simp

theorem StepOutcome.schemaFor?_eq_some_iff (url : String) (schema : Schema)
    (outcome : StepOutcome) : outcome.schemaFor? url = some schema ↔
      ∃ fetch, outcome = .delivered (some (fetch, .ok schema)) ∧ fetch.url = url := by
  unfold schemaFor?
  split
  · next fetch built =>
    split
    · next h => simp [h, and_comm]
    · next h => simp [h]
  · next hother =>
    simp only [reduceCtorEq, false_iff]
    rintro ⟨fetch, rfl, _⟩
    exact hother fetch schema rfl

namespace Registry

theorem outcome_eq_delivered_iff (registry : Registry) (step : Step) (fetch : Fetch)
    (result : Except FetchError Schema) :
    (registry.step step).2 = .delivered (some (fetch, result)) ↔
      ∃ url index reply, step = .deliver url index reply ∧
        (registry.pending url)[index]? = some fetch ∧ fetch.outcome reply = result := by
  constructor
  · intro h
    have heffect := effect_step registry step
    generalize registry.step step = after at heffect h
    cases heffect with
    | ends reply hpending =>
      cases h
      exact ⟨_, _, reply, rfl, hpending, rfl⟩
    | registers | rejects | unregisters | refreshes | misses => cases h
  · rintro ⟨url, index, reply, rfl, hpending, rfl⟩
    rw [step_of_pending hpending, complete_outcome]

/-- A step completes a fetch exactly when its outcome brings a schema. -/
theorem completes_iff (registry : Registry) (url : String) (schema : Schema) (step : Step) :
    registry.Completes url schema step ↔
      (registry.step step).2.schemaFor? url = some schema := by
  rw [StepOutcome.schemaFor?_eq_some_iff]
  constructor
  · rintro ⟨index, status, body, fetch, request, rfl, hpending, hsent, hlow, hhigh, hbuilt⟩
    refine ⟨fetch, ?_, url_of_pending hpending⟩
    rw [outcome_eq_delivered_iff]
    refine ⟨url, index, .whole status body, rfl, hpending, ?_⟩
    rw [Fetch.outcome_eq_ok_iff]
    refine ⟨request, hsent, ?_⟩
    rw [Request.outcome_eq_ok_iff]
    exact ⟨status, body, rfl, hlow, hhigh, hbuilt⟩
  · rintro ⟨fetch, houtcome, rfl⟩
    obtain ⟨target, index, reply, rfl, hpending, hok⟩ :=
      (outcome_eq_delivered_iff ..).1 houtcome
    obtain ⟨request, hsent, hreply⟩ := (Fetch.outcome_eq_ok_iff ..).1 hok
    obtain ⟨status, body, rfl, hlow, hhigh, hbuilt⟩ := (Request.outcome_eq_ok_iff ..).1 hreply
    obtain rfl := url_of_pending hpending
    exact ⟨index, status, body, fetch, request, rfl, hpending, hsent, hlow, hhigh, hbuilt⟩

end Registry

end QueryTree
