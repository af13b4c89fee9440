import QueryTree.Proofs.Registry.Positions
import QueryTree.Proofs.Registry.Schemas

/-! # Which schema is kept

The registry keeps no log, and yet the schema of an endpoint is a function of the whole history: it
is the one of the latest successful fetch that ended while the endpoint had an instance, provided
that the endpoint has had one ever since. -/

namespace QueryTree

/-! ## Positions that count -/

namespace History

/-- The step at the position completed a fetch with the schema, and from just before it the endpoint
has had an instance at all times. -/
structure Kept (headers : Headers) (steps : List Step) (url : String) (position : Nat)
    (schema : Schema) : Prop where
  completed : ∃ step, steps[position]? = some step ∧
    ((Registry.new headers).run (steps.take position)).Completes url schema step
  held : ∀ later, position ≤ later → later ≤ steps.length → HasInstance (steps.take later) url

/-- The schema of the latest position that counts. -/
def LatestKept (headers : Headers) (steps : List Step) (url : String) (schema : Schema) : Prop :=
  ∃ position, Kept headers steps url position schema ∧
    ∀ later other, position < later → ¬ Kept headers steps url later other

/-- What happens without any effect on the schema of an endpoint: a registration is rejected, or a
fetch ends that failed, or that is of another endpoint or of one without instances. -/
inductive Spares (steps : List Step) (url : String) : StepOutcome → Prop
  | rejected (error : HeaderError) : Spares steps url (.rejected error)
  | failed (fetch : Fetch) (error : FetchError) :
    Spares steps url (.delivered (some (fetch, .error error)))
  | elsewhere {fetch : Fetch} (result : Except FetchError Schema) (h : fetch.url ≠ url) :
    Spares steps url (.delivered (some (fetch, result)))
  | unused {fetch : Fetch} (result : Except FetchError Schema) (h : ¬ HasInstance steps fetch.url) :
    Spares steps url (.delivered (some (fetch, result)))

/-! ## One more step -/

variable {headers : Headers} {steps : List Step} {url : String} {position : Nat} {schema : Schema}

theorem kept_iff :
    Kept headers steps url position schema ↔
      Occurs (fun before step => ((Registry.new headers).run before).Completes url schema step)
        steps position ∧ HeldFrom steps url position :=
  ⟨fun h => ⟨h.completed, h.held⟩, fun h => ⟨h.1, h.2⟩⟩

theorem Kept.lt_length (h : Kept headers steps url position schema) : position < steps.length :=
  (kept_iff.1 h).1.lt_length

/-- A position counts after one more step if it counted before, or if it is the step itself. -/
theorem kept_snoc (headers : Headers) (steps : List Step) (step : Step) (url : String)
    (position : Nat) (schema : Schema) :
    Kept headers (steps ++ [step]) url position schema ↔
      HasInstance (steps ++ [step]) url ∧
        (Kept headers steps url position schema ∨ position = steps.length ∧
          HasInstance steps url ∧ ((Registry.new headers).run steps).Completes url schema step) := by
  rw [kept_iff, kept_iff, occurs_snoc]
  constructor
  · rintro ⟨hoccurs, hheld⟩
    have hlength : position ≤ steps.length := by
      rcases hoccurs with hbefore | ⟨rfl, _⟩
      · exact Nat.le_of_lt hbefore.lt_length
      · exact Nat.le_refl _
    obtain ⟨hend, hheld⟩ := (heldFrom_snoc (Nat.le_succ_of_le hlength)).1 hheld
    refine ⟨hend, ?_⟩
    rcases hoccurs with hbefore | ⟨rfl, hcompletes⟩
    · exact Or.inl ⟨hbefore, hheld⟩
    · exact Or.inr ⟨rfl, hheld.hasInstance hlength, hcompletes⟩
  · rintro ⟨hend, ⟨hbefore, hheld⟩ | ⟨rfl, hinstance, hcompletes⟩⟩
    · have hlength := Nat.le_succ_of_le (Nat.le_of_lt hbefore.lt_length)
      exact ⟨Or.inl hbefore, (heldFrom_snoc hlength).2 ⟨hend, hheld⟩⟩
    · refine ⟨Or.inr ⟨rfl, hcompletes⟩, (heldFrom_snoc (Nat.le_succ _)).2 ⟨hend, ?_⟩⟩
      intro later hle hlater
      obtain rfl : later = steps.length := by omega
      rwa [List.take_length]

theorem not_latestKept_nil : ¬ LatestKept headers [] url schema := by
  rintro ⟨position, h, _⟩
  exact absurd h.lt_length (by simp)

/-- Of the positions that count, one is the latest. -/
theorem exists_latestKept (h : Kept headers steps url position schema) :
    ∃ last, LatestKept headers steps url last :=
  exists_latest (fun _ _ h => h.lt_length) h

theorem hasInstance_of_completes {registry : Registry} {step : Step}
    (h : registry.Completes url schema step) :
    HasInstance (steps ++ [step]) url ↔ HasInstance steps url := by
  obtain ⟨index, status, body, _, _, rfl, _⟩ := h
  simp only [HasInstance, endpoint?_snoc, Step.endpointAfter]

/-- The latest schema after one more step is the one that the step brings, and otherwise the one
before, as long as there is an instance. -/
theorem latestKept_snoc (headers : Headers) (steps : List Step) (step : Step) (url : String)
    (schema : Schema) :
    LatestKept headers (steps ++ [step]) url schema ↔
      HasInstance (steps ++ [step]) url ∧
        (((Registry.new headers).run steps).Completes url schema step ∨
          (∀ other, ¬ ((Registry.new headers).run steps).Completes url other step) ∧
            LatestKept headers steps url schema) := by
  -- The end of a fetch moves no instance, so there was one before if there is one after.
  have hafter : ∀ position schema, Kept headers (steps ++ [step]) url position schema ↔
      HasInstance (steps ++ [step]) url ∧ (Kept headers steps url position schema ∨
        position = steps.length ∧
          ((Registry.new headers).run steps).Completes url schema step) := by
    intro position schema
    rw [kept_snoc]
    constructor
    · rintro ⟨hend, h⟩
      exact ⟨hend, h.imp_right fun ⟨hlast, _, hcompletes⟩ => ⟨hlast, hcompletes⟩⟩
    · rintro ⟨hend, h⟩
      refine ⟨hend, h.imp_right ?_⟩
      rintro ⟨hlast, hcompletes⟩
      exact ⟨hlast, (hasInstance_of_completes hcompletes).1 hend, hcompletes⟩
  have hlength : ∀ position schema, Kept headers steps url position schema →
      position < steps.length := fun _ _ h => h.lt_length
  exact latest_snoc hlength hafter

end History

namespace Registry

theorem schema_run_eq_some_iff (headers : Headers) (steps : List Step) (url : String)
    (schema : Schema) :
    ((new headers).run steps).schema url = some schema ↔
      History.LatestKept headers steps url schema := by
  induction steps using List.reverseRecOn generalizing schema with
  | nil =>
    have hempty : ((new headers).run []).schema url = none := rfl
    simp [hempty, History.not_latestKept_nil]
  | append_singleton steps step ih =>
    have hused := isUsed_run headers (steps ++ [step]) url
    have hstep := schema_step (tidy_run headers steps) step url
    rw [run_snoc] at hused ⊢
    rw [hstep, History.latestKept_snoc, ← hused, ← ih]
    simp only [completes_iff]
    by_cases hend : (((new headers).run steps).step step).1.isUsed url = true
    · rw [if_pos hend, Option.or_eq_some_iff, Option.eq_none_iff_forall_ne_some]
      simp [hend]
    · rw [if_neg hend]
      simp [hend]

theorem Tidy.schema_eq_none {registry : Registry} (h : registry.Tidy) {url : String}
    (hunused : ¬ registry.isUsed url = true) : registry.schema url = none :=
  (schema_eq_none_iff ..).2 (h.find?_eq_none hunused)

theorem step_of_outcome_rejected {registry : Registry} {step : Step} {error : HeaderError}
    (h : (registry.step step).2 = .rejected error) : (registry.step step).1 = registry := by
  have heffect := effect_step registry step
  generalize registry.step step = after at heffect h ⊢
  cases heffect with
  | rejects => rfl
  | registers | unregisters | refreshes | misses | ends => cases h

theorem isUsed_of_outcome_delivered {registry : Registry} {step : Step} {fetch : Fetch}
    {result : Except FetchError Schema}
    (h : (registry.step step).2 = .delivered (some (fetch, result))) (url : String) :
    (registry.step step).1.isUsed url = registry.isUsed url := by
  obtain ⟨target, index, reply, rfl, _⟩ := (outcome_eq_delivered_iff ..).1 h
  exact isUsed_congr (instances_deliver registry target index reply) url

/-- A fetch that brings no schema for an endpoint leaves that endpoint's schema as it is. -/
theorem schema_of_outcome_delivered {registry : Registry} (htidy : registry.Tidy) {step : Step}
    {fetch : Fetch} {result : Except FetchError Schema}
    (h : (registry.step step).2 = .delivered (some (fetch, result))) {url : String}
    (hnone : registry.isUsed url = true → (registry.step step).2.schemaFor? url = none) :
    (registry.step step).1.schema url = registry.schema url := by
  rw [schema_step htidy, isUsed_of_outcome_delivered h]
  split
  · next hused => rw [hnone hused, Option.none_or]
  · next hunused => rw [htidy.schema_eq_none hunused]

theorem schema_of_spares (headers : Headers) (steps : List Step) (url : String) (step : Step)
    (h : History.Spares steps url (((new headers).run steps).step step).2) :
    (((new headers).run steps).step step).1.schema url = ((new headers).run steps).schema url := by
  have htidy := tidy_run headers steps
  generalize houtcome : (((new headers).run steps).step step).2 = outcome at h
  cases h with
  | rejected error => rw [step_of_outcome_rejected houtcome]
  | failed fetch error =>
    apply schema_of_outcome_delivered htidy houtcome
    rw [houtcome]
    exact fun _ => rfl
  | elsewhere result hne =>
    apply schema_of_outcome_delivered htidy houtcome
    rw [houtcome]
    cases result <;> simp [StepOutcome.schemaFor?, hne]
  | @unused fetch result hunused =>
    apply schema_of_outcome_delivered htidy houtcome
    intro hused
    have hne : fetch.url ≠ url := by
      rintro rfl
      exact hunused ((isUsed_run headers steps fetch.url).1 hused)
    rw [houtcome]
    cases result <;> simp [StepOutcome.schemaFor?, hne]

/-- After any run, an endpoint's schema is that of the latest fetch that succeeded while the endpoint
had an instance, which it must have had ever since; without such a fetch, and for an endpoint without
instances, there is none. -/
theorem schema_run_eq_latest (headers : Headers) (steps : List Step) (url : String) :
    (∀ schema, ((new headers).run steps).schema url = some schema ↔
      History.LatestKept headers steps url schema) ∧
    (((new headers).run steps).schema url = none ↔
      ∀ position schema, ¬ History.Kept headers steps url position schema) ∧
    (¬ History.HasInstance steps url → ((new headers).run steps).schema url = none) ∧
    ∀ step, History.Spares steps url (((new headers).run steps).step step).2 →
      (((new headers).run steps).step step).1.schema url =
        ((new headers).run steps).schema url := by
  refine ⟨schema_run_eq_some_iff headers steps url, ?_, ?_, schema_of_spares headers steps url⟩
  · rw [Option.eq_none_iff_forall_ne_some]
    simp only [ne_eq, schema_run_eq_some_iff]
    constructor
    · intro hnone position schema hkept
      obtain ⟨last, hlast⟩ := History.exists_latestKept hkept
      exact hnone last hlast
    · rintro hnone schema ⟨position, hkept, _⟩
      exact hnone position schema hkept
  · intro hempty
    apply (tidy_run headers steps).schema_eq_none
    rwa [isUsed_run]

end Registry

end QueryTree
