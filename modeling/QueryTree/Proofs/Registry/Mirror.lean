import Mathlib.Data.Finset.Basic
import QueryTree.Proofs.Registry.Schemas

/-! # Events mirror the schemas

Events are told apart from the changes that they tell of. Still whoever follows all of them knows at
any time which endpoints have a schema: no schema comes or goes without an event, and no event tells
of a change that did not happen. -/

namespace QueryTree

/-! ## Following the events -/

namespace Event

/-- The endpoints with a schema after the event, from those before it. -/
def apply (known : Finset String) : Event → Finset String
  | .updated url => insert url known
  | .refreshFailed _ _ => known
  | .evicted url => known.erase url

def replay (events : List Event) : Finset String := events.foldl apply ∅

theorem replay_snoc (events : List Event) (event : Event) :
    replay (events ++ [event]) = apply (replay events) event := by
  simp [replay, List.foldl_append]

/-- Every eviction is of an endpoint that has a schema by the events before it. -/
def Consistent (events : List Event) : Prop :=
  ∀ earlier later url, events = earlier ++ .evicted url :: later → url ∈ replay earlier

theorem consistent_snoc {events : List Event} (h : Consistent events) {event : Event}
    (hevent : ∀ url, event = .evicted url → url ∈ replay events) :
    Consistent (events ++ [event]) := by
  intro earlier later url hsplit
  rcases List.eq_nil_or_concat later with rfl | ⟨rest, last, rfl⟩
  · obtain ⟨rfl, hlast⟩ := List.append_inj' hsplit rfl
    exact hevent url (by simpa using hlast)
  · have hsplit' : events ++ [event] = (earlier ++ .evicted url :: rest) ++ [last] := by
      simpa using hsplit
    obtain ⟨hevents, _⟩ := List.append_inj' hsplit' rfl
    exact h earlier rest url hevents

end Event

namespace Registry

/-! ## What a change tells -/

/-- What is told when the schemas of the endpoints change. -/
inductive Tells (before after : String → Option Schema) : List Event → Prop
  | nothing (h : ∀ url, after url = before url) : Tells before after []
  | failed (url message : String) (h : ∀ other, after other = before other) :
    Tells before after [.refreshFailed url message]
  | updated (url : String) (schema : Schema)
    (h : ∀ other, after other = if url = other then some schema else before other) :
    Tells before after [.updated url]
  | evicted (url : String) (hkept : (before url).isSome = true)
    (h : ∀ other, after other = if url = other then none else before other) :
    Tells before after [.evicted url]

structure Mirrored (registry : Registry) : Prop where
  replayed : ∀ url, url ∈ Event.replay registry.events ↔ (registry.schema url).isSome = true
  consistent : Event.Consistent registry.events

theorem mirrored_new (headers : Headers) : (new headers).Mirrored where
  replayed := by
    intro url
    have hnone : (new headers).schema url = none := rfl
    rw [hnone]
    simp [new, Event.replay]
  consistent := by
    intro earlier later url h
    have hnil : ([] : List Event) = earlier ++ .evicted url :: later := h
    simp at hnil

theorem Mirrored.tells {before after : Registry} (h : before.Mirrored) {told : List Event}
    (htold : Tells before.schema after.schema told) (hevents : after.events = before.events ++ told) :
    after.Mirrored := by
  obtain ⟨hreplayed, hconsistent⟩ := h
  cases htold with
  | nothing hschema =>
    rw [List.append_nil] at hevents
    refine ⟨?_, by rwa [hevents]⟩
    intro url
    rw [hevents, hschema, hreplayed]
  | failed url message hschema =>
    refine ⟨?_, ?_⟩
    · intro other
      rw [hevents, Event.replay_snoc, hschema, ← hreplayed]
      rfl
    · rw [hevents]
      exact Event.consistent_snoc hconsistent (by simp)
  | updated url schema hschema =>
    refine ⟨?_, ?_⟩
    · intro other
      rw [hevents, Event.replay_snoc, hschema, Event.apply, Finset.mem_insert, hreplayed]
      by_cases heq : url = other
      · simp [heq]
      · simp [heq, Ne.symm heq]
    · rw [hevents]
      exact Event.consistent_snoc hconsistent (by simp)
  | evicted url hkept hschema =>
    refine ⟨?_, ?_⟩
    · intro other
      rw [hevents, Event.replay_snoc, hschema, Event.apply, Finset.mem_erase, hreplayed]
      by_cases heq : url = other
      · simp [heq]
      · simp [heq, Ne.symm heq]
    · rw [hevents]
      apply Event.consistent_snoc hconsistent
      intro other heq
      obtain rfl : url = other := by simpa using heq
      exact (hreplayed url).2 hkept

/-! ## Steps -/

/-- Nothing is told, or that one schema was evicted. -/
def TellsEviction (before after : Registry) : Prop :=
  ∃ told, after.events = before.events ++ told ∧ Tells before.schema after.schema told ∧
    (told = [] ∨ ∃ url, told = [.evicted url])

theorem tellsEviction_of_same {before after : Registry} (hevents : after.events = before.events)
    (hschemas : after.schemas = before.schemas) : before.TellsEviction after := by
  refine ⟨[], by simp [hevents], .nothing ?_, Or.inl rfl⟩
  intro url
  rw [schema, hschemas, schema]

theorem tellsEviction_evictUnused (registry : Registry) (url : String) :
    registry.TellsEviction (registry.evictUnused url) := by
  have herased : ∀ other, ((registry.schemas.erase url).find? other).map Snapshot.schema =
      if url = other then none else registry.schema other := by
    intro other
    rw [Table.find?_erase]
    split <;> rfl
  unfold evictUnused
  split
  · exact tellsEviction_of_same rfl rfl
  · simp only
    split
    · next hkept =>
      refine ⟨[.evicted url], rfl, .evicted url ?_ herased, Or.inr ⟨url, rfl⟩⟩
      rw [Table.contains] at hkept
      rw [schema, Option.isSome_map]
      exact hkept
    · next hnone =>
      refine ⟨[], by simp, .nothing ?_, Or.inl rfl⟩
      have hgone : registry.schemas.find? url = none := by simpa [Table.contains] using hnone
      intro other
      refine (herased other).trans ?_
      split
      · next heq =>
        rw [← heq]
        exact ((schema_eq_none_iff registry url).2 hgone).symm
      · rfl

theorem tellsEviction_place (registry : Registry) (id url : String) :
    registry.TellsEviction (registry.place id url) := by
  unfold place
  simp only
  split
  · exact tellsEviction_of_same rfl rfl
  · next previous _ =>
    split
    · exact tellsEviction_of_same rfl rfl
    · exact tellsEviction_evictUnused
        { registry with instances := registry.instances.insert id url } previous

theorem tellsEviction_register (registry : Registry) (id url : String) (isOnline : Bool) :
    registry.TellsEviction (registry.register id url isOnline).1 := by
  -- A fetch that starts changes neither the schemas nor the events.
  have hplace := tellsEviction_place registry id url
  unfold register
  simp only
  split
  · exact hplace
  · exact hplace

theorem tellsEviction_unregister (registry : Registry) (id : String) :
    registry.TellsEviction (registry.unregister id) := by
  unfold unregister
  split
  · exact tellsEviction_of_same rfl rfl
  · next url _ =>
    exact tellsEviction_evictUnused { registry with instances := registry.instances.erase id } url

/-- What the end of a fetch tells. -/
def toldAtEnd (registry : Registry) (fetch : Fetch) : Except FetchError Schema → List Event
  | .error error => [.refreshFailed fetch.url error.message]
  | .ok _ => if registry.isUsed fetch.url then [.updated fetch.url] else []

theorem tells_complete (registry : Registry) (fetch : Fetch) (reply : Reply) :
    (registry.complete fetch reply).1.events =
        registry.events ++ registry.toldAtEnd fetch (fetch.outcome reply) ∧
      Tells registry.schema (registry.complete fetch reply).1.schema
        (registry.toldAtEnd fetch (fetch.outcome reply)) := by
  cases hbuilt : fetch.outcome reply with
  | error error =>
    simp only [complete, hbuilt, toldAtEnd]
    exact ⟨rfl, .failed _ _ fun _ => rfl⟩
  | ok built =>
    simp only [complete, hbuilt, toldAtEnd]
    split
    · next hused =>
      have hused : registry.isUsed fetch.url = true := hused
      rw [if_pos hused]
      refine ⟨rfl, .updated _ built fun other => ?_⟩
      change ((registry.schemas.insert fetch.url ⟨built, fetch.number⟩).find? other).map _ = _
      rw [Table.find?_insert]
      split <;> rfl
    · next hunused =>
      have hunused : ¬ registry.isUsed fetch.url = true := hunused
      rw [if_neg hunused]
      exact ⟨by simp, .nothing fun _ => rfl⟩

/-- A step ends a fetch and tells what came of it, or else tells of an eviction at most. -/
theorem tells_step (registry : Registry) (step : Step) :
    (∃ fetch result, (registry.step step).2 = .delivered (some (fetch, result)) ∧
      (registry.step step).1.events = registry.events ++ registry.toldAtEnd fetch result ∧
      Tells registry.schema (registry.step step).1.schema (registry.toldAtEnd fetch result)) ∨
    ((∀ fetch result, (registry.step step).2 ≠ .delivered (some (fetch, result))) ∧
      registry.TellsEviction (registry.step step).1) := by
  have heffect := effect_step registry step
  generalize registry.step step = result at heffect ⊢
  cases heffect with
  | @registers _ headers id url isOnline =>
    right
    exact ⟨by simp, tellsEviction_register { registry with headers := headers } id url isOnline⟩
  | rejects => exact Or.inr ⟨by simp, tellsEviction_of_same rfl rfl⟩
  | unregisters id => exact Or.inr ⟨by simp, tellsEviction_unregister registry id⟩
  | refreshes => exact Or.inr ⟨by simp, tellsEviction_of_same rfl rfl⟩
  | misses => exact Or.inr ⟨by simp, tellsEviction_of_same rfl rfl⟩
  | @ends _ _ reply fetch =>
    obtain ⟨hevents, htells⟩ := tells_complete registry fetch reply
    exact Or.inl ⟨fetch, _, rfl, hevents, htells⟩

theorem Mirrored.step {registry : Registry} (h : registry.Mirrored) (step : Step) :
    (registry.step step).1.Mirrored := by
  obtain ⟨_, _, _, hevents, htells⟩ | ⟨_, _, hevents, htells, _⟩ := tells_step registry step
  · exact h.tells htells hevents
  · exact h.tells htells hevents

end Registry

/-! ## All operations -/

/-- A step of the registry, or a failure that is reported from outside. -/
inductive Operation where
  | step (step : Step)
  | reportFailure (url : String) (error : FetchError)

namespace Registry

def perform (registry : Registry) : Operation → Registry
  | .step step => (registry.step step).1
  | .reportFailure url error => registry.reportFailure url error

def performAll (registry : Registry) (operations : List Operation) : Registry :=
  operations.foldl perform registry

theorem Mirrored.perform {registry : Registry} (h : registry.Mirrored) (operation : Operation) :
    (registry.perform operation).Mirrored := by
  cases operation with
  | step step => exact h.step step
  | reportFailure url error =>
    exact h.tells (.failed url error.message fun _ => rfl) rfl

theorem mirrored_performAll (headers : Headers) (operations : List Operation) :
    ((new headers).performAll operations).Mirrored := by
  induction operations using List.reverseRecOn with
  | nil => exact mirrored_new headers
  | append_singleton operations operation ih =>
    rw [performAll, List.foldl_append]
    exact ih.perform operation

/-- After any operations, the events replayed give just the endpoints with a schema, and every
eviction is of an endpoint that had one then. A failed fetch tells its error and nothing else, a
successful one an update if the endpoint has an instance and nothing otherwise, and all other steps
keep every schema without a word unless they drop one and tell it. -/
theorem events_mirror_schemas :
    (∀ headers operations url,
      url ∈ Event.replay ((new headers).performAll operations).events ↔
        ∃ schema, ((new headers).performAll operations).schema url = some schema) ∧
    (∀ headers operations earlier later url,
      ((new headers).performAll operations).events = earlier ++ .evicted url :: later →
        url ∈ Event.replay earlier) ∧
    ∀ (registry : Registry) (step : Step),
      (∀ fetch error, (registry.step step).2 = .delivered (some (fetch, .error error)) →
        (registry.step step).1.events =
          registry.events ++ [.refreshFailed fetch.url error.message]) ∧
      (∀ fetch schema, (registry.step step).2 = .delivered (some (fetch, .ok schema)) →
        (registry.step step).1.events =
          registry.events ++ if registry.isUsed fetch.url then [.updated fetch.url] else []) ∧
      ((∀ fetch result, (registry.step step).2 ≠ .delivered (some (fetch, result))) →
        ((registry.step step).1.events = registry.events ∧
          ∀ url, (registry.step step).1.schema url = registry.schema url) ∨
        ∃ url schema, (registry.step step).1.events = registry.events ++ [.evicted url] ∧
          registry.schema url = some schema ∧ (registry.step step).1.schema url = none) := by
  refine ⟨?_, ?_, ?_⟩
  · intro headers operations url
    rw [(mirrored_performAll headers operations).replayed, Option.isSome_iff_exists]
  · intro headers operations
    exact (mirrored_performAll headers operations).consistent
  · intro registry step
    obtain ⟨ended, result, houtcome, hevents, _⟩ | ⟨hnone, told, hevents, htells, hevicted⟩ :=
      tells_step registry step
    · rw [houtcome]
      refine ⟨?_, ?_, ?_⟩
      · rintro fetch error ⟨⟩
        exact hevents
      · rintro fetch schema ⟨⟩
        exact hevents
      · exact fun h => absurd rfl (h ended result)
    · refine ⟨fun fetch error h => absurd h (hnone _ _), fun fetch schema h => absurd h (hnone _ _),
        fun _ => ?_⟩
      obtain rfl | ⟨url, rfl⟩ := hevicted
      · cases htells with
        | nothing hschema => exact Or.inl ⟨by simpa using hevents, hschema⟩
      · cases htells with
        | evicted _ hkept hschema =>
          obtain ⟨schema, hkept⟩ := Option.isSome_iff_exists.1 hkept
          exact Or.inr ⟨url, schema, hevents, hkept, by rw [hschema, if_pos rfl]⟩

end Registry

end QueryTree
