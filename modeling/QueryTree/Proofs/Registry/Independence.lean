import QueryTree.Proofs.Registry.Locality

/-! # Independent steps

Two steps are independent if they are about different instances and share no endpoint. It makes no
difference in which order they are taken: not to the steps themselves, and not to anything that
happens later. -/

namespace QueryTree

/-! ## What a step is about -/

namespace Step

/-- The instance that the step registers or unregisters. -/
def instance? : Step → Option String
  | .register id _ | .registerOffline id _ | .registerWithHeaders id _ _
  | .registerWithHeadersOffline id _ _ | .unregister id => some id
  | .refresh _ | .deliver _ _ _ => none

/-- The endpoint that the step names. -/
def url? : Step → Option String
  | .register _ url | .registerOffline _ url | .registerWithHeaders _ url _
  | .registerWithHeadersOffline _ url _ | .refresh url | .deliver url _ _ => some url
  | .unregister _ => none

theorem endpointAfter_of_ne {step : Step} {id : String} (h : step.instance? ≠ some id)
    (before : Option String) : step.endpointAfter id before = before := by
  cases step with
  | register | registerOffline | registerWithHeaders | registerWithHeadersOffline | unregister =>
    simp only [instance?, ne_eq, Option.some.injEq] at h
    simp [endpointAfter, h]
  | refresh | deliver => rfl

end Step

namespace Registry

/-- The endpoints of a step: the one that it names, and the one that its instance is on. -/
def urls (registry : Registry) (step : Step) : List String :=
  step.url?.toList ++ (step.instance?.bind registry.endpoint?).toList

/-- Keeps headers for an endpoint if there are any. -/
def store (registry : Registry) (url : String) : Option Headers → Registry
  | none => registry
  | some headers => { registry with headers := registry.headers.insert url headers }

/-- What a step comes to in every registry. A registration may bring headers, which are stored first
or reject it. -/
theorem step_cases (step : Step) :
    (∃ id url supplied isOnline, step.instance? = some id ∧ step.url? = some url ∧
      ∀ registry : Registry, registry.step step =
        (((registry.store url supplied).register id url isOnline).1,
          .registered ((registry.store url supplied).register id url isOnline).2)) ∨
    (∃ error, ∀ registry : Registry, registry.step step = (registry, .rejected error)) ∨
    (∃ id, step = .unregister id) ∨ (∃ url, step = .refresh url) ∨
    ∃ url index reply, step = .deliver url index reply := by
  cases step with
  | register id url => exact Or.inl ⟨id, url, none, true, rfl, rfl, fun _ => rfl⟩
  | registerOffline id url => exact Or.inl ⟨id, url, none, false, rfl, rfl, fun _ => rfl⟩
  | registerWithHeaders id url headersText =>
    cases hparse : Headers.ofText headersText with
    | error error => exact Or.inr (Or.inl ⟨error, fun _ => step_of_rejected hparse ..⟩)
    | ok headers =>
      exact Or.inl ⟨id, url, some headers, true, rfl, rfl, fun _ => step_of_headers hparse ..⟩
  | registerWithHeadersOffline id url headersText =>
    cases hparse : Headers.ofText headersText with
    | error error => exact Or.inr (Or.inl ⟨error, fun _ => step_of_rejected_offline hparse ..⟩)
    | ok headers =>
      exact Or.inl
        ⟨id, url, some headers, false, rfl, rfl, fun _ => step_of_headers_offline hparse ..⟩
  | unregister id => exact Or.inr (Or.inr (Or.inl ⟨id, rfl⟩))
  | refresh url => exact Or.inr (Or.inr (Or.inr (Or.inl ⟨url, rfl⟩)))
  | deliver url index reply => exact Or.inr (Or.inr (Or.inr (Or.inr ⟨url, index, reply, rfl⟩)))

variable {registry other : Registry} {url : String}

theorem site_store_of_ne {target : String} (h : target ≠ url) (registry : Registry)
    (supplied : Option Headers) : (registry.store target supplied).site url = registry.site url := by
  cases supplied with
  | none => rfl
  | some headers =>
    exact site_eq_iff.2 ⟨fun _ => Iff.rfl, rfl, Table.find?_insert_of_ne h.symm .., rfl, rfl⟩

theorem site_store (h : registry.site url = other.site url) (target : String)
    (supplied : Option Headers) :
    (registry.store target supplied).site url = (other.store target supplied).site url := by
  cases supplied with
  | none => exact h
  | some headers =>
    obtain ⟨hholds, hsnapshot, hheaders, htraffic, hevents⟩ := site_eq_iff.1 h
    refine site_eq_iff.2 ⟨hholds, hsnapshot, ?_, htraffic, hevents⟩
    change (registry.headers.insert target headers).find? url =
      (other.headers.insert target headers).find? url
    rw [Table.find?_insert, Table.find?_insert, hheaders]

theorem endpoint?_store (registry : Registry) (target : String) (supplied : Option Headers)
    (id : String) : (registry.store target supplied).endpoint? id = registry.endpoint? id := by
  cases supplied <;> rfl

theorem defaultHeaders_store (registry : Registry) (target : String) (supplied : Option Headers) :
    (registry.store target supplied).defaultHeaders = registry.defaultHeaders := by
  cases supplied <;> rfl

/-! ## One step -/

theorem defaultHeaders_step (registry : Registry) (step : Step) :
    (registry.step step).1.defaultHeaders = registry.defaultHeaders := by
  have heffect := effect_step registry step
  generalize registry.step step = result at heffect ⊢
  cases heffect with
  | registers headers => exact defaultHeaders_register { registry with headers := headers } ..
  | unregisters id => exact defaultHeaders_unregister registry id
  | ends reply => exact defaultHeaders_complete ..
  | rejects | refreshes | misses => rfl

/-- A step changes nothing that is held for an endpoint that is none of its own. -/
theorem site_step_of_not_mem {step : Step} (h : url ∉ registry.urls step) :
    (registry.step step).1.site url = registry.site url := by
  simp only [urls, List.mem_append, Option.mem_toList, not_or] at h
  obtain ⟨hnamed, hleft⟩ := h
  obtain ⟨id, target, supplied, isOnline, hid, htarget, hstep⟩ | ⟨error, hstep⟩ | ⟨id, rfl⟩ |
    ⟨target, rfl⟩ | ⟨target, index, reply, rfl⟩ := step_cases step
  · have hne : target ≠ url := by
      rintro rfl
      exact hnamed htarget
    rw [hid] at hleft
    rw [hstep, site_register_of_ne hne, site_store_of_ne hne]
    rwa [endpoint?_store]
  · rw [hstep]
  · exact site_unregister_of_ne hleft
  · exact site_startFetch_of_ne (fun heq => hnamed (congrArg some heq)) registry false
  · cases hpending : (registry.pending target)[index]? with
    | none => rw [step_of_not_pending hpending]
    | some fetch =>
      rw [step_of_pending hpending]
      refine site_complete_of_ne ?_ registry reply
      rw [url_of_pending hpending]
      exact fun heq => hnamed (congrArg some heq)

/-- A step does the same for an endpoint wherever the same is held for it and the step's instance is
on the same endpoint. -/
theorem site_step (h : registry.site url = other.site url)
    (hdefaults : registry.defaultHeaders = other.defaultHeaders) {step : Step}
    (hid : ∀ id, step.instance? = some id → registry.endpoint? id = other.endpoint? id) :
    (registry.step step).1.site url = (other.step step).1.site url := by
  obtain ⟨id, target, supplied, isOnline, hinstance, _, hstep⟩ | ⟨error, hstep⟩ | ⟨id, rfl⟩ |
    ⟨target, rfl⟩ | ⟨target, index, reply, rfl⟩ := step_cases step
  · rw [hstep, hstep]
    apply site_register (site_store h target supplied)
    · rw [defaultHeaders_store, defaultHeaders_store, hdefaults]
    · rw [endpoint?_store, endpoint?_store, hid id hinstance]
  · rw [hstep, hstep]
    exact h
  · exact site_unregister h (hid id rfl)
  -- A refresh and a delivery change no other endpoint, in neither registry.
  · by_cases heq : target = url
    · subst heq
      exact site_startFetch h hdefaults false
    · rw [site_step_of_not_mem (by simp [urls, Step.url?, Step.instance?, Ne.symm heq]), h,
        site_step_of_not_mem (by simp [urls, Step.url?, Step.instance?, Ne.symm heq])]
  · by_cases heq : target = url
    · subst heq
      have hpending : registry.pending target = other.pending target :=
        congrArg Traffic.pending (congrArg Site.traffic h)
      cases hfound : (registry.pending target)[index]? with
      | none => rw [step_of_not_pending hfound, step_of_not_pending (hpending ▸ hfound), h]
      | some fetch =>
        rw [step_of_pending hfound, step_of_pending (hpending ▸ hfound)]
        exact site_complete h (url_of_pending hfound) reply
    · rw [site_step_of_not_mem (by simp [urls, Step.url?, Step.instance?, Ne.symm heq]), h,
        site_step_of_not_mem (by simp [urls, Step.url?, Step.instance?, Ne.symm heq])]

/-- The outcome of a step depends on what is held for the endpoint that the step names. -/
theorem outcome_step {step : Step}
    (h : ∀ url, step.url? = some url → registry.site url = other.site url)
    (hdefaults : registry.defaultHeaders = other.defaultHeaders)
    (hid : ∀ id, step.instance? = some id → registry.endpoint? id = other.endpoint? id) :
    (registry.step step).2 = (other.step step).2 := by
  obtain ⟨id, target, supplied, isOnline, hinstance, htarget, hstep⟩ | ⟨error, hstep⟩ | ⟨id, rfl⟩ |
    ⟨target, rfl⟩ | ⟨target, index, reply, rfl⟩ := step_cases step
  · have hstored := site_store (h target htarget) target supplied
    have hregister := register_congr hstored
      (by rw [defaultHeaders_store, defaultHeaders_store, hdefaults])
      (by rw [endpoint?_store, endpoint?_store, hid id hinstance]) isOnline
    rw [hstep, hstep, hregister.2]
  · rw [hstep, hstep]
  · rfl
  · exact congrArg StepOutcome.refreshing (startFetch_snd_congr (h target rfl) hdefaults false)
  · have hpending : registry.pending target = other.pending target :=
      congrArg Traffic.pending (congrArg Site.traffic (h target rfl))
    cases hfound : (registry.pending target)[index]? with
    | none => rw [step_of_not_pending hfound, step_of_not_pending (hpending ▸ hfound)]
    | some fetch =>
      rw [step_of_pending hfound, step_of_pending (hpending ▸ hfound), complete_outcome,
        complete_outcome]

/-! ## Registries that are alike -/

/-- The registries hold the same, though perhaps not in the same order across endpoints. -/
structure Alike (registry other : Registry) : Prop where
  defaultHeaders : registry.defaultHeaders = other.defaultHeaders
  instances : ∀ id, registry.endpoint? id = other.endpoint? id
  schemas : ∀ url, registry.schemas.find? url = other.schemas.find? url
  headers : ∀ url, registry.headers.find? url = other.headers.find? url
  inFlight : ∀ url, url ∈ registry.inFlight ↔ url ∈ other.inFlight
  started : ∀ url, (registry.started.find? url).getD 0 = (other.started.find? url).getD 0
  outstanding : ∀ url, registry.pending url = other.pending url
  events : ∀ url, registry.eventsOf url = other.eventsOf url

theorem alike_iff : registry.Alike other ↔
    registry.defaultHeaders = other.defaultHeaders ∧ ∀ url, registry.site url = other.site url := by
  constructor
  · intro h
    refine ⟨h.defaultHeaders, fun url => site_eq_iff.2 ⟨?_, h.schemas url, h.headers url, ?_,
      h.events url⟩⟩
    · exact fun id => by rw [h.instances id]
    · have hmarked : registry.inFlight.contains url = other.inFlight.contains url := by
        rw [Bool.eq_iff_iff, List.contains_iff_mem, List.contains_iff_mem]
        exact h.inFlight url
      rw [traffic, traffic, h.outstanding url, hmarked, h.started url]
  · rintro ⟨hdefaults, hsites⟩
    have htraffic := fun url => congrArg Site.traffic (hsites url)
    refine ⟨hdefaults, ?_, fun url => congrArg Site.snapshot (hsites url),
      fun url => congrArg Site.headers (hsites url), ?_,
      fun url => congrArg Traffic.started (htraffic url),
      fun url => congrArg Traffic.pending (htraffic url),
      fun url => congrArg Site.events (hsites url)⟩
    · exact fun id => Option.ext fun url => (site_eq_iff.1 (hsites url)).1 id
    · intro url
      rw [← List.contains_iff_mem, ← List.contains_iff_mem, ← Bool.eq_iff_iff]
      exact congrArg Traffic.isMarked (htraffic url)

/-- Alike registries stay alike, and no step tells them apart. -/
theorem Alike.step (h : registry.Alike other) (step : Step) :
    (registry.step step).1.Alike (other.step step).1 ∧
      (registry.step step).2 = (other.step step).2 := by
  obtain ⟨hdefaults, hsites⟩ := alike_iff.1 h
  have hid : ∀ id, step.instance? = some id → registry.endpoint? id = other.endpoint? id :=
    fun id _ => h.instances id
  refine ⟨alike_iff.2 ⟨?_, fun url => site_step (hsites url) hdefaults hid⟩,
    outcome_step (fun url _ => hsites url) hdefaults hid⟩
  rw [defaultHeaders_step, defaultHeaders_step, hdefaults]

/-- The outcomes of the steps of a run. -/
def outcomes (registry : Registry) : List Step → List StepOutcome
  | [] => []
  | step :: later => (registry.step step).2 :: (registry.step step).1.outcomes later

theorem Alike.run (h : registry.Alike other) (steps : List Step) :
    (registry.run steps).Alike (other.run steps) ∧
      registry.outcomes steps = other.outcomes steps := by
  induction steps generalizing registry other with
  | nil => exact ⟨h, rfl⟩
  | cons step later ih =>
    obtain ⟨hafter, houtcome⟩ := h.step step
    obtain ⟨hrun, houtcomes⟩ := ih hafter
    exact ⟨hrun, by rw [outcomes, outcomes, houtcome, houtcomes]⟩

/-! ## Independent steps -/

/-- The steps are about different instances and share no endpoint. -/
structure Independent (registry : Registry) (first second : Step) : Prop where
  instances : ∀ id, first.instance? = some id → second.instance? ≠ some id
  urls : ∀ url ∈ registry.urls first, url ∉ registry.urls second

theorem Independent.symm {first second : Step} (h : registry.Independent first second) :
    registry.Independent second first where
  instances := fun id hsecond hfirst => h.instances id hfirst hsecond
  urls := fun url hsecond hfirst => h.urls url hfirst hsecond

theorem endpoint?_step_of_ne {step : Step} {id : String} (h : step.instance? ≠ some id)
    (registry : Registry) : (registry.step step).1.endpoint? id = registry.endpoint? id := by
  rw [endpoint?, instances_step, Step.endpointAfter_of_ne h, endpoint?]

/-- A step does not move the instance of an independent one. -/
theorem Independent.endpoint?_step {first second : Step} (h : registry.Independent first second)
    (id : String) (hid : second.instance? = some id) :
    (registry.step first).1.endpoint? id = registry.endpoint? id :=
  endpoint?_step_of_ne (fun hfirst => h.instances id hfirst hid) registry

theorem Independent.urls_step {first second : Step} (h : registry.Independent first second) :
    (registry.step first).1.urls second = registry.urls second := by
  rw [Registry.urls, Registry.urls]
  cases hid : second.instance? with
  | none => rfl
  | some id => rw [Option.bind_some, h.endpoint?_step id hid, Option.bind_some]

theorem Independent.outcome_step {first second : Step} (h : registry.Independent first second) :
    ((registry.step first).1.step second).2 = (registry.step second).2 := by
  apply Registry.outcome_step
  · intro url hurl
    apply site_step_of_not_mem
    intro hfirst
    exact h.urls url hfirst (by simp [Registry.urls, hurl])
  · exact defaultHeaders_step registry first
  · exact h.endpoint?_step

/-- At an endpoint that is none of the second step's, the first step does the same after the second
one as before it. -/
theorem Independent.site_step {first second : Step} (h : registry.Independent first second)
    {url : String} (hurl : url ∉ registry.urls second) :
    ((registry.step first).1.step second).1.site url =
      ((registry.step second).1.step first).1.site url := by
  rw [← h.urls_step] at hurl
  rw [site_step_of_not_mem hurl]
  rw [h.urls_step] at hurl
  exact Registry.site_step (site_step_of_not_mem hurl).symm
    (defaultHeaders_step registry second).symm fun id hid => (h.symm.endpoint?_step id hid).symm

/-- Independent steps have the same outcomes in either order, and lead to registries that hold the
same and that no later steps tell apart. -/
theorem Independent.step_comm {first second : Step} (h : registry.Independent first second) :
    ((registry.step first).1.step second).2 = (registry.step second).2 ∧
    ((registry.step second).1.step first).2 = (registry.step first).2 ∧
    ((registry.step first).1.step second).1.Alike ((registry.step second).1.step first).1 ∧
    ∀ later,
      (((registry.step first).1.step second).1.run later).Alike
          (((registry.step second).1.step first).1.run later) ∧
        ((registry.step first).1.step second).1.outcomes later =
          ((registry.step second).1.step first).1.outcomes later := by
  have halike : ((registry.step first).1.step second).1.Alike
      ((registry.step second).1.step first).1 := by
    refine alike_iff.2 ⟨by simp only [defaultHeaders_step], fun url => ?_⟩
    -- At no endpoint do both steps do anything.
    by_cases hurl : url ∈ registry.urls second
    · exact (h.symm.site_step fun hfirst => h.urls url hfirst hurl).symm
    · exact h.site_step hurl
  exact ⟨h.outcome_step, h.symm.outcome_step, halike, fun later => halike.run later⟩

/-! An instance that is alone on an endpoint with headers of its own moves to another endpoint, so
the headers go and a fetch starts. Meanwhile a fetch of a third endpoint fails. -/

namespace MoveMeetsFailure

def before : Registry :=
  (new .empty).run [.registerWithHeaders "left" "http://a.test/" "\x7b\"X-Tenant\": \"red\"\x7d",
    .register "right" "http://c.test/"]

def move : Step := .register "left" "http://b.test/"

def failure : Step := .deliver "http://c.test/" 0 (.whole 500 "boom")

theorem urls_move : before.urls move = ["http://b.test/", "http://a.test/"] := by
  decide +kernel

theorem step_comm_move :
    before.Reachable ∧ before.headers.contains "http://a.test/" = true ∧
    (before.step move).1.headers.contains "http://a.test/" = false ∧
    (before.pending "http://c.test/").length = 1 ∧
    ((before.step move).1.step failure).2 = (before.step failure).2 ∧
    ((before.step failure).1.step move).2 = (before.step move).2 ∧
    ((before.step move).1.step failure).1.Alike ((before.step failure).1.step move).1 := by
  have hindependent : before.Independent move failure := by
    refine ⟨fun _ _ => Option.some_ne_none _ ∘ Eq.symm, fun url hmove => ?_⟩
    rw [urls_move] at hmove
    obtain rfl | rfl : url = "http://b.test/" ∨ url = "http://a.test/" := by simpa using hmove
    · decide
    · decide
  obtain ⟨hfailure, hmove, halike, _⟩ := Independent.step_comm hindependent
  refine ⟨⟨_, _, rfl⟩, ?_, ?_, ?_, hfailure, hmove, halike⟩
  · decide +kernel
  · decide +kernel
  · decide +kernel

end MoveMeetsFailure

end Registry

end QueryTree
