import QueryTree.Proofs.Registry.Supply
import QueryTree.Proofs.Registry.Traffic

/-! # What requests carry

A request holds the headers of the time when it starts: the ones that registrations have supplied
for its endpoint, then name by name the defaults, and then the standard ones. -/

namespace QueryTree

def StepOutcome.started? : StepOutcome → Option Fetch
  | .registered fetch => fetch
  | .refreshing fetch => some fetch
  | .nothing | .rejected _ | .delivered _ => none

namespace Registry

/-! ## The fetches that start -/

@[simp] theorem defaultHeaders_evictUnused (registry : Registry) (url : String) :
    (registry.evictUnused url).defaultHeaders = registry.defaultHeaders := by
  unfold evictUnused
  split
  · rfl
  · simp only
    split <;> rfl

@[simp] theorem defaultHeaders_place (registry : Registry) (id url : String) :
    (registry.place id url).defaultHeaders = registry.defaultHeaders := by
  unfold place
  simp only
  split
  · rfl
  · split
    · rfl
    · rw [defaultHeaders_evictUnused]

theorem defaultHeaders_register (registry : Registry) (id url : String) (isOnline : Bool) :
    (registry.register id url isOnline).1.defaultHeaders = registry.defaultHeaders := by
  unfold register
  simp only
  split
  · exact defaultHeaders_place registry id url
  · exact defaultHeaders_place registry id url

theorem defaultHeaders_unregister (registry : Registry) (id : String) :
    (registry.unregister id).defaultHeaders = registry.defaultHeaders := by
  unfold unregister
  split
  · rfl
  · rw [defaultHeaders_evictUnused]

theorem defaultHeaders_complete (registry : Registry) (fetch : Fetch) (reply : Reply) :
    (registry.complete fetch reply).1.defaultHeaders = registry.defaultHeaders := by
  unfold complete
  simp only
  split
  · rfl
  · split <;> rfl

theorem defaultHeaders_run (defaults : Headers) (steps : List Step) :
    ((new defaults).run steps).defaultHeaders = defaults := by
  induction steps using List.reverseRecOn with
  | nil => rfl
  | append_singleton steps step ih =>
    rw [run_snoc]
    generalize (new defaults).run steps = registry at ih ⊢
    have heffect := effect_step registry step
    generalize registry.step step = result at heffect ⊢
    rw [← ih]
    cases heffect with
    | registers headers h => exact defaultHeaders_register ..
    | unregisters id => exact defaultHeaders_unregister ..
    | ends reply h => exact defaultHeaders_complete ..
    | rejects | refreshes | misses => rfl

theorem started_step {registry : Registry} {step : Step} {fetch : Fetch}
    (h : (registry.step step).2.started? = some fetch) :
    fetch.request = Request.ofUrl fetch.url ((registry.step step).1.headersFor fetch.url) := by
  have heffect := effect_step registry step
  generalize registry.step step = result at heffect h ⊢
  cases heffect with
  | @registers _ headers id url isOnline =>
    obtain ⟨_, _, hregister⟩ | ⟨_, hregister⟩ :=
      register_cases { registry with headers := headers } id url isOnline
    · rw [hregister] at h ⊢
      cases h
      rfl
    · rw [hregister] at h
      cases h
  | refreshes url =>
    cases h
    rfl
  | rejects | unregisters | misses | ends => cases h

theorem mem_pending_step {registry : Registry} {step : Step} {url : String} {fetch : Fetch}
    (h : fetch ∈ (registry.step step).1.pending url) :
    fetch ∈ registry.pending url ∨ (registry.step step).2.started? = some fetch := by
  have hchanges := changes_step registry step url
  have hbefore : registry.pending url = (registry.traffic url).pending := rfl
  have hafter : (registry.step step).1.pending url =
      ((registry.step step).1.traffic url).pending := rfl
  rw [hafter] at h
  rw [hbefore]
  generalize registry.traffic url = before at hchanges ⊢
  generalize (registry.step step).1.traffic url = after at hchanges h
  generalize (registry.step step).2 = outcome at hchanges ⊢
  cases hchanges with
  | registers | refreshes =>
    rw [List.mem_append, List.mem_singleton] at h
    exact h.imp_right fun heq => by rw [heq]; rfl
  | ends result hended => exact Or.inl (List.mem_filter.1 h).1
  | stays => exact Or.inl h

end Registry

namespace History

/-- The fetch starts in the step at the position. -/
def Starts (defaults : Headers) (fetch : Fetch) : List Step → Nat → Prop :=
  Occurs fun before step =>
    (((Registry.new defaults).run before).step step).2.started? = some fetch

variable {defaults : Headers} {steps : List Step} {fetch : Fetch} {position : Nat}

theorem exists_starts_of_pending {url : String}
    (h : fetch ∈ ((Registry.new defaults).run steps).pending url) :
    ∃ position, Starts defaults fetch steps position := by
  induction steps using List.reverseRecOn with
  | nil => cases h
  | append_singleton steps step ih =>
    rw [Registry.run_snoc] at h
    rcases Registry.mem_pending_step h with hbefore | hstarted
    · obtain ⟨position, hstarts⟩ := ih hbefore
      exact ⟨position, (occurs_snoc _).2 (Or.inl hstarts)⟩
    · exact ⟨steps.length, (occurs_snoc _).2 (Or.inr ⟨rfl, hstarted⟩)⟩

/-- A request is for the headers that its endpoint has right after the step. -/
theorem Starts.request_eq (h : Starts defaults fetch steps position) :
    fetch.request = Request.ofUrl fetch.url
      (((Registry.new defaults).run (steps.take (position + 1))).headersFor fetch.url) := by
  obtain ⟨step, hstep, hstarted⟩ := h
  have htake : steps.take (position + 1) = steps.take position ++ [step] := by
    rw [List.take_add_one, hstep]
    rfl
  rw [htake, Registry.run_snoc]
  exact Registry.started_step hstarted

end History

/-! ## What a request carries -/

namespace Registry

/-- What a request to the endpoint carries after the steps: the headers that were supplied last,
name by name before the defaults, these before the standard ones, and no others. -/
structure Carries (defaults : Headers) (steps : List Step) (url : String) (request : Request) :
    Prop where
  supplied : ∀ supplied, History.LatestSupplied steps url supplied → ∀ name,
    request.headers.value? name =
      (supplied.value? name).or ((defaults.value? name).or (Request.standard? url name))
  unsupplied : (∀ position supplied, ¬ History.Supplied steps url position supplied) → ∀ name,
    request.headers.value? name = (defaults.value? name).or (Request.standard? url name)
  folded : request.headers.IsFolded

theorem headersFor_of_latestSupplied (defaults : Headers) {steps : List Step} {url : String}
    {supplied : Headers} (h : History.LatestSupplied steps url supplied) :
    ((new defaults).run steps).headersFor url = defaults.overriddenBy supplied := by
  rw [headersFor, defaultHeaders_run, (headers_run_eq_some_iff ..).2 h, Option.getD_some]

theorem headersFor_of_not_supplied (defaults : Headers) {steps : List Step} {url : String}
    (h : ∀ position supplied, ¬ History.Supplied steps url position supplied) :
    ((new defaults).run steps).headersFor url = defaults.overriddenBy .empty := by
  rw [headersFor, defaultHeaders_run, (headers_run_eq_none_iff ..).2 h, Option.getD_none]

theorem isFolded_headersFor {defaults : Headers} (hdefaults : defaults.IsFolded)
    (steps : List Step) (url : String) :
    (((new defaults).run steps).headersFor url).IsFolded := by
  rw [headersFor, defaultHeaders_run]
  apply hdefaults.overriddenBy
  cases hfound : ((new defaults).run steps).headers.find? url with
  | none => exact Headers.isFolded_empty
  | some supplied =>
    obtain ⟨position, hsupplied, _⟩ := (headers_run_eq_some_iff ..).1 hfound
    obtain ⟨step, _, hregistered⟩ := hsupplied.registered
    exact Step.isFolded_of_headersFor? hregistered

theorem carries_of_ofUrl {defaults : Headers} (hdefaults : defaults.IsFolded)
    {steps : List Step} {url : String} {request : Request}
    (h : Request.ofUrl url (((new defaults).run steps).headersFor url) = .ok request) :
    Carries defaults steps url request := by
  have hheaders := Request.headers_of_ofUrl h
  refine ⟨?_, ?_, ?_⟩
  · intro supplied hlatest name
    rw [hheaders, headersFor_of_latestSupplied defaults hlatest, Headers.value?_overriddenBy,
      Headers.value?_overriddenBy, Request.value?_standardHeaders, Option.or_assoc]
  · intro hnone name
    rw [hheaders, headersFor_of_not_supplied defaults hnone, Headers.value?_overriddenBy,
      Headers.value?_overriddenBy, Headers.value?_empty, Request.value?_standardHeaders,
      Option.none_or]
  · rw [hheaders]
    exact (Request.isFolded_standardHeaders _).overriddenBy (isFolded_headersFor hdefaults _ _)

/-- Two requests to one endpoint are the same when the same headers were supplied last for it,
whatever else has happened before them. -/
theorem request_eq_of_latestSupplied {defaults : Headers} {steps others : List Step}
    {fetch other : Fetch} {position place : Nat}
    (hstarts : History.Starts defaults fetch steps position)
    (hother : History.Starts defaults other others place) (hurl : fetch.url = other.url)
    (h : ∀ supplied, History.LatestSupplied (steps.take (position + 1)) fetch.url supplied ↔
      History.LatestSupplied (others.take (place + 1)) fetch.url supplied) :
    fetch.request = other.request := by
  have hheaders : ((new defaults).run (steps.take (position + 1))).headers.find? fetch.url =
      ((new defaults).run (others.take (place + 1))).headers.find? fetch.url := by
    ext supplied
    rw [headers_run_eq_some_iff, headers_run_eq_some_iff, h]
  rw [hstarts.request_eq, hother.request_eq, ← hurl, headersFor, headersFor, defaultHeaders_run,
    defaultHeaders_run, hheaders]

/-- The headers of every request are those that the registrations of its endpoint have supplied,
before the defaults and the standard ones. What was supplied for other endpoints, what came with a
rejected registration, before the endpoint was last without instances or after the request has
started changes nothing. -/
theorem requests_follow_registrations {defaults : Headers} (hdefaults : defaults.IsFolded)
    (steps : List Step) :
    -- whatever starts a fetch, and be it a task that was left for later
    (∀ url isRegistration request,
      (((new defaults).run steps).startFetch url isRegistration).2.request = .ok request →
        Carries defaults steps url request) ∧
    (∀ fetch position request, History.Starts defaults fetch steps position →
      fetch.request = .ok request →
        Carries defaults (steps.take (position + 1)) fetch.url request) ∧
    -- the outstanding requests are the ones that started
    (∀ url, ∀ fetch ∈ ((new defaults).run steps).pending url,
      fetch.url = url ∧ ∃ position, History.Starts defaults fetch steps position) ∧
    (∀ others fetch other position place, History.Starts defaults fetch steps position →
      History.Starts defaults other others place → fetch.url = other.url →
      (∀ supplied, History.LatestSupplied (steps.take (position + 1)) fetch.url supplied ↔
        History.LatestSupplied (others.take (place + 1)) fetch.url supplied) →
      fetch.request = other.request) ∧
    (∀ url step, step.headersFor? url = none → History.HasInstance (steps ++ [step]) url →
      ∀ supplied, History.LatestSupplied (steps ++ [step]) url supplied ↔
        History.LatestSupplied steps url supplied) ∧
    (∀ url, ¬ History.HasInstance steps url →
      ∀ position supplied, ¬ History.Supplied steps url position supplied) := by
  refine ⟨?_, ?_, ?_, ?_, ?_, ?_⟩
  · intro url isRegistration request hsent
    exact carries_of_ofUrl hdefaults hsent
  · intro fetch position request hstarts hsent
    exact carries_of_ofUrl hdefaults (hstarts.request_eq.symm.trans hsent)
  · intro url fetch hpending
    have hurl := (List.mem_filter.1 hpending).2
    exact ⟨by simpa using hurl, History.exists_starts_of_pending hpending⟩
  · intro others fetch other position place hstarts hother hurl h
    exact request_eq_of_latestSupplied hstarts hother hurl h
  · intro url step hnone hend supplied
    rw [History.latestSupplied_snoc, hnone]
    simp [hend]
  · intro url hunused position supplied h
    exact hunused h.hasInstance

/-! ### Two endpoints -/

namespace Tenants

def defaults : Headers := .ofList [("x-tenant", "blue")]

/-- Headers come with an instance of the first endpoint, and none with the one of the second. -/
def steps : List Step :=
  [.registerWithHeadersOffline "first" "http://[::1]/" "\x7b\"X-Tenant\": \"red\"\x7d",
    .registerOffline "second" "http://[::2]/", .refresh "http://[::1]/", .refresh "http://[::2]/"]

theorem isFolded_defaults : defaults.IsFolded := by
  intro key value h
  have hmem := Table.mem_of_find?_ofList h
  rw [List.mem_singleton, Prod.mk.injEq] at hmem
  exact ⟨key, by rw [hmem.1]; decide⟩

theorem exists_latestSupplied : ∃ supplied,
    History.LatestSupplied (steps.take 3) "http://[::1]/" supplied ∧
      supplied.value? "X-TENANT" = some "red" := by
  have hvalue : (((new defaults).run (steps.take 3)).headers.find? "http://[::1]/").bind
      (Headers.value? · "X-TENANT") = some "red" := by decide +kernel
  rw [Option.bind_eq_some_iff] at hvalue
  obtain ⟨supplied, hfound, hred⟩ := hvalue
  exact ⟨supplied, (headers_run_eq_some_iff ..).1 hfound, hred⟩

theorem not_supplied (position : Nat) (supplied : Headers) :
    ¬ History.Supplied (steps.take 4) "http://[::2]/" position supplied := by
  have hnone : (((new defaults).run (steps.take 4)).headers.find? "http://[::2]/").isNone = true :=
    by decide +kernel
  exact (headers_run_eq_none_iff ..).1 (Option.isNone_iff_eq_none.1 hnone) position supplied

def refreshed (position : Nat) (url : String) : Fetch :=
  (((new defaults).run (steps.take position)).refresh url).2

theorem exists_request {fetch : Fetch} (h : fetch.request.isOk = true) :
    ∃ request, fetch.request = .ok request := by
  cases hrequest : fetch.request with
  | error error => simp [hrequest, Except.isOk, Except.toBool] at h
  | ok request => exact ⟨request, rfl⟩

theorem requests_follow_registrations_refreshed :
    defaults.IsFolded ∧
    (∃ fetch request, History.Starts defaults fetch steps 2 ∧ fetch.request = .ok request ∧
      request.headers.value? "X-TENANT" = some "red") ∧
    ∃ fetch request, History.Starts defaults fetch steps 3 ∧ fetch.request = .ok request ∧
      request.headers.value? "X-TENANT" = some "blue" := by
  obtain ⟨_, hcarries, _⟩ := requests_follow_registrations isFolded_defaults steps
  refine ⟨isFolded_defaults, ?_, ?_⟩
  · have hstarts : History.Starts defaults (refreshed 2 "http://[::1]/") steps 2 := ⟨_, rfl, rfl⟩
    obtain ⟨request, hsent⟩ :=
      @exists_request (refreshed 2 "http://[::1]/") (by decide +kernel)
    obtain ⟨supplied, hlatest, hred⟩ := exists_latestSupplied
    have hvalue := (hcarries _ 2 request hstarts hsent).supplied supplied hlatest "X-TENANT"
    rw [hred, Option.some_or] at hvalue
    exact ⟨_, request, hstarts, hsent, hvalue⟩
  · have hstarts : History.Starts defaults (refreshed 3 "http://[::2]/") steps 3 := ⟨_, rfl, rfl⟩
    obtain ⟨request, hsent⟩ :=
      @exists_request (refreshed 3 "http://[::2]/") (by decide +kernel)
    have hblue : defaults.value? "X-TENANT" = some "blue" := by decide
    have hvalue := (hcarries _ 3 request hstarts hsent).unsupplied not_supplied "X-TENANT"
    rw [hblue, Option.some_or] at hvalue
    exact ⟨_, request, hstarts, hsent, hvalue⟩

end Tenants

end Registry

end QueryTree
