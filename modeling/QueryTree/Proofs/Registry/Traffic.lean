import QueryTree.Proofs.Registry.Schemas

/-! # The traffic of an endpoint

A registration that starts a fetch marks its endpoint, and the end of any fetch of the endpoint
takes the mark away. So a marked endpoint always has an outstanding fetch that a registration
started, and no two outstanding fetches of an endpoint share their number. -/

namespace QueryTree

/-- The fetches of one endpoint. -/
structure Traffic where
  /-- the outstanding ones -/
  pending : List Fetch
  isMarked : Bool
  /-- how many were started -/
  started : Nat

def Registry.traffic (registry : Registry) (url : String) : Traffic :=
  ⟨registry.pending url, registry.inFlight.contains url, (registry.started.find? url).getD 0⟩

/-- The fetch of the endpoint that ended. -/
def StepOutcome.ended? (url : String) : StepOutcome → Option Fetch
  | .delivered (some (fetch, _)) => if fetch.url = url then some fetch else none
  | _ => none

namespace Traffic

/-! ## One step -/

/-- What a step with an outcome can do to the fetches of an endpoint. -/
inductive Changes (url : String) : Traffic → StepOutcome → Traffic → Prop
  | registers {before : Traffic} {fetch : Fetch} (hfree : before.isMarked = false)
    (hurl : fetch.url = url) (hkind : fetch.isRegistration = true)
    (hnumber : fetch.number = before.started) :
    Changes url before (.registered (some fetch))
      ⟨before.pending ++ [fetch], true, before.started + 1⟩
  | refreshes {before : Traffic} {fetch : Fetch} (hurl : fetch.url = url)
    (hkind : fetch.isRegistration = false) (hnumber : fetch.number = before.started) :
    Changes url before (.refreshing fetch)
      ⟨before.pending ++ [fetch], before.isMarked, before.started + 1⟩
  | ends {before : Traffic} {fetch : Fetch} (result : Except FetchError Schema)
    (h : fetch ∈ before.pending) :
    Changes url before (.delivered (some (fetch, result)))
      ⟨before.pending.filter fun other => !fetch.isSame other, false, before.started⟩
  | stays (before : Traffic) {outcome : StepOutcome} (h : outcome.ended? url = none) :
    Changes url before outcome before

end Traffic

namespace Registry

@[simp] theorem traffic_evictUnused (registry : Registry) (evicted url : String) :
    (registry.evictUnused evicted).traffic url = registry.traffic url := by
  unfold evictUnused
  split
  · rfl
  · simp only
    split <;> rfl

@[simp] theorem traffic_place (registry : Registry) (id target url : String) :
    (registry.place id target).traffic url = registry.traffic url := by
  unfold place
  simp only
  split
  · rfl
  · split
    · rfl
    · rw [traffic_evictUnused]
      rfl

@[simp] theorem traffic_unregister (registry : Registry) (id url : String) :
    (registry.unregister id).traffic url = registry.traffic url := by
  unfold unregister
  split
  · rfl
  · rw [traffic_evictUnused]
    rfl

theorem pending_startFetch (registry : Registry) (target : String) (isRegistration : Bool)
    (url : String) :
    (registry.startFetch target isRegistration).1.pending url =
      registry.pending url ++
        if target = url then [(registry.startFetch target isRegistration).2] else [] := by
  by_cases h : target = url <;> simp [startFetch, pending, List.filter_append, h]

theorem started_startFetch (registry : Registry) (target : String) (isRegistration : Bool)
    (url : String) :
    ((registry.startFetch target isRegistration).1.started.find? url).getD 0 =
      (registry.started.find? url).getD 0 + if target = url then 1 else 0 := by
  by_cases h : target = url <;> simp [startFetch, Table.find?_insert, h]

theorem traffic_startFetch (registry : Registry) (url : String) (isRegistration : Bool) :
    (registry.startFetch url isRegistration).1.traffic url =
      ⟨(registry.traffic url).pending ++ [(registry.startFetch url isRegistration).2],
        (registry.traffic url).isMarked, (registry.traffic url).started + 1⟩ := by
  rw [traffic, pending_startFetch, started_startFetch, if_pos rfl, if_pos rfl]
  rfl

theorem traffic_startFetch_of_ne {target url : String} (h : target ≠ url) (registry : Registry)
    (isRegistration : Bool) :
    (registry.startFetch target isRegistration).1.traffic url = registry.traffic url := by
  rw [traffic, pending_startFetch, started_startFetch, if_neg h, if_neg h, List.append_nil]
  rfl

theorem pending_complete (registry : Registry) (fetch : Fetch) (reply : Reply) (url : String) :
    (registry.complete fetch reply).1.pending url =
      (registry.pending url).filter fun other => !fetch.isSame other := by
  have houtstanding : (registry.complete fetch reply).1.outstanding =
      registry.outstanding.filter fun other => !fetch.isSame other := by
    unfold complete
    simp only
    split
    · rfl
    · split <;> rfl
  rw [pending, houtstanding, pending, List.filter_filter, List.filter_filter]
  exact List.filter_congr fun other _ => Bool.and_comm ..

theorem inFlight_complete (registry : Registry) (fetch : Fetch) (reply : Reply) :
    (registry.complete fetch reply).1.inFlight = registry.inFlight.filter (· ≠ fetch.url) := by
  unfold complete
  simp only
  split
  · rfl
  · split <;> rfl

theorem started_complete (registry : Registry) (fetch : Fetch) (reply : Reply) :
    (registry.complete fetch reply).1.started = registry.started := by
  unfold complete
  simp only
  split
  · rfl
  · split <;> rfl

theorem traffic_complete (registry : Registry) (fetch : Fetch) (reply : Reply) :
    (registry.complete fetch reply).1.traffic fetch.url =
      ⟨(registry.pending fetch.url).filter fun other => !fetch.isSame other, false,
        (registry.started.find? fetch.url).getD 0⟩ := by
  rw [traffic, pending_complete, inFlight_complete, started_complete]
  simp

theorem traffic_complete_of_ne {fetch : Fetch} {url : String} (h : fetch.url ≠ url)
    (registry : Registry) (reply : Reply) :
    (registry.complete fetch reply).1.traffic url = registry.traffic url := by
  have hpending : ((registry.pending url).filter fun other => !fetch.isSame other) =
      registry.pending url := by
    rw [List.filter_eq_self]
    intro other hother
    have hurl : other.url = url := by simpa using (List.mem_filter.1 hother).2
    simp [Fetch.isSame, hurl, h]
  have hmark : (registry.inFlight.filter (· ≠ fetch.url)).contains url =
      registry.inFlight.contains url := by
    rw [Bool.eq_iff_iff]
    simp [Ne.symm h]
  rw [traffic, pending_complete, inFlight_complete, started_complete, hpending, hmark]
  rfl

/-! ## Registrations -/

/-- Neither is there a schema for the endpoint nor does a registration wait for one. -/
def NeedsFetch (registry : Registry) (url : String) : Prop :=
  registry.schemas.find? url = none ∧ url ∉ registry.inFlight

def mark (registry : Registry) (url : String) : Registry :=
  { registry with inFlight := registry.inFlight ++ [url] }

theorem needsFetch_place {registry : Registry} (htidy : registry.Tidy) {url : String}
    (h : registry.NeedsFetch url) (id : String) : (registry.place id url).NeedsFetch url := by
  obtain ⟨hschema, hfree⟩ := h
  have hmark : (registry.place id url).inFlight.contains url = registry.inFlight.contains url :=
    congrArg Traffic.isMarked (traffic_place registry id url url)
  -- The endpoint that the instance leaves may lose its schema, but none gets one.
  constructor
  · rw [find?_schemas_place htidy, hschema, ite_self]
  · simpa [hfree] using hmark

theorem traffic_mark (registry : Registry) (url : String) :
    (registry.mark url).traffic url =
      ⟨(registry.traffic url).pending, true, (registry.traffic url).started⟩ := by
  have hmark : (registry.inFlight ++ [url]).contains url = true := by simp
  rw [traffic, mark, hmark]
  rfl

theorem traffic_mark_of_ne {marked url : String} (h : marked ≠ url) (registry : Registry) :
    (registry.mark marked).traffic url = registry.traffic url := by
  have hmark : (registry.inFlight ++ [marked]).contains url = registry.inFlight.contains url := by
    rw [Bool.eq_iff_iff]
    simp [Ne.symm h]
  rw [traffic, mark, hmark]
  rfl

/-- A registration starts a fetch exactly if one is needed and the registry is online. -/
theorem register_cases (registry : Registry) (id url : String) (isOnline : Bool) :
    (isOnline = true ∧ (registry.place id url).NeedsFetch url ∧
      registry.register id url isOnline =
        ((((registry.place id url).mark url).startFetch url true).1,
          some (((registry.place id url).mark url).startFetch url true).2)) ∨
    ((isOnline = true → ¬ (registry.place id url).NeedsFetch url) ∧
      registry.register id url isOnline = (registry.place id url, none)) := by
  unfold register NeedsFetch mark
  simp only
  split
  · next hneedless =>
    right
    refine ⟨?_, rfl⟩
    rintro honline ⟨hschema, hfree⟩
    simp [honline, Table.contains, hschema, hfree] at hneedless
  · next hneeded =>
    left
    simp only [Bool.or_eq_true, not_or, Bool.not_eq_true, Bool.not_eq_false', Table.contains,
      Option.isSome_eq_false_iff, Option.isNone_iff_eq_none] at hneeded
    obtain ⟨⟨hschema, hfree⟩, honline⟩ := hneeded
    exact ⟨honline, ⟨hschema, by simpa using hfree⟩, rfl⟩

/-- A registration that needs a fetch starts one, whatever is outstanding. -/
theorem register_of_needsFetch {registry : Registry} (htidy : registry.Tidy) {url : String}
    (h : registry.NeedsFetch url) (id : String) :
    ∃ fetch, (registry.register id url true).2 = some fetch ∧ fetch.url = url ∧
      fetch.isRegistration = true ∧
      (registry.register id url true).1.pending url = registry.pending url ++ [fetch] ∧
      (registry.register id url true).1.schemas.find? url = none := by
  obtain ⟨_, ⟨hschema, _⟩, hregister⟩ | ⟨hneedless, _⟩ := register_cases registry id url true
  · have hplaced := congrArg Traffic.pending (traffic_place registry id url url)
    have hmarked := congrArg Traffic.pending (traffic_mark (registry.place id url) url)
    have hpending := hmarked.trans hplaced
    rw [hregister]
    refine ⟨_, rfl, rfl, rfl, ?_, hschema⟩
    rw [pending_startFetch, if_pos rfl]
    exact congrArg (· ++ _) hpending
  · exact absurd (needsFetch_place htidy h id) (hneedless rfl)

theorem changes_register (registry : Registry) (id target : String) (isOnline : Bool)
    (url : String) :
    Traffic.Changes url (registry.traffic url)
      (.registered (registry.register id target isOnline).2)
      ((registry.register id target isOnline).1.traffic url) := by
  obtain ⟨_, ⟨_, hfree⟩, hregister⟩ | ⟨_, hregister⟩ :=
    register_cases registry id target isOnline
  · rw [hregister, ← traffic_place registry id target url]
    by_cases htarget : target = url
    · subst htarget
      rw [traffic_startFetch, traffic_mark]
      exact .registers (by simpa [traffic] using hfree) rfl rfl rfl
    · rw [traffic_startFetch_of_ne htarget, traffic_mark_of_ne htarget]
      exact .stays _ rfl
  · rw [hregister, traffic_place]
    exact .stays _ rfl

/-! ## Any step -/

theorem changes_step (registry : Registry) (step : Step) (url : String) :
    Traffic.Changes url (registry.traffic url) (registry.step step).2
      ((registry.step step).1.traffic url) := by
  have heffect := effect_step registry step
  generalize registry.step step = result at heffect ⊢
  cases heffect with
  | registers headers h =>
    exact changes_register { registry with headers := headers } _ _ _ url
  | rejects error h => exact .stays _ rfl
  | unregisters id =>
    rw [traffic_unregister]
    exact .stays _ rfl
  | refreshes target =>
    by_cases htarget : target = url
    · subst htarget
      rw [traffic_startFetch]
      exact .refreshes rfl rfl rfl
    · rw [traffic_startFetch_of_ne htarget]
      exact .stays _ rfl
  | misses target index reply => exact .stays _ rfl
  | @ends target index reply fetch hpending =>
    obtain rfl := url_of_pending hpending
    by_cases htarget : fetch.url = url
    · subst htarget
      rw [traffic_complete]
      exact .ends _ (List.mem_of_getElem? hpending)
    · rw [traffic_complete_of_ne htarget]
      exact .stays _ (by simp [StepOutcome.ended?, htarget])

end Registry

/-! ## What always holds -/

namespace Traffic

/-- What holds of the traffic of an endpoint at all times. -/
structure Sound (url : String) (traffic : Traffic) : Prop where
  urls : ∀ fetch ∈ traffic.pending, fetch.url = url
  numbers : (traffic.pending.map Fetch.number).Nodup
  numbers_lt : ∀ fetch ∈ traffic.pending, fetch.number < traffic.started
  marked : traffic.isMarked = true → ∃ fetch ∈ traffic.pending, fetch.isRegistration = true

theorem Sound.append {url : String} {before : Traffic} (h : before.Sound url) {fetch : Fetch}
    (hurl : fetch.url = url) (hnumber : fetch.number = before.started) (isMarked : Bool)
    (hmarked : isMarked = true → before.isMarked = true ∨ fetch.isRegistration = true) :
    Sound url ⟨before.pending ++ [fetch], isMarked, before.started + 1⟩ where
  urls := by
    intro other hother
    rw [List.mem_append, List.mem_singleton] at hother
    rcases hother with hother | rfl
    · exact h.urls other hother
    · exact hurl
  numbers := by
    rw [List.map_append, List.nodup_append]
    refine ⟨h.numbers, by simp, ?_⟩
    intro number hold other hnew
    obtain ⟨old, hmem, rfl⟩ := List.mem_map.1 hold
    -- The new number is larger than all outstanding ones.
    have hlt := h.numbers_lt old hmem
    simp only [List.map_cons, List.map_nil, List.mem_singleton] at hnew
    omega
  numbers_lt := by
    intro other hother
    rw [List.mem_append, List.mem_singleton] at hother
    rcases hother with hother | rfl
    · have hlt := h.numbers_lt other hother
      exact Nat.lt_succ_of_lt hlt
    · rw [hnumber]
      exact Nat.lt_succ_self _
  marked := by
    intro hmark
    rcases hmarked hmark with hbefore | hkind
    · obtain ⟨other, hother, hregistration⟩ := h.marked hbefore
      exact ⟨other, List.mem_append_left _ hother, hregistration⟩
    · exact ⟨fetch, by simp, hkind⟩

theorem Sound.changes {url : String} {before after : Traffic} {outcome : StepOutcome}
    (h : before.Sound url) (hchanges : Changes url before outcome after) : after.Sound url := by
  cases hchanges with
  | registers hfree hurl hkind hnumber => exact h.append hurl hnumber true fun _ => Or.inr hkind
  | refreshes hurl hkind hnumber => exact h.append hurl hnumber _ Or.inl
  | @ends fetch result hfetch =>
    refine ⟨?_, ?_, ?_, ?_⟩
    · exact fun other hother => h.urls other (List.mem_filter.1 hother).1
    · exact h.numbers.sublist (List.filter_sublist.map _)
    · exact fun other hother => h.numbers_lt other (List.mem_filter.1 hother).1
    · exact fun hmark => absurd hmark Bool.false_ne_true
  | stays => exact h

/-- The end of a fetch removes just that fetch. -/
theorem Sound.exists_split {url : String} {traffic : Traffic} (h : traffic.Sound url)
    {fetch : Fetch} (hfetch : fetch ∈ traffic.pending) :
    ∃ earlier later, traffic.pending = earlier ++ fetch :: later ∧
      (traffic.pending.filter fun other => !fetch.isSame other) = earlier ++ later := by
  obtain ⟨earlier, later, hsplit⟩ := List.append_of_mem hfetch
  have hnumbers := h.numbers
  rw [hsplit, List.map_append, List.map_cons, List.nodup_append, List.nodup_cons] at hnumbers
  obtain ⟨_, ⟨hlater, _⟩, hearlier⟩ := hnumbers
  -- No other fetch has its number.
  have hother : ∀ other ∈ earlier ++ later, (!fetch.isSame other) = true := by
    intro other hmem
    have hne : fetch.number ≠ other.number := by
      rcases List.mem_append.1 hmem with hmem | hmem
      · exact Ne.symm (hearlier _ (List.mem_map_of_mem hmem) _ List.mem_cons_self)
      · intro heq
        exact hlater (heq ▸ List.mem_map_of_mem hmem)
    simp [Fetch.isSame, hne]
  refine ⟨earlier, later, hsplit, ?_⟩
  rw [hsplit, List.filter_append, List.filter_cons_of_neg (by simp [Fetch.isSame]),
    ← List.filter_append, List.filter_eq_self.2 hother]

theorem sound_run (headers : Headers) (steps : List Step) (url : String) :
    (((Registry.new headers).run steps).traffic url).Sound url := by
  induction steps using List.reverseRecOn with
  | nil =>
    have hempty : ((Registry.new headers).run []).traffic url = ⟨[], false, 0⟩ := rfl
    rw [hempty]
    exact ⟨by simp, by simp, by simp, by simp⟩
  | append_singleton steps step ih =>
    rw [Registry.run_snoc]
    exact ih.changes (Registry.changes_step _ step url)

/-- A mark never outlives the fetches of its endpoint. -/
theorem pending_ne_nil_of_marked {url : String} {traffic : Traffic} (h : traffic.Sound url)
    (hmark : traffic.isMarked = true) : traffic.pending ≠ [] := by
  obtain ⟨fetch, hfetch, _⟩ := h.marked hmark
  exact List.ne_nil_of_mem hfetch

end Traffic

end QueryTree
