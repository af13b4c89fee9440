import QueryTree.Proofs.Registry.Carried
import QueryTree.Proofs.Registry.Mirror

/-! # One endpoint at a time

All that the registry holds can be divided by endpoints. A step reads and changes only what is held
for the endpoint that it names and for the one that its instance is on, so that it does the same in
two registries that hold the same for these. -/

namespace QueryTree

def Event.url : Event → String
  | .updated url | .refreshFailed url _ | .evicted url => url

/-- What is held for one endpoint. -/
structure Site where
  /-- the instances on it -/
  holds : String → Prop
  snapshot : Option Snapshot
  headers : Option Headers
  traffic : Traffic
  /-- what was told of it, oldest first -/
  events : List Event

namespace Registry

/-- What was told of an endpoint, oldest first. -/
def eventsOf (registry : Registry) (url : String) : List Event :=
  registry.events.filter fun event => event.url == url

def site (registry : Registry) (url : String) : Site where
  holds := fun id => registry.endpoint? id = some url
  snapshot := registry.schemas.find? url
  headers := registry.headers.find? url
  traffic := registry.traffic url
  events := registry.eventsOf url

variable {registry other : Registry} {url : String}

theorem site_eq_iff : registry.site url = other.site url ↔
    (∀ id, registry.endpoint? id = some url ↔ other.endpoint? id = some url) ∧
      registry.schemas.find? url = other.schemas.find? url ∧
      registry.headers.find? url = other.headers.find? url ∧
      registry.traffic url = other.traffic url ∧ registry.eventsOf url = other.eventsOf url := by
  simp [site, funext_iff]

theorem isUsed_of_site (h : registry.site url = other.site url) :
    registry.isUsed url = other.isUsed url := by
  rw [Bool.eq_iff_iff, isUsed_iff, isUsed_iff]
  exact exists_congr (site_eq_iff.1 h).1

/-! ## Evictions -/

theorem site_evictUnused_of_ne {evicted : String} (h : evicted ≠ url) (registry : Registry) :
    (registry.evictUnused evicted).site url = registry.site url := by
  have hschemas := Table.find?_erase_of_ne h.symm registry.schemas
  have hheaders := Table.find?_erase_of_ne h.symm registry.headers
  unfold evictUnused
  split
  · rfl
  · simp only
    split
    · rw [site_eq_iff]
      exact ⟨fun _ => Iff.rfl, hschemas, hheaders, rfl, by simp [eventsOf, emit, Event.url, h]⟩
    · rw [site_eq_iff]
      exact ⟨fun _ => Iff.rfl, hschemas, hheaders, rfl, rfl⟩

/-- An endpoint without instances loses its schema and its headers. -/
theorem site_evictUnused_self (registry : Registry) (url : String) :
    (registry.evictUnused url).site url =
      if registry.isUsed url then registry.site url
      else
        { registry.site url with
          snapshot := none
          headers := none
          events := registry.eventsOf url ++
            if registry.schemas.contains url then [.evicted url] else [] } := by
  unfold evictUnused
  split
  · rfl
  · have hschemas := registry.schemas.find?_erase_self url
    have hheaders := registry.headers.find?_erase_self url
    by_cases hkept : registry.schemas.contains url = true
    · simp only [if_pos hkept]
      refine (Site.mk.injEq ..).mpr ⟨rfl, hschemas, hheaders, rfl, ?_⟩
      simp [eventsOf, emit, Event.url]
    · simp only [if_neg hkept, List.append_nil]
      exact (Site.mk.injEq ..).mpr ⟨rfl, hschemas, hheaders, rfl, rfl⟩

theorem site_evictUnused (h : registry.site url = other.site url) (evicted : String) :
    (registry.evictUnused evicted).site url = (other.evictUnused evicted).site url := by
  by_cases heq : evicted = url
  · subst heq
    obtain ⟨_, hsnapshot, _, _, hevents⟩ := site_eq_iff.1 h
    rw [site_evictUnused_self, site_evictUnused_self, isUsed_of_site h, h, Table.contains,
      hsnapshot, hevents, ← Table.contains]
  · rw [site_evictUnused_of_ne heq, site_evictUnused_of_ne heq, h]

/-! ## Placing and removing instances -/

/-- Only the instances on an endpoint change with the instances. -/
theorem site_with_instances (h : registry.site url = other.site url) {instances others : Table String}
    (hinstances : ∀ id, instances.find? id = some url ↔ others.find? id = some url) :
    site { registry with instances := instances } url =
      site { other with instances := others } url :=
  site_eq_iff.2 ⟨hinstances, (site_eq_iff.1 h).2⟩

theorem site_place_of_ne {id target : String} (htarget : target ≠ url)
    (hleft : registry.endpoint? id ≠ some url) :
    (registry.place id target).site url = registry.site url := by
  have hplaced : site { registry with instances := registry.instances.insert id target } url =
      registry.site url := by
    refine site_eq_iff.2 ⟨fun holder => ?_, rfl, rfl, rfl, rfl⟩
    change (registry.instances.insert id target).find? holder = some url ↔
      registry.endpoint? holder = some url
    rw [Table.find?_insert]
    split
    · next heq =>
      subst heq
      simpa [htarget, endpoint?] using hleft
    · rfl
  unfold place
  simp only
  split
  · exact hplaced
  · next previous hprevious =>
    split
    · exact hplaced
    · -- Only the endpoint that the instance has left can be evicted.
      rw [site_evictUnused_of_ne, hplaced]
      rintro rfl
      exact hleft hprevious

theorem site_place (h : registry.site url = other.site url) {id : String}
    (hid : registry.endpoint? id = other.endpoint? id) (target : String) :
    (registry.place id target).site url = (other.place id target).site url := by
  have hplaced : site { registry with instances := registry.instances.insert id target } url =
      site { other with instances := other.instances.insert id target } url := by
    apply site_with_instances h
    intro holder
    rw [Table.find?_insert, Table.find?_insert]
    split
    · rfl
    · exact (site_eq_iff.1 h).1 holder
  unfold place
  simp only
  rw [show registry.instances.find? id = other.instances.find? id from hid]
  split
  · exact hplaced
  · split
    · exact hplaced
    · exact site_evictUnused hplaced _

theorem site_unregister_of_ne {id : String} (hleft : registry.endpoint? id ≠ some url) :
    (registry.unregister id).site url = registry.site url := by
  unfold unregister
  split
  · rfl
  · next previous hprevious =>
    have hne : previous ≠ url := by
      rintro rfl
      exact hleft hprevious
    rw [site_evictUnused_of_ne hne]
    refine site_eq_iff.2 ⟨fun holder => ?_, rfl, rfl, rfl, rfl⟩
    change (registry.instances.erase id).find? holder = some url ↔
      registry.endpoint? holder = some url
    rw [Table.find?_erase]
    split
    · next heq =>
      subst heq
      simpa [endpoint?] using hleft
    · rfl

theorem site_unregister (h : registry.site url = other.site url) {id : String}
    (hid : registry.endpoint? id = other.endpoint? id) :
    (registry.unregister id).site url = (other.unregister id).site url := by
  unfold unregister
  rw [show registry.instances.find? id = other.instances.find? id from hid]
  split
  · exact h
  · apply site_evictUnused
    apply site_with_instances h
    intro holder
    rw [Table.find?_erase, Table.find?_erase]
    split
    · rfl
    · exact (site_eq_iff.1 h).1 holder

/-! ## Fetches -/

theorem site_startFetch_of_ne {target : String} (h : target ≠ url) (registry : Registry)
    (isRegistration : Bool) :
    (registry.startFetch target isRegistration).1.site url = registry.site url :=
  site_eq_iff.2 ⟨fun _ => Iff.rfl, rfl, rfl, traffic_startFetch_of_ne h registry isRegistration, rfl⟩

/-- A fetch depends on what is held for its endpoint and on the default headers. -/
theorem startFetch_snd_congr (h : registry.site url = other.site url)
    (hdefaults : registry.defaultHeaders = other.defaultHeaders) (isRegistration : Bool) :
    (registry.startFetch url isRegistration).2 = (other.startFetch url isRegistration).2 := by
  obtain ⟨_, _, hheaders, htraffic, _⟩ := site_eq_iff.1 h
  have hstarted := congrArg Traffic.started htraffic
  simp only [traffic] at hstarted
  simp only [startFetch, headersFor, hstarted, hheaders, hdefaults]

theorem site_startFetch (h : registry.site url = other.site url)
    (hdefaults : registry.defaultHeaders = other.defaultHeaders) (isRegistration : Bool) :
    (registry.startFetch url isRegistration).1.site url =
      (other.startFetch url isRegistration).1.site url := by
  obtain ⟨hholds, hsnapshot, hheaders, htraffic, hevents⟩ := site_eq_iff.1 h
  rw [site_eq_iff]
  refine ⟨hholds, hsnapshot, hheaders, ?_, hevents⟩
  rw [traffic_startFetch, traffic_startFetch, htraffic, startFetch_snd_congr h hdefaults]

theorem site_mark_of_ne {marked : String} (h : marked ≠ url) (registry : Registry) :
    (registry.mark marked).site url = registry.site url :=
  site_eq_iff.2 ⟨fun _ => Iff.rfl, rfl, rfl, traffic_mark_of_ne h registry, rfl⟩

theorem site_mark (h : registry.site url = other.site url) :
    (registry.mark url).site url = (other.mark url).site url := by
  obtain ⟨hholds, hsnapshot, hheaders, htraffic, hevents⟩ := site_eq_iff.1 h
  rw [site_eq_iff]
  refine ⟨hholds, hsnapshot, hheaders, ?_, hevents⟩
  rw [traffic_mark, traffic_mark, htraffic]

theorem site_complete_of_ne {fetch : Fetch} (h : fetch.url ≠ url) (registry : Registry)
    (reply : Reply) : (registry.complete fetch reply).1.site url = registry.site url := by
  have htraffic := traffic_complete_of_ne h registry reply
  rw [site_eq_iff]
  refine ⟨fun id => ?_, ?_, ?_, htraffic, ?_⟩
  · rw [endpoint?, instances_complete, endpoint?]
  · unfold complete
    simp only
    split
    · rfl
    · split
      · exact Table.find?_insert_of_ne h.symm ..
      · rfl
  · rw [headers_complete]
  · rw [eventsOf, (tells_complete registry fetch reply).1, List.filter_append, eventsOf]
    cases fetch.outcome reply with
    | error error => simp [toldAtEnd, Event.url, h]
    | ok schema => simp [toldAtEnd, apply_ite, Event.url, h]

theorem schemas_complete_self (registry : Registry) (fetch : Fetch) (reply : Reply) :
    (registry.complete fetch reply).1.schemas.find? fetch.url =
      match fetch.outcome reply with
      | .error _ => registry.schemas.find? fetch.url
      | .ok schema =>
        if registry.isUsed fetch.url then some ⟨schema, fetch.number⟩
        else registry.schemas.find? fetch.url := by
  unfold complete
  cases fetch.outcome reply with
  | error error => rfl
  | ok schema =>
    simp only
    by_cases hused : registry.isUsed fetch.url = true
    · rw [if_pos hused, if_pos (by exact hused)]
      exact Table.find?_insert_self ..
    · rw [if_neg hused, if_neg (by exact hused)]

theorem site_complete (h : registry.site url = other.site url) {fetch : Fetch}
    (hurl : fetch.url = url) (reply : Reply) :
    (registry.complete fetch reply).1.site url = (other.complete fetch reply).1.site url := by
  subst hurl
  have hused := isUsed_of_site h
  obtain ⟨hholds, hsnapshot, _, htraffic, hevents⟩ := site_eq_iff.1 h
  rw [site_eq_iff]
  refine ⟨?_, ?_, ?_, ?_, ?_⟩
  · simpa only [endpoint?, instances_complete] using hholds
  · rw [schemas_complete_self, schemas_complete_self, hused, hsnapshot]
  · rw [headers_complete, headers_complete]
    exact congrArg Site.headers h
  · have hpending : registry.pending fetch.url = other.pending fetch.url :=
      congrArg Traffic.pending htraffic
    have hstarted : (registry.started.find? fetch.url).getD 0 =
        (other.started.find? fetch.url).getD 0 := congrArg Traffic.started htraffic
    rw [traffic_complete, traffic_complete, hpending, hstarted]
  · have htold : registry.toldAtEnd fetch (fetch.outcome reply) =
        other.toldAtEnd fetch (fetch.outcome reply) := by
      cases fetch.outcome reply with
      | error error => rfl
      | ok schema => rw [toldAtEnd, toldAtEnd, hused]
    rw [eventsOf, eventsOf, (tells_complete registry fetch reply).1,
      (tells_complete other fetch reply).1, List.filter_append, List.filter_append, htold]
    exact congrArg (· ++ _) hevents

/-! ## Registrations -/

theorem needsFetch_congr (h : registry.site url = other.site url) :
    registry.NeedsFetch url ↔ other.NeedsFetch url := by
  obtain ⟨_, hsnapshot, _, htraffic, _⟩ := site_eq_iff.1 h
  have hmarked : registry.inFlight.contains url = other.inFlight.contains url :=
    congrArg Traffic.isMarked htraffic
  rw [NeedsFetch, NeedsFetch, hsnapshot, ← List.contains_iff_mem, ← List.contains_iff_mem, hmarked]

/-- To the other endpoints a registration does no more than to place its instance. -/
theorem site_register_eq_place {target : String} (htarget : target ≠ url) (registry : Registry)
    (id : String) (isOnline : Bool) :
    (registry.register id target isOnline).1.site url = (registry.place id target).site url := by
  obtain ⟨_, _, hregister⟩ | ⟨_, hregister⟩ := register_cases registry id target isOnline
  · rw [hregister, site_startFetch_of_ne htarget, site_mark_of_ne htarget]
  · rw [hregister]

theorem site_register_of_ne {id target : String} (htarget : target ≠ url)
    (hleft : registry.endpoint? id ≠ some url) (isOnline : Bool) :
    (registry.register id target isOnline).1.site url = registry.site url := by
  rw [site_register_eq_place htarget, site_place_of_ne htarget hleft]

/-- A registration does the same for its endpoint, and starts the same fetch if any, wherever the same
is held for this endpoint. -/
theorem register_congr (h : registry.site url = other.site url)
    (hdefaults : registry.defaultHeaders = other.defaultHeaders) {id : String}
    (hid : registry.endpoint? id = other.endpoint? id) (isOnline : Bool) :
    (registry.register id url isOnline).1.site url = (other.register id url isOnline).1.site url ∧
      (registry.register id url isOnline).2 = (other.register id url isOnline).2 := by
  have hplaced := site_place h hid url
  have hneeds := needsFetch_congr hplaced
  have hdefaults : (registry.place id url).defaultHeaders = (other.place id url).defaultHeaders := by
    rw [defaultHeaders_place, defaultHeaders_place, hdefaults]
  -- Either both registrations start a fetch or none does.
  obtain ⟨honline, hneeded, hregister⟩ | ⟨hneedless, hregister⟩ :=
    register_cases registry id url isOnline
  · obtain ⟨_, _, hregister'⟩ | ⟨hneedless, _⟩ := register_cases other id url isOnline
    · rw [hregister, hregister']
      exact ⟨site_startFetch (site_mark hplaced) hdefaults true,
        congrArg some (startFetch_snd_congr (site_mark hplaced) hdefaults true)⟩
    · exact absurd (hneeds.1 hneeded) (hneedless honline)
  · obtain ⟨honline, hneeded, _⟩ | ⟨_, hregister'⟩ := register_cases other id url isOnline
    · exact absurd (hneeds.2 hneeded) (hneedless honline)
    · rw [hregister, hregister']
      exact ⟨hplaced, rfl⟩

theorem site_register (h : registry.site url = other.site url)
    (hdefaults : registry.defaultHeaders = other.defaultHeaders) {id : String}
    (hid : registry.endpoint? id = other.endpoint? id) (target : String) (isOnline : Bool) :
    (registry.register id target isOnline).1.site url =
      (other.register id target isOnline).1.site url := by
  by_cases htarget : target = url
  · subst htarget
    exact (register_congr h hdefaults hid isOnline).1
  · rw [site_register_eq_place htarget registry, site_register_eq_place htarget other]
    exact site_place h hid target

end Registry

end QueryTree
