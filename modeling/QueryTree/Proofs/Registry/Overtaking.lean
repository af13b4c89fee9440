import QueryTree.Proofs.Registry.Traffic

/-! # Overtaken registrations

A registration starts no fetch of a marked endpoint. Still an endpoint can have several outstanding
fetches that registrations started, since a refresh that ends takes the mark of a registration away.
How many there are follows exactly from how often that happened. -/

namespace QueryTree

/-! ## One endpoint -/

namespace Traffic

/-- How many outstanding fetches registrations started. -/
def registrations (traffic : Traffic) : Nat := traffic.pending.countP Fetch.isRegistration

/-- A refresh ends and takes the mark of a registration away. -/
def isOvertaken (url : String) (before : Traffic) (outcome : StepOutcome) : Bool :=
  before.isMarked && (outcome.ended? url).any fun fetch => !fetch.isRegistration

/-- The fetch of a registration ends whose mark was taken away before. -/
def isLate (url : String) (before : Traffic) (outcome : StepOutcome) : Bool :=
  !before.isMarked && (outcome.ended? url).any Fetch.isRegistration

theorem Sound.registrations_ends {url : String} {before : Traffic} (h : before.Sound url)
    {fetch : Fetch} (hfetch : fetch ∈ before.pending) :
    (before.pending.filter fun other => !fetch.isSame other).countP Fetch.isRegistration +
      fetch.isRegistration.toNat = before.registrations := by
  obtain ⟨earlier, later, hsplit, hrest⟩ := h.exists_split hfetch
  rw [hrest, registrations, hsplit, List.countP_append, List.countP_append, List.countP_cons]
  cases fetch.isRegistration <;> simp
  omega

theorem Sound.registrations_changes {url : String} {before after : Traffic} {outcome : StepOutcome}
    (h : before.Sound url) (hchanges : Changes url before outcome after) :
    after.registrations + before.isMarked.toNat + (isLate url before outcome).toNat =
      before.registrations + after.isMarked.toNat + (isOvertaken url before outcome).toNat := by
  cases hchanges with
  | registers hfree hurl hkind hnumber =>
    simp [registrations, isLate, isOvertaken, StepOutcome.ended?, hfree, hkind]
  | refreshes hurl hkind hnumber =>
    simp [registrations, isLate, isOvertaken, StepOutcome.ended?, hkind]
  | @ends fetch result hfetch =>
    have hcount := h.registrations_ends hfetch
    have hended : (StepOutcome.delivered (some (fetch, result))).ended? url = some fetch := by
      rw [StepOutcome.ended?, if_pos (h.urls fetch hfetch)]
    simp only [registrations, isLate, isOvertaken, hended, Option.any_some] at hcount ⊢
    cases before.isMarked <;> cases hkind : fetch.isRegistration <;> simp [hkind] at hcount ⊢ <;>
      omega
  | stays houtcome => simp [isLate, isOvertaken, houtcome]

end Traffic

/-! ## Whole runs -/

namespace Registry

/-- How often something happens to the traffic of an endpoint in a run. -/
def occurrences (event : Traffic → StepOutcome → Bool) (url : String) : Registry → List Step → Nat
  | _, [] => 0
  | registry, step :: rest =>
    (event (registry.traffic url) (registry.step step).2).toNat +
      occurrences event url (registry.step step).1 rest

theorem occurrences_snoc (event : Traffic → StepOutcome → Bool) (url : String) (registry : Registry)
    (steps : List Step) (step : Step) :
    occurrences event url registry (steps ++ [step]) =
      occurrences event url registry steps +
        (event ((registry.run steps).traffic url) ((registry.run steps).step step).2).toNat := by
  induction steps generalizing registry with
  | nil => simp [occurrences, run]
  | cons first rest ih =>
    rw [List.cons_append, occurrences, ih, occurrences, Nat.add_assoc]
    rfl

/-- How often a refresh took a registration's mark away. -/
def overtakings (registry : Registry) (url : String) (steps : List Step) : Nat :=
  registry.occurrences (Traffic.isOvertaken url) url steps

/-- How often the fetch of a registration ended whose mark had been taken away. -/
def latecomers (registry : Registry) (url : String) (steps : List Step) : Nat :=
  registry.occurrences (Traffic.isLate url) url steps

theorem registrations_run (headers : Headers) (steps : List Step) (url : String) :
    (((new headers).run steps).traffic url).registrations + (new headers).latecomers url steps =
      (((new headers).run steps).traffic url).isMarked.toNat +
        (new headers).overtakings url steps := by
  induction steps using List.reverseRecOn with
  | nil => rfl
  | append_singleton steps step ih =>
    have hstep := (Traffic.sound_run headers steps url).registrations_changes
      (changes_step ((new headers).run steps) step url)
    rw [run_snoc, latecomers, overtakings, occurrences_snoc, occurrences_snoc]
    rw [latecomers, overtakings] at ih
    omega

/-! ## More and more fetches -/

theorem exists_error_of_status (fetch : Fetch) {status : Nat} (h : ¬ (200 ≤ status ∧ status < 300))
    (body : String) : ∃ error, fetch.outcome (.whole status body) = .error error := by
  cases houtcome : fetch.outcome (.whole status body) with
  | error error => exact ⟨error, rfl⟩
  | ok schema =>
    obtain ⟨request, _, hok⟩ := (Fetch.outcome_eq_ok_iff ..).1 houtcome
    obtain ⟨_, _, hreply, hlow, hhigh, _⟩ := (Request.outcome_eq_ok_iff ..).1 hok
    cases hreply
    exact absurd ⟨hlow, hhigh⟩ h

theorem registrations_register {registry : Registry} (htidy : registry.Tidy) {url : String}
    (h : registry.NeedsFetch url) (id : String) :
    ((registry.register id url true).1.traffic url).registrations =
        (registry.traffic url).registrations + 1 ∧
      (registry.register id url true).1.schemas.find? url = none := by
  obtain ⟨fetch, _, _, hkind, hpending, hschema⟩ := register_of_needsFetch htidy h id
  refine ⟨?_, hschema⟩
  have happend : ((registry.register id url true).1.traffic url).pending =
      (registry.traffic url).pending ++ [fetch] := hpending
  rw [Traffic.registrations, happend, List.countP_append, List.countP_singleton, hkind]
  rfl

/-- After a refresh that fails a fetch is needed again, whatever is outstanding. -/
theorem needsFetch_of_failed_refresh {registry refreshed : Registry} {url : String} {fetch : Fetch}
    (hstart : registry.startFetch url false = (refreshed, fetch))
    (hsound : (refreshed.traffic url).Sound url) (hschema : registry.schemas.find? url = none)
    {reply : Reply} {error : FetchError} (hfailed : fetch.outcome reply = .error error) :
    (refreshed.complete fetch reply).1.NeedsFetch url ∧
      ((refreshed.complete fetch reply).1.traffic url).registrations =
        (registry.traffic url).registrations := by
  have hrefreshed : (registry.startFetch url false).1 = refreshed := congrArg Prod.fst hstart
  have hfetch : (registry.startFetch url false).2 = fetch := congrArg Prod.snd hstart
  have hurl : fetch.url = url := by
    rw [← hfetch]
    rfl
  have hkind : fetch.isRegistration = false := by
    rw [← hfetch]
    rfl
  have hpending : (refreshed.traffic url).pending = (registry.traffic url).pending ++ [fetch] := by
    rw [← hrefreshed, traffic_startFetch, hfetch]
  have hended := traffic_complete refreshed fetch reply
  rw [hurl] at hended
  refine ⟨⟨?_, ?_⟩, ?_⟩
  · simp only [complete, hfailed]
    rw [← hrefreshed]
    exact hschema
  · have hmark := congrArg Traffic.isMarked hended
    simpa [traffic] using hmark
  · have hmem : fetch ∈ (refreshed.traffic url).pending := by simp [hpending]
    have hends := hsound.registrations_ends hmem
    rw [hkind, Traffic.registrations, hpending, List.countP_append, List.countP_singleton, hkind,
      ← hpending] at hends
    rw [Traffic.registrations, congrArg Traffic.pending hended]
    exact hends

/-- A registration, a refresh and the failure of the refresh leave one more fetch of a registration
outstanding, and again a fetch is needed. -/
theorem exists_round (headers : Headers) {steps : List Step} {url : String}
    (h : ((new headers).run steps).NeedsFetch url) :
    ∃ round, ((new headers).run (steps ++ round)).NeedsFetch url ∧
      (((new headers).run (steps ++ round)).traffic url).registrations =
        (((new headers).run steps).traffic url).registrations + 1 := by
  obtain ⟨hregistered, hschema⟩ := registrations_register (tidy_run headers steps) h "editor"
  have hsound := Traffic.sound_run headers (steps ++ [.register "editor" url, .refresh url]) url
  have hrun : (new headers).run (steps ++ [.register "editor" url, .refresh url]) =
      ((((new headers).run steps).register "editor" url true).1.startFetch url false).1 := by
    rw [run_append]
    rfl
  rw [hrun] at hsound
  generalize (((new headers).run steps).register "editor" url true).1 = registered at *
  rcases hstart : registered.startFetch url false with ⟨refreshed, fetch⟩
  rw [hstart] at hrun hsound
  have hpending : fetch ∈ refreshed.pending url := by
    have happend := pending_startFetch registered url false url
    rw [hstart] at happend
    simp [happend]
  obtain ⟨index, hindex⟩ := List.mem_iff_getElem?.1 hpending
  obtain ⟨error, herror⟩ := exists_error_of_status fetch
    (show ¬ (200 ≤ 500 ∧ 500 < 300) by decide) ""
  obtain ⟨hagain, hsame⟩ := needsFetch_of_failed_refresh hstart hsound hschema herror
  refine ⟨[.register "editor" url, .refresh url] ++ [.deliver url index (.whole 500 "")], ?_⟩
  rw [← List.append_assoc, run_snoc, hrun, step_of_pending hindex]
  exact ⟨hagain, hsame.trans hregistered⟩

/-- There are runs after which as many fetches as desired are outstanding that registrations
started. -/
theorem exists_run_registrations (headers : Headers) (url : String) (count : Nat) :
    ∃ steps, ((new headers).run steps).NeedsFetch url ∧
      (((new headers).run steps).traffic url).registrations = count := by
  induction count with
  | zero => exact ⟨[], ⟨rfl, List.not_mem_nil⟩, rfl⟩
  | succ count ih =>
    obtain ⟨steps, hneeds, hcount⟩ := ih
    obtain ⟨round, hagain, hmore⟩ := exists_round headers hneeds
    exact ⟨steps ++ round, hagain, by rw [hmore, hcount]⟩

/-! ## The balance -/

/-- The outstanding fetches that registrations started, and those of them whose marks were taken
away and that have ended since, are as many as the marks that are left and that refreshes took away.
So there is at most one as long as no refresh overtakes a registration, and any number otherwise. -/
theorem registrations_run_balance (headers : Headers) (url : String) :
    (∀ steps, (((new headers).run steps).traffic url).registrations +
        (new headers).latecomers url steps =
      (((new headers).run steps).traffic url).isMarked.toNat +
        (new headers).overtakings url steps) ∧
    (∀ steps, (((new headers).run steps).traffic url).registrations ≤ 1 ↔
      (((new headers).run steps).traffic url).isMarked.toNat +
        (new headers).overtakings url steps ≤ (new headers).latecomers url steps + 1) ∧
    (∀ steps, (new headers).overtakings url steps = 0 →
      (((new headers).run steps).traffic url).registrations ≤ 1) ∧
    ∀ count, ∃ steps, (((new headers).run steps).traffic url).registrations = count := by
  have hbalance := fun steps => registrations_run headers steps url
  refine ⟨hbalance, ?_, ?_, ?_⟩
  · intro steps
    have hsteps := hbalance steps
    omega
  · intro steps hnone
    have hsteps := hbalance steps
    have hmark := Bool.toNat_le (((new headers).run steps).traffic url).isMarked
    omega
  · intro count
    obtain ⟨steps, _, hcount⟩ := exists_run_registrations headers url count
    exact ⟨steps, hcount⟩

/-- A refresh fails before the fetch of the registration ends that started earlier, and then another
instance is registered. -/
def overtakingSteps : List Step :=
  [.register "a" "http://a.test/graphql", .refresh "http://a.test/graphql",
    .deliver "http://a.test/graphql" 1 (.whole 500 "boom"), .register "b" "http://a.test/graphql"]

/-- Two fetches of one endpoint are outstanding then that registrations started. -/
theorem two_registrations_outstanding :
    ∃ first second, ((new .empty).run overtakingSteps).pending "http://a.test/graphql" =
        [first, second] ∧
      first.isRegistration = true ∧ second.isRegistration = true ∧
      first.number = 0 ∧ second.number = 2 := by
  obtain ⟨request, hrefresh⟩ : ∃ request, (((new .empty).run (overtakingSteps.take 2)).pending
      "http://a.test/graphql")[1]? = some ⟨"http://a.test/graphql", 1, false, request⟩ := ⟨_, rfl⟩
  -- The fetch of the refresh fails, whatever became of its request.
  obtain ⟨error, herror⟩ := exists_error_of_status ⟨"http://a.test/graphql", 1, false, request⟩
    (show ¬ (200 ≤ 500 ∧ 500 < 300) by decide) "boom"
  have hended := congrArg Prod.fst (step_of_pending hrefresh (.whole 500 "boom"))
  simp only [complete, herror] at hended
  have hrun : (new .empty).run overtakingSteps =
      ((((new .empty).run (overtakingSteps.take 2)).step
        (.deliver "http://a.test/graphql" 1 (.whole 500 "boom"))).1.step
          (.register "b" "http://a.test/graphql")).1 := rfl
  rw [hrun, hended]
  exact ⟨_, _, rfl, rfl, rfl, rfl, rfl⟩

end Registry

end QueryTree
