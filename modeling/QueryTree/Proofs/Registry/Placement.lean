import Mathlib.Data.List.Induction
import QueryTree.Registry.Run

/-! # Where instances are

The endpoint of an instance follows from the steps alone: registrations that were not rejected put
it on an endpoint, and unregistering takes it off. Replies and refreshes move no instance. -/

namespace QueryTree

/-! ## By the steps alone -/

/-- The endpoint of an instance after a step, from its endpoint before. -/
def Step.endpointAfter (id : String) (before : Option String) : Step → Option String
  | .register other url => if other = id then some url else before
  | .registerOffline other url => if other = id then some url else before
  | .registerWithHeaders other url headersText | .registerWithHeadersOffline other url headersText =>
    if other = id ∧ (Headers.ofText headersText).isOk then some url else before
  | .unregister other => if other = id then none else before
  | .refresh _ => before
  | .deliver _ _ _ => before

namespace History

def endpoint? (steps : List Step) (id : String) : Option String :=
  steps.foldl (fun before step => step.endpointAfter id before) none

/-- Some instance is on the endpoint after the steps. -/
def HasInstance (steps : List Step) (url : String) : Prop := ∃ id, endpoint? steps id = some url

theorem endpoint?_snoc (steps : List Step) (step : Step) (id : String) :
    endpoint? (steps ++ [step]) id = step.endpointAfter id (endpoint? steps id) := by
  simp [endpoint?, List.foldl_append]

end History

/-! ## In the registry -/

namespace Registry

theorem isUsed_iff (registry : Registry) (url : String) :
    registry.isUsed url = true ↔ ∃ id, registry.instances.find? id = some url := by
  rw [isUsed, List.contains_iff_mem, Table.mem_values_iff]

theorem isUsed_congr {registry other : Registry} (h : registry.instances = other.instances)
    (url : String) : registry.isUsed url = other.isUsed url := by
  rw [isUsed, isUsed, h]

@[simp] theorem instances_evictUnused (registry : Registry) (url : String) :
    (registry.evictUnused url).instances = registry.instances := by
  unfold evictUnused
  split
  · rfl
  · simp only
    split <;> rfl

theorem instances_place (registry : Registry) (id url : String) :
    (registry.place id url).instances = registry.instances.insert id url := by
  unfold place
  simp only
  split
  · rfl
  · split
    · rfl
    · rw [instances_evictUnused]

theorem instances_register (registry : Registry) (id url : String) (isOnline : Bool) :
    (registry.register id url isOnline).1.instances = registry.instances.insert id url := by
  unfold register
  simp only
  split
  · exact instances_place registry id url
  · exact instances_place registry id url

theorem instances_unregister (registry : Registry) (id other : String) :
    (registry.unregister id).instances.find? other =
      if id = other then none else registry.instances.find? other := by
  unfold unregister
  cases hfound : registry.instances.find? id with
  | none =>
    by_cases h : id = other
    · rw [if_pos h, ← h, hfound]
    · rw [if_neg h]
  | some url => rw [instances_evictUnused, Table.find?_erase]

@[simp] theorem instances_complete (registry : Registry) (fetch : Fetch) (reply : Reply) :
    (registry.complete fetch reply).1.instances = registry.instances := by
  unfold complete
  simp only
  split
  · rfl
  · split <;> rfl

@[simp] theorem instances_deliver (registry : Registry) (url : String) (index : Nat)
    (reply : Reply) : (registry.deliver url index reply).1.instances = registry.instances := by
  unfold deliver
  split
  · rfl
  · exact instances_complete ..

/-- A step moves an instance as the step itself tells. -/
theorem instances_step (registry : Registry) (step : Step) (id : String) :
    (registry.step step).1.instances.find? id =
      step.endpointAfter id (registry.instances.find? id) := by
  cases step with
  | register other url =>
    change (registry.register other url true).1.instances.find? id = _
    rw [instances_register, Table.find?_insert]
    rfl
  | registerOffline other url =>
    change (registry.register other url false).1.instances.find? id = _
    rw [instances_register, Table.find?_insert]
    rfl
  | registerWithHeaders other url headersText =>
    cases hparse : Headers.ofText headersText with
    | error error =>
      rw [step_of_rejected hparse]
      simp [Step.endpointAfter, hparse, Except.isOk, Except.toBool]
    | ok headers =>
      rw [step_of_headers hparse]
      change (Registry.register _ other url true).1.instances.find? id = _
      rw [instances_register, Table.find?_insert]
      simp [Step.endpointAfter, hparse, Except.isOk, Except.toBool]
  | registerWithHeadersOffline other url headersText =>
    cases hparse : Headers.ofText headersText with
    | error error =>
      rw [step_of_rejected_offline hparse]
      simp [Step.endpointAfter, hparse, Except.isOk, Except.toBool]
    | ok headers =>
      rw [step_of_headers_offline hparse]
      change (Registry.register _ other url false).1.instances.find? id = _
      rw [instances_register, Table.find?_insert]
      simp [Step.endpointAfter, hparse, Except.isOk, Except.toBool]
  | unregister other => exact instances_unregister registry other id
  | refresh url => rfl
  | deliver url index reply => exact congrArg (Table.find? · id) (instances_deliver ..)

theorem instances_run (headers : Headers) (steps : List Step) (id : String) :
    ((new headers).run steps).instances.find? id = History.endpoint? steps id := by
  induction steps using List.reverseRecOn with
  | nil => rfl
  | append_singleton steps step ih => rw [run_snoc, instances_step, ih, History.endpoint?_snoc]

/-- An endpoint is used exactly when the steps leave an instance on it. -/
theorem isUsed_run (headers : Headers) (steps : List Step) (url : String) :
    ((new headers).run steps).isUsed url = true ↔ History.HasInstance steps url := by
  simp only [isUsed_iff, instances_run, History.HasInstance]

end Registry

end QueryTree
