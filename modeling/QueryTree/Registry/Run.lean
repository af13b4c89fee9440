import QueryTree.Registry.Basic

/-! # Runs of the registry

A run is a finite sequence of steps from an empty registry. Each step has an outcome. -/

namespace QueryTree

inductive Step where
  | register (id url : String)
  | registerOffline (id url : String)
  | registerWithHeaders (id url headersText : String)
  | registerWithHeadersOffline (id url headersText : String)
  | unregister (id : String)
  | refresh (url : String)
  | deliver (url : String) (index : Nat) (reply : Reply)

inductive StepOutcome where
  | nothing
  /-- a fetch started, unless none was needed -/
  | registered (fetch : Option Fetch)
  | rejected (error : HeaderError)
  | refreshing (fetch : Fetch)
  /-- a fetch ended, unless none was outstanding -/
  | delivered (result : Option (Fetch × Except FetchError Schema))

namespace Registry

def step (registry : Registry) : Step → Registry × StepOutcome
  | .register id url =>
    let (after, fetch) := registry.register id url true
    (after, .registered fetch)
  | .registerOffline id url =>
    let (after, fetch) := registry.register id url false
    (after, .registered fetch)
  | .registerWithHeaders id url headersText =>
    match registry.registerWithHeaders id url headersText with
    | .error error => (registry, .rejected error)
    | .ok (after, fetch) => (after, .registered fetch)
  | .registerWithHeadersOffline id url headersText =>
    match registry.registerWithHeaders id url headersText false with
    | .error error => (registry, .rejected error)
    | .ok (after, fetch) => (after, .registered fetch)
  | .unregister id => (registry.unregister id, .nothing)
  | .refresh url =>
    let (after, fetch) := registry.refresh url
    (after, .refreshing fetch)
  | .deliver url index reply =>
    let (after, result) := registry.deliver url index reply
    (after, .delivered result)

theorem step_of_rejected {headersText : String} {error : HeaderError}
    (h : Headers.ofText headersText = .error error) (registry : Registry) (id url : String) :
    registry.step (.registerWithHeaders id url headersText) = (registry, .rejected error) := by
  simp [step, registerWithHeaders, h]

/-- Legal headers are stored first, and then the instance is registered as usual. -/
theorem step_of_headers {headersText : String} {headers : Headers}
    (h : Headers.ofText headersText = .ok headers) (registry : Registry) (id url : String) :
    registry.step (.registerWithHeaders id url headersText) =
      step { registry with headers := registry.headers.insert url headers } (.register id url) := by
  simp [step, registerWithHeaders, h]

theorem step_of_rejected_offline {headersText : String} {error : HeaderError}
    (h : Headers.ofText headersText = .error error) (registry : Registry) (id url : String) :
    registry.step (.registerWithHeadersOffline id url headersText) =
      (registry, .rejected error) := by
  simp [step, registerWithHeaders, h]

theorem step_of_headers_offline {headersText : String} {headers : Headers}
    (h : Headers.ofText headersText = .ok headers) (registry : Registry) (id url : String) :
    registry.step (.registerWithHeadersOffline id url headersText) =
      step { registry with headers := registry.headers.insert url headers }
        (.registerOffline id url) := by
  simp [step, registerWithHeaders, h]

theorem step_of_not_pending {registry : Registry} {url : String} {index : Nat}
    (h : (registry.pending url)[index]? = none) (reply : Reply) :
    registry.step (.deliver url index reply) = (registry, .delivered none) := by
  simp [step, deliver, h]

theorem step_of_pending {registry : Registry} {url : String} {index : Nat} {fetch : Fetch}
    (h : (registry.pending url)[index]? = some fetch) (reply : Reply) :
    registry.step (.deliver url index reply) =
      ((registry.complete fetch reply).1,
        .delivered (some (fetch, (registry.complete fetch reply).2))) := by
  simp [step, deliver, h]

/-- The registry after the steps. -/
def run (registry : Registry) (steps : List Step) : Registry :=
  steps.foldl (fun before step => (before.step step).1) registry

theorem run_append (registry : Registry) (steps later : List Step) :
    registry.run (steps ++ later) = (registry.run steps).run later := List.foldl_append

theorem run_snoc (registry : Registry) (steps : List Step) (step : Step) :
    registry.run (steps ++ [step]) = ((registry.run steps).step step).1 := by
  simp [run, List.foldl_append]

/-- What some run from an empty registry leads to. -/
def Reachable (registry : Registry) : Prop :=
  ∃ headers steps, registry = (new headers).run steps

end Registry

end QueryTree
