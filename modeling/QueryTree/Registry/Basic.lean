import QueryTree.Registry.Event
import QueryTree.Request.Reply

/-! # The registry of endpoints

Instances are registered on endpoints, several on one or none. The registry keeps one schema for each
endpoint that has an instance. A registration fetches the schema unless there is one or a fetch is
under way; when the last instance leaves, the schema goes. A fetch that fails changes no schema. -/

namespace QueryTree

/-- A request that is under way. Fetches of one URL are counted in the order in which they start. -/
structure Fetch where
  url : String
  number : Nat
  isRegistration : Bool
  request : Except TransportError Request

namespace Fetch

def isSame (fetch other : Fetch) : Bool := fetch.url == other.url && fetch.number == other.number

/-- What a reply comes to. A request that cannot be sent fails whatever the reply. -/
def outcome (fetch : Fetch) (reply : Reply) : Except FetchError Schema :=
  match fetch.request with
  | .error error => .error (.transport error)
  | .ok request => request.outcome reply

end Fetch

/-- A schema with the number of the fetch that it came from. -/
structure Snapshot where
  schema : Schema
  number : Nat

structure Registry where
  /-- sent with every request -/
  defaultHeaders : Headers
  /-- the endpoint of each instance -/
  instances : Table String
  schemas : Table Snapshot
  /-- sent with the requests to one endpoint, before the default ones -/
  headers : Table Headers
  /-- the endpoints that a registration started a fetch of, until one of their fetches ends -/
  inFlight : List String
  /-- how many fetches of each endpoint were started -/
  started : Table Nat
  outstanding : List Fetch
  /-- everything that was told, oldest first -/
  events : List Event

namespace Registry

def new (defaultHeaders : Headers) : Registry :=
  ⟨defaultHeaders, .empty, .empty, .empty, [], .empty, [], []⟩

/-! ## Views -/

def endpoint? (registry : Registry) (id : String) : Option String := registry.instances.find? id

def schema (registry : Registry) (url : String) : Option Schema :=
  (registry.schemas.find? url).map Snapshot.schema

def isUsed (registry : Registry) (url : String) : Bool := registry.instances.values.contains url

/-- The outstanding fetches of an endpoint in the order in which they started. -/
def pending (registry : Registry) (url : String) : List Fetch :=
  registry.outstanding.filter fun fetch => fetch.url == url

/-- The configured headers of a request to an endpoint. -/
def headersFor (registry : Registry) (url : String) : Headers :=
  registry.defaultHeaders.overriddenBy ((registry.headers.find? url).getD .empty)

/-! ## Steps -/

def emit (registry : Registry) (event : Event) : Registry :=
  { registry with events := registry.events ++ [event] }

/-- Drops headers and schema of an endpoint without instances. -/
def evictUnused (registry : Registry) (url : String) : Registry :=
  if registry.isUsed url then registry
  else
    let evicted := { registry with
      headers := registry.headers.erase url, schemas := registry.schemas.erase url }
    if registry.schemas.contains url then evicted.emit (.evicted url) else evicted

/-- Starts a fetch with the headers that the endpoint has now. -/
def startFetch (registry : Registry) (url : String) (isRegistration : Bool) : Registry × Fetch :=
  let number := (registry.started.find? url).getD 0
  let fetch : Fetch :=
    ⟨url, number, isRegistration, Request.ofUrl url (registry.headersFor url)⟩
  ({ registry with
      started := registry.started.insert url (number + 1)
      outstanding := registry.outstanding ++ [fetch] }, fetch)

/-- Puts an instance on an endpoint. An endpoint that it leaves may be without instances then. -/
def place (registry : Registry) (id url : String) : Registry :=
  let placed := { registry with instances := registry.instances.insert id url }
  match registry.instances.find? id with
  | none => placed
  | some previous => if previous = url then placed else placed.evictUnused previous

/-- Registers an instance, and starts a fetch if one is needed and the registry is online. -/
def register (registry : Registry) (id url : String) (isOnline : Bool) : Registry × Option Fetch :=
  let placed := registry.place id url
  if placed.schemas.contains url || placed.inFlight.contains url || !isOnline then (placed, none)
  else
    let (fetching, fetch) := startFetch { placed with inFlight := placed.inFlight ++ [url] } url true
    (fetching, some fetch)

/-- Registers an instance with headers for its endpoint. Headers that are not legal reject the whole
registration. -/
def registerWithHeaders (registry : Registry) (id url headersText : String)
    (isOnline : Bool := true) : Except HeaderError (Registry × Option Fetch) :=
  match Headers.ofText headersText with
  | .error error => .error error
  | .ok headers =>
    .ok (register { registry with headers := registry.headers.insert url headers } id url isOnline)

def unregister (registry : Registry) (id : String) : Registry :=
  match registry.instances.find? id with
  | none => registry
  | some url =>
    evictUnused { registry with instances := registry.instances.erase id } url

/-- Starts a fetch in any case. -/
def refresh (registry : Registry) (url : String) : Registry × Fetch := registry.startFetch url false

/-- Tells that a fetch failed. -/
def reportFailure (registry : Registry) (url : String) (error : FetchError) : Registry :=
  registry.emit (.refreshFailed url error.message)

/-- Ends a fetch. A schema is kept only if the endpoint still has an instance. -/
def complete (registry : Registry) (fetch : Fetch) (reply : Reply) :
    Registry × Except FetchError Schema :=
  let ended := { registry with
    inFlight := registry.inFlight.filter (· ≠ fetch.url)
    outstanding := registry.outstanding.filter fun other => !fetch.isSame other }
  match fetch.outcome reply with
  | .error error => (ended.reportFailure fetch.url error, .error error)
  | .ok schema =>
    if ended.isUsed fetch.url then
      (emit { ended with schemas := ended.schemas.insert fetch.url ⟨schema, fetch.number⟩ }
        (.updated fetch.url), .ok schema)
    else (ended, .ok schema)

/-- Delivers a reply to one of the outstanding fetches of an endpoint, if there is such a one. -/
def deliver (registry : Registry) (url : String) (index : Nat) (reply : Reply) :
    Registry × Option (Fetch × Except FetchError Schema) :=
  match (registry.pending url)[index]? with
  | none => (registry, none)
  | some fetch =>
    let (ended, outcome) := registry.complete fetch reply
    (ended, some (fetch, outcome))

end Registry

end QueryTree
