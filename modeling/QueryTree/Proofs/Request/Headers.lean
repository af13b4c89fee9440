import QueryTree.Request.Basic

/-! # The headers of a request

Headers replace others name by name, whatever the case in which the names are written. So a request
has three layers of them: what is supplied for its endpoint, the defaults, and the standard ones. -/

namespace QueryTree

namespace Headers

/-- The value of a name, in whatever case it is written. -/
def value? (headers : Headers) (name : String) : Option String :=
  headers.find? (Header.foldCase name)

/-! ## Replacing -/

theorem find?_overriddenBy (headers others : Headers) (name : String) :
    (headers.overriddenBy others).find? name = (others.find? name).or (headers.find? name) := by
  have hfold : ∀ (entries : List (String × String)) (merged : Headers),
      (Entries.keys entries).Nodup →
      (entries.foldl (fun merged entry => merged.insert entry.1 entry.2) merged).find? name =
        (Entries.find? name entries).or (merged.find? name) := by
    intro entries
    induction entries with
    | nil => exact fun merged _ => rfl
    | cons entry rest ih =>
      obtain ⟨key, value⟩ := entry
      intro merged hnodup
      obtain ⟨hkey, hrest⟩ := List.nodup_cons.1 hnodup
      rw [List.foldl_cons, ih _ hrest, Table.find?_insert, Entries.find?]
      by_cases heq : key = name
      · have hnone : Entries.find? name rest = none := by
          rw [← Option.not_isSome_iff_eq_none, Entries.find?_isSome_iff, ← heq]
          exact hkey
        rw [if_pos heq, if_pos heq, hnone, Option.none_or, Option.some_or]
      · rw [if_neg heq, if_neg heq]
  exact hfold others.entries headers others.nodup

theorem value?_overriddenBy (headers others : Headers) (name : String) :
    (headers.overriddenBy others).value? name = (others.value? name).or (headers.value? name) :=
  find?_overriddenBy headers others _

theorem value?_empty (name : String) : value? .empty name = none := rfl

/-! ## Names in lower case -/

/-- All names stand in lower case, so that `value?` leads to each of them. -/
def IsFolded (headers : Headers) : Prop :=
  ∀ key value, headers.find? key = some value → ∃ name, Header.foldCase name = key

theorem isFolded_empty : IsFolded .empty := by
  intro key value h
  cases h

theorem IsFolded.insert {headers : Headers} (h : headers.IsFolded) (name value : String) :
    IsFolded (headers.insert (Header.foldCase name) value) := by
  intro key found hfound
  rw [Table.find?_insert] at hfound
  split at hfound
  · next heq => exact ⟨name, heq⟩
  · exact h key found hfound

theorem IsFolded.overriddenBy {headers others : Headers} (h : headers.IsFolded)
    (hothers : others.IsFolded) : IsFolded (headers.overriddenBy others) := by
  intro key value hvalue
  rw [find?_overriddenBy, Option.or_eq_some_iff] at hvalue
  rcases hvalue with hvalue | ⟨_, hvalue⟩
  · exact hothers key value hvalue
  · exact h key value hvalue

theorem IsFolded.putMembers {members : List (String × Json)} {headers merged : Headers}
    (hheaders : headers.IsFolded) (h : putMembers members headers = .ok merged) :
    merged.IsFolded := by
  induction members generalizing headers with
  | nil =>
    cases h
    exact hheaders
  | cons member rest ih =>
    obtain ⟨name, value⟩ := member
    rw [Headers.putMembers] at h
    split at h
    · cases h
    · next text _ => exact ih (hheaders.insert name text) h

theorem isFolded_of_ofText {text : String} {headers : Headers} (h : ofText text = .ok headers) :
    headers.IsFolded := by
  unfold ofText at h
  split at h
  · cases h
    exact isFolded_empty
  · split at h
    · cases h
    · next value _ =>
      unfold ofJson at h
      split at h
      · exact isFolded_empty.putMembers h
      · cases h

end Headers

/-! ## Standard headers -/

namespace Request

/-- The authorization that stands for the credentials in a URL. -/
def authorization? (text : String) : Option String :=
  match Url.ofText? text with
  | .error _ => none
  | .ok url => (url.credentials.bind Credentials.decoded?).map fun (username, password) =>
    basicAuthorization username password

/-- The value of a standard header of a request to a URL. -/
def standard? (url name : String) : Option String :=
  let key := Header.foldCase name
  if key = "content-type" then some "application/json"
  else if key = "user-agent" then some userAgent
  else if key = "accept" then some "*/*"
  else if key = "authorization" then authorization? url
  else none

theorem value?_standardHeaders (url name : String) :
    (standardHeaders (authorization? url)).value? name = standard? url name := by
  unfold Headers.value? standard? standardHeaders Table.ofList
  generalize Header.foldCase name = key
  cases authorization? url with
  | none =>
    simp only [Option.map_none, Option.toList_none, List.append_nil, List.foldl_cons,
      List.foldl_nil, Table.find?_insert, Table.find?_empty]
    grind
  | some value =>
    simp only [Option.map_some, Option.toList_some, List.cons_append, List.nil_append,
      List.foldl_cons, List.foldl_nil, Table.find?_insert, Table.find?_empty]
    grind

theorem isFolded_standardHeaders (authorization : Option String) :
    (standardHeaders authorization).IsFolded := by
  intro key value h
  refine ⟨key, ?_⟩
  rcases List.mem_append.1 (Table.mem_of_find?_ofList h) with hfixed | hlogin
  · simp only [List.mem_cons, Prod.mk.injEq, List.not_mem_nil, or_false] at hfixed
    obtain ⟨rfl, _⟩ | ⟨rfl, _⟩ | ⟨rfl, _⟩ := hfixed <;> decide
  · rw [Option.mem_toList, Option.map_eq_some_iff] at hlogin
    obtain ⟨_, _, heq⟩ := hlogin
    cases heq
    decide

theorem headers_of_ofUrl {url : String} {configured : Headers} {request : Request}
    (h : ofUrl url configured = .ok request) :
    request.headers = (standardHeaders (authorization? url)).overriddenBy configured := by
  unfold ofUrl at h
  split at h
  · cases h
  · next parsed hparsed =>
    simp only at h
    generalize (if (parsed.credentials.bind Credentials.decoded?).isSome then
      parsed.withoutCredentials else parsed) = target at h
    split at h
    · cases h
      rw [authorization?, hparsed]
    · cases h

end Request

end QueryTree
