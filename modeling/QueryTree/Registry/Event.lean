/-! # Events

A registry tells its subscribers what happens to the schemas that it keeps. A subscriber that falls
too far behind loses the oldest events. -/

namespace QueryTree

inductive Event where
  | updated (url : String)
  | refreshFailed (url message : String)
  | evicted (url : String)
  deriving DecidableEq

/-- How many events wait for a subscriber at most. -/
def Event.capacity : Nat := 64

/-- What a subscriber gets: the number of events that it lost, and those that came after. -/
structure Delivery where
  lost : Nat
  events : List Event
  deriving DecidableEq

/-- What waits for a subscriber that has seen the first events of a log. -/
def Delivery.after (seen : Nat) (log : List Event) : Delivery :=
  let waiting := log.drop seen
  let lost := waiting.length - Event.capacity
  ⟨lost, waiting.drop lost⟩

/-- A subscriber loses nothing as long as there is room for all that waits. -/
theorem Delivery.lost_after_eq_zero {seen : Nat} {log : List Event}
    (h : log.length ≤ seen + Event.capacity) : (Delivery.after seen log).lost = 0 := by
  simp [after]; omega

end QueryTree
