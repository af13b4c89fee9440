import QueryTree.TypeRef

/-! # How a declared type coerces values

Only the type's spelling matters: brackets mean a list, the five built-in scalars have rules of their
own, and every other name is taken as it is. -/

namespace QueryTree

inductive Coercion where
  | int
  | float
  | text
  | boolean
  /-- enums, input objects and custom scalars -/
  | named
  | list (item : Coercion)
  deriving DecidableEq

namespace Coercion

/-- The type without one exclamation mark at its end. -/
def nullable (type : List Char) : List Char :=
  if type.getLast? = some '!' then type.dropLast else type

/-- What stands between the brackets of a list type. -/
def item? : List Char → Option (List Char)
  | '[' :: rest => if rest.getLast? = some ']' then some rest.dropLast else none
  | _ => none

def ofName (name : List Char) : Coercion :=
  if name = "Int".toList then .int
  else if name = "Float".toList then .float
  else if name = "String".toList ∨ name = "ID".toList then .text
  else if name = "Boolean".toList then .boolean
  else .named

theorem length_nullable_le (type : List Char) : (nullable type).length ≤ type.length := by
  unfold nullable
  split <;> simp

theorem length_item?_lt {type item : List Char} (h : item? type = some item) :
    item.length < type.length := by
  unfold item? at h
  split at h
  · split at h
    · simp only [Option.some.injEq] at h
      subst h
      simp only [List.length_dropLast, List.length_cons]
      omega
    · simp at h
  · simp at h

def ofTypeString (type : List Char) : Coercion :=
  match h : item? (nullable type) with
  | some item =>
    have : item.length < type.length :=
      Nat.lt_of_lt_of_le (length_item?_lt h) (length_nullable_le type)
    .list (ofTypeString item)
  | none => ofName (nullable type)
termination_by type.length

end Coercion

/-- The coercion of a type reference, by recursion on the reference. -/
def TypeRef.coercion : TypeRef → Coercion
  | .named _ name => .ofName name.toList
  | .list inner => .list inner.coercion
  | .nonNull inner => inner.coercion

end QueryTree
