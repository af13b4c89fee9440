import QueryTree.Literal.Render
import QueryTree.Selection.Basic

/-! # The query text of a selection tree

`name(argument: value, …)`, and behind an object node its filled children in braces. A fragment begins
with `... on`. Empty slots and the children of other nodes do not show. -/

namespace QueryTree

def Argument.spell (argument : Argument) : List Char :=
  argument.name.toList ++ ':' :: ' ' ::
    Literal.render argument.value argument.typeString argument.baseKind

namespace Node

def spellArguments (arguments : List Argument) : List Char :=
  if arguments.isEmpty then []
  else '(' :: (Literal.commaSeparated (arguments.map Argument.spell) ++ [')'])

/-- The selections between their braces. -/
def spellBlock (selections : List (List Char)) : List Char :=
  if selections.isEmpty then " \x7b \x7d".toList
  else " \x7b ".toList ++ [' '].intercalate selections ++ " \x7d".toList

mutual

def spell : Node → List Char
  | ⟨_, name, parentTypeName, isObject, arguments, children⟩ =>
    (if isObject && parentTypeName.isNone then "... on ".toList else []) ++ name.toList ++
      spellArguments arguments ++ (if isObject then spellBlock (spellChildren children) else [])

/-- The texts of the filled slots. -/
def spellChildren : List (Option Node) → List (List Char)
  | [] => []
  | none :: rest => spellChildren rest
  | some child :: rest => child.spell :: spellChildren rest

end

theorem spellChildren_eq (children : List (Option Node)) :
    spellChildren children = (children.filterMap id).map spell := by
  induction children with
  | nil => rfl
  | cons slot rest ih => cases slot <;> simp [spellChildren, ih]

def query (node : Node) : String := String.ofList node.spell

end Node

end QueryTree
