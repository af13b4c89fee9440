import QueryTree.TypeRef

/-! # Selection trees

A node of a selection tree is a field or a fragment of a query that is being put together. Its
children stand in slots, and a slot may still be empty. -/

namespace QueryTree

/-- An argument with its declared type as it is spelled, the kind of that type's base if it is known,
and the value if there is one. -/
structure Argument where
  name : String
  typeString : String
  baseKind : Option TypeKind
  value : Option Json

/-- A node without the name of a parent type is a fragment, and its name is a type's. An object node
has selections of its own. -/
structure Node where
  endpointUrl : String
  name : String
  parentTypeName : Option String
  isObject : Bool
  arguments : List Argument
  children : List (Option Node)

namespace Node

/-! ## Making nodes -/

/-- A field without selections of its own. -/
def field (url parentType name : String) : Node := ⟨url, name, some parentType, false, [], []⟩

/-- A field with selections of its own. -/
def objectField (url parentType name : String) : Node := ⟨url, name, some parentType, true, [], []⟩

def fragment (url typeName : String) : Node := ⟨url, typeName, none, true, [], []⟩

def addArgument (node : Node) (argument : Argument) : Node :=
  { node with arguments := node.arguments ++ [argument] }

def addChild (node child : Node) : Node := { node with children := node.children ++ [some child] }

def addSlot (node : Node) : Node := { node with children := node.children ++ [none] }

/-! ## Parts of nodes -/

def isFragment (node : Node) : Bool := node.parentTypeName.isNone

/-- The children in filled slots, in order. -/
def selections (node : Node) : List Node := node.children.filterMap id

def label (node : Node) : String := if node.isFragment then "... on " ++ node.name else node.name

@[simp] theorem selections_addChild (node child : Node) :
    (node.addChild child).selections = node.selections ++ [child] := by
  simp [selections, addChild]

@[simp] theorem selections_addSlot (node : Node) :
    node.addSlot.selections = node.selections := by
  simp [selections, addSlot]

/-! ## The nodes of a tree -/

/-- The node is the root of the tree or below it. -/
inductive Contains : Node → Node → Prop
  | self (root : Node) : Contains root root
  | deeper {root child node : Node} (hchild : child ∈ root.selections) (h : Contains child node) :
    Contains root node

theorem Contains.selection {root parent child : Node} (h : root.Contains parent)
    (hchild : child ∈ parent.selections) : root.Contains child := by
  induction h with
  | self root => exact .deeper hchild (.self child)
  | deeper hmid _ ih => exact .deeper hmid (ih hchild)

theorem forall_contains_iff {p : Node → Prop} (root : Node) :
    (∀ node, root.Contains node → p node) ↔
      p root ∧ ∀ child ∈ root.selections, ∀ node, child.Contains node → p node := by
  constructor
  · intro h
    exact ⟨h root (.self root), fun child hchild node hnode => h node (.deeper hchild hnode)⟩
  · rintro ⟨hroot, hbelow⟩ node hcontains
    cases hcontains with
    | self => exact hroot
    | deeper hchild hnode => exact hbelow _ hchild node hnode

/-! ## Induction on trees -/

variable {motive : Node → Prop}

mutual

/-- What a node inherits from its selections holds of all nodes. -/
@[elab_as_elim]
theorem inductionOnSelections
    (step : ∀ node, (∀ child ∈ node.selections, motive child) → motive node) : ∀ node, motive node
  | ⟨endpointUrl, name, parentTypeName, isObject, arguments, children⟩ =>
    step ⟨endpointUrl, name, parentTypeName, isObject, arguments, children⟩
      (forall_mem_slots step children)

theorem forall_mem_slots
    (step : ∀ node, (∀ child ∈ node.selections, motive child) → motive node) :
    ∀ slots : List (Option Node), ∀ child ∈ slots.filterMap id, motive child
  | [], _, h => by simp at h
  | none :: rest, child, h => forall_mem_slots step rest child (by simpa using h)
  | some node :: rest, child, h => by
    have hcases : child = node ∨ child ∈ rest.filterMap id := by simpa using h
    rcases hcases with heq | h
    · rw [heq]
      exact inductionOnSelections step node
    · exact forall_mem_slots step rest child h

end

end Node

end QueryTree
