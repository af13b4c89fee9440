import QueryTree.Proofs.Selection.Reader

/-! # Query texts are unambiguous

A tree and its query text determine the same outline. Quotes, braces and commas inside of a literal
never show outside of it, and what the outline leaves out of the tree leaves no trace in the text. -/

namespace QueryTree

open Text (isName)

namespace Outline

/-! ## Outlines give texts -/

def spellArgument (argument : List Char × List Char) : List Char :=
  argument.1 ++ ':' :: ' ' :: argument.2

def spellHead (head : Head) : List Char :=
  fragmentMark head.isFragment ++ (head.name ++
    if head.arguments.isEmpty then []
    else '(' :: (Literal.commaSeparated (head.arguments.map spellArgument) ++ [')']))

mutual

def spell : Outline → List Char
  | .leaf head => spellHead head
  | .object head selections => spellHead head ++ Node.spellBlock (spellAll selections)

def spellAll : List Outline → List (List Char)
  | [] => []
  | selection :: rest => selection.spell :: spellAll rest

end

theorem spellAll_eq (selections : List Outline) : spellAll selections = selections.map spell := by
  induction selections with
  | nil => rfl
  | cons selection rest ih => rw [spellAll, ih, List.map_cons]

/-! ## Shapes -/

def shapeOfHead (head : Head) : Head :=
  { head with arguments := head.arguments.map fun argument => (argument.1, []) }

mutual

/-- The outline without its literals. -/
def shape : Outline → Outline
  | .leaf head => .leaf (shapeOfHead head)
  | .object head selections => .object (shapeOfHead head) (shapeAll selections)

def shapeAll : List Outline → List Outline
  | [] => []
  | selection :: rest => selection.shape :: shapeAll rest

end

theorem shapeAll_eq (selections : List Outline) : shapeAll selections = selections.map shape := by
  induction selections with
  | nil => rfl
  | cons selection rest ih => rw [shapeAll, ih, List.map_cons]

end Outline

namespace Node

/-! ## What never shows -/

mutual

/-- The tree without endpoints, empty slots and selections of leaves, and with no more of the parent
types than whether an object node is a fragment. -/
def pruned : Node → Node
  | ⟨_, name, parentTypeName, isObject, arguments, children⟩ =>
    ⟨"", name, if isObject && parentTypeName.isNone then none else some "", isObject, arguments,
      if isObject then prunedSlots children else []⟩

def prunedSlots : List (Option Node) → List (Option Node)
  | [] => []
  | none :: rest => prunedSlots rest
  | some child :: rest => some child.pruned :: prunedSlots rest

end

theorem prunedSlots_eq (slots : List (Option Node)) :
    prunedSlots slots = (slots.filterMap id).map fun child => some child.pruned := by
  induction slots with
  | nil => rfl
  | cons slot rest ih => cases slot <;> simp [prunedSlots, ih]

theorem selections_pruned (node : Node) :
    node.pruned.selections = if node.isObject then node.selections.map pruned else [] := by
  cases node with
  | mk endpointUrl name parentTypeName isObject arguments children =>
    cases isObject <;> simp [pruned, prunedSlots_eq, selections]

theorem head_pruned (node : Node) : node.pruned.head = node.head := by
  cases node with
  | mk endpointUrl name parentTypeName isObject arguments children =>
    cases isObject <;> cases parentTypeName <;> rfl

theorem isObject_pruned (node : Node) : node.pruned.isObject = node.isObject := by
  cases node
  rfl

theorem outline_pruned (node : Node) : node.pruned.outline = node.outline := by
  induction node using inductionOnSelections with
  | step node ih =>
    rw [outline_eq, outline_eq node, head_pruned, isObject_pruned]
    split
    · next hobject =>
      rw [selections_pruned, if_pos hobject, List.map_map]
      congr 1
      exact List.map_congr_left ih
    · rfl

/-! ## Values of arguments -/

def bareArgument (argument : Argument) : Argument := ⟨argument.name, "", none, none⟩

mutual

/-- The tree without the values and the declared types of its arguments. -/
def withoutValues : Node → Node
  | ⟨endpointUrl, name, parentTypeName, isObject, arguments, children⟩ =>
    ⟨endpointUrl, name, parentTypeName, isObject, arguments.map bareArgument, bareSlots children⟩

def bareSlots : List (Option Node) → List (Option Node)
  | [] => []
  | none :: rest => none :: bareSlots rest
  | some child :: rest => some child.withoutValues :: bareSlots rest

end

theorem selections_withoutValues (node : Node) :
    node.withoutValues.selections = node.selections.map withoutValues := by
  cases node with
  | mk endpointUrl name parentTypeName isObject arguments children =>
    rw [withoutValues, selections, selections]
    induction children with
    | nil => rfl
    | cons slot rest ih => cases slot <;> simpa [bareSlots] using ih

theorem hasNames_withoutValues (node : Node) : node.withoutValues.HasNames ↔ node.HasNames := by
  induction node using inductionOnSelections with
  | step node ih =>
    rw [hasNames_iff, hasNames_iff node, selections_withoutValues]
    have hbelow : (∀ child ∈ node.selections.map withoutValues, child.HasNames) ↔
        ∀ child ∈ node.selections, child.HasNames := by
      simp only [List.mem_map, forall_exists_index, and_imp, forall_apply_eq_imp_iff₂]
      exact forall₂_congr ih
    rw [hbelow]
    cases node
    simp [withoutValues, bareArgument]

theorem shape_head_withoutValues (node : Node) :
    Outline.shapeOfHead node.withoutValues.head = Outline.shapeOfHead node.head := by
  cases node
  simp [withoutValues, head, Outline.shapeOfHead, isFragment, bareArgument, Argument.shown]

theorem shape_outline_withoutValues (node : Node) :
    node.withoutValues.outline.shape = node.outline.shape := by
  induction node using inductionOnSelections with
  | step node ih =>
    have hobject : node.withoutValues.isObject = node.isObject := by
      cases node
      rfl
    rw [outline_eq, outline_eq node, hobject]
    split
    · rw [Outline.shape, Outline.shape, shape_head_withoutValues, Outline.shapeAll_eq,
        Outline.shapeAll_eq, selections_withoutValues, List.map_map, List.map_map, List.map_map]
      congr 1
      exact List.map_congr_left ih
    · rw [Outline.shape, Outline.shape, shape_head_withoutValues]

/-! ## Unambiguity -/

theorem spellHead_head (node : Node) : Outline.spellHead node.head = node.spellHead := by
  rw [Outline.spellHead, spellHead, head, spellArguments, List.map_map, List.isEmpty_map]
  rfl

/-- The text of a tree depends on its outline only. -/
theorem spell_outline (node : Node) : node.outline.spell = node.spell := by
  induction node using inductionOnSelections with
  | step node ih =>
    rw [outline_eq, spell_eq]
    split
    · rw [Outline.spell, Outline.spellAll_eq, spellHead_head, List.map_map]
      congr 2
      exact List.map_congr_left ih
    · rw [Outline.spell, spellHead_head, List.append_nil]

theorem spells_query {root : Node} (h : root.HasNames) :
    Outline.Spells root.query.toList root.outline := by
  simpa [query] using spells_outline h

theorem query_eq_of_outline_eq {root other : Node} (h : root.outline = other.outline) :
    root.query = other.query := by
  rw [query, query, ← spell_outline, ← spell_outline, h]

/-- The query text of a tree with GraphQL names spells the outline of the tree and no other, and the
reader finds it. So the texts of two such trees differ just if their outlines do: endpoints, parent
types, empty slots and selections of leaves never show. And whatever the values of the arguments are,
the fragments, fields and arguments that are read back are those of the tree. -/
theorem query_unambiguous {root : Node} (h : root.HasNames) :
    (Outline.Spells root.query.toList root.outline ∧
      ∀ other, Outline.Spells root.query.toList other → other = root.outline) ∧
    Outline.ofText? root.query = some root.outline ∧
    (∀ other : Node, other.HasNames → (root.query = other.query ↔ root.outline = other.outline)) ∧
    root.pruned.query = root.query ∧
    ∀ other : Node, other.withoutValues = root.withoutValues →
      ∃ outline, Outline.ofText? other.query = some outline ∧
        outline.shape = root.outline.shape := by
  have hspells := spells_query h
  refine ⟨⟨hspells, ?_⟩, Outline.ofText?_of_spells hspells, ?_, ?_, ?_⟩
  · exact fun other hother => hother.unique hspells
  · intro other hother
    constructor
    · intro heq
      apply hspells.unique
      rw [heq]
      exact spells_query hother
    · exact query_eq_of_outline_eq
  · exact query_eq_of_outline_eq (outline_pruned root)
  · intro other heq
    have hother : other.HasNames := by rwa [← hasNames_withoutValues, heq, hasNames_withoutValues]
    refine ⟨other.outline, Outline.ofText?_of_spells (spells_query hother), ?_⟩
    rw [← shape_outline_withoutValues, heq, shape_outline_withoutValues]

/-- A selection with another one below it, and with a text as its argument. -/
def userNamed (text : String) : Node :=
  ((objectField "http://a" "Query" "user").addArgument
    ⟨"name", "String", some .scalar, some (.text text)⟩).addChild (field "http://a" "User" "id")

theorem hasNames_userNamed (text : String) : (userNamed text).HasNames := by
  have hid : (field "http://a" "User" "id").HasNames := by
    rw [hasNames_iff]
    refine ⟨⟨by decide, ?_⟩, ?_⟩
    · rintro argument ⟨⟩
    · rintro child ⟨⟩
  have huser : isName "user".toList = true := by decide
  have hname : isName "name".toList = true := by decide
  rw [hasNames_iff]
  refine ⟨⟨huser, ?_⟩, ?_⟩
  · intro argument hargument
    obtain rfl := List.mem_singleton.1 hargument
    exact hname
  · intro child hchild
    obtain rfl := List.mem_singleton.1 hchild
    exact hid

/-- A text with a quote, a parenthesis and braces stays an argument. -/
theorem query_unambiguous_userNamed :
    (userNamed "\") \x7b admin \x7d").HasNames ∧
      ∃ outline, Outline.ofText? (userNamed "\") \x7b admin \x7d").query = some outline ∧
        outline.shape = (userNamed "x").outline.shape := by
  obtain ⟨_, _, _, _, hvalues⟩ := query_unambiguous (hasNames_userNamed "x")
  exact ⟨hasNames_userNamed _, hvalues _ rfl⟩

end Node

end QueryTree
