import QueryTree.Proofs.Literal.Rendering
import QueryTree.Selection.Query

/-! # Outlines

The outline of a selection tree is what its query text shows: which selections are fragments, their
names, their arguments with the literals, and the selections of the object nodes. Query texts have a
grammar, and the text of a tree whose names are GraphQL names spells the outline of the tree. -/

namespace QueryTree

open Text (isName)

/-- What stands in front of a selection's braces. Each argument comes with its literal. -/
structure Head where
  isFragment : Bool
  name : List Char
  arguments : List (List Char × List Char)

inductive Outline where
  | leaf (head : Head)
  | object (head : Head) (selections : List Outline)

namespace Outline

/-! ## The grammar -/

def fragmentMark (isFragment : Bool) : List Char := if isFragment then "... on ".toList else []

/-- Arguments between their parentheses: names with constants. -/
inductive SpellsArguments : List Char → List (List Char × List Char) → Prop
  | last {name literal : List Char} {value : Constant} (hname : isName name = true)
    (h : Constant.Spells literal value) :
    SpellsArguments (name ++ ':' :: ' ' :: literal) [(name, literal)]
  | more {name literal rest : List Char} {value : Constant}
    {arguments : List (List Char × List Char)} (hname : isName name = true)
    (h : Constant.Spells literal value) (hrest : SpellsArguments rest arguments) :
    SpellsArguments (name ++ ':' :: ' ' :: (literal ++ ',' :: ' ' :: rest))
      ((name, literal) :: arguments)

inductive SpellsHead : List Char → Head → Prop
  | plain {name : List Char} (isFragment : Bool) (hname : isName name = true) :
    SpellsHead (fragmentMark isFragment ++ name) ⟨isFragment, name, []⟩
  | withArguments {name inner : List Char} {arguments : List (List Char × List Char)}
    (isFragment : Bool) (hname : isName name = true) (h : SpellsArguments inner arguments) :
    SpellsHead (fragmentMark isFragment ++ (name ++ '(' :: (inner ++ [')'])))
      ⟨isFragment, name, arguments⟩

mutual

/-- The text spells a selection with this outline. -/
inductive Spells : List Char → Outline → Prop
  | leaf {text : List Char} {head : Head} (h : SpellsHead text head) : Spells text (.leaf head)
  | empty {text : List Char} {head : Head} (h : SpellsHead text head) :
    Spells (text ++ " \x7b \x7d".toList) (.object head [])
  | block {text inner : List Char} {head : Head} {selections : List Outline}
    (h : SpellsHead text head) (hinner : SpellsAll inner selections) :
    Spells (text ++ (" \x7b ".toList ++ (inner ++ " \x7d".toList))) (.object head selections)

/-- One selection or more, with blanks between them. -/
inductive SpellsAll : List Char → List Outline → Prop
  | last {text : List Char} {selection : Outline} (h : Spells text selection) :
    SpellsAll text [selection]
  | more {text rest : List Char} {selection : Outline} {selections : List Outline}
    (h : Spells text selection) (hrest : SpellsAll rest selections) :
    SpellsAll (text ++ ' ' :: rest) (selection :: selections)

end

end Outline

/-! ## The outline of a tree -/

/-- The argument's name and literal. -/
def Argument.shown (argument : Argument) : List Char × List Char :=
  (argument.name.toList,
    Literal.render argument.value argument.typeString argument.baseKind)

namespace Node

/-- A node without selections of its own counts as a field. -/
def head (node : Node) : Head :=
  ⟨node.isObject && node.isFragment, node.name.toList, node.arguments.map Argument.shown⟩

mutual

def outline : Node → Outline
  | ⟨endpointUrl, name, parentTypeName, isObject, arguments, children⟩ =>
    let node : Node := ⟨endpointUrl, name, parentTypeName, isObject, arguments, children⟩
    if isObject then .object node.head (slotOutlines children) else .leaf node.head

def slotOutlines : List (Option Node) → List Outline
  | [] => []
  | none :: rest => slotOutlines rest
  | some child :: rest => child.outline :: slotOutlines rest

end

theorem slotOutlines_eq (slots : List (Option Node)) :
    slotOutlines slots = (slots.filterMap id).map outline := by
  induction slots with
  | nil => rfl
  | cons slot rest ih => cases slot <;> simp [slotOutlines, ih]

theorem outline_eq (node : Node) :
    node.outline =
      if node.isObject then .object node.head (node.selections.map outline)
      else .leaf node.head := by
  cases node
  rw [outline, slotOutlines_eq, selections]

/-- The names of all nodes and of all their arguments are GraphQL names. -/
def HasNames (root : Node) : Prop :=
  ∀ node, root.Contains node → isName node.name.toList = true ∧
    ∀ argument ∈ node.arguments, isName argument.name.toList = true

theorem HasNames.selection {node child : Node} (h : node.HasNames)
    (hchild : child ∈ node.selections) : child.HasNames :=
  fun below hbelow => h below (.deeper hchild hbelow)

theorem hasNames_iff (node : Node) :
    node.HasNames ↔ (isName node.name.toList = true ∧
      ∀ argument ∈ node.arguments, isName argument.name.toList = true) ∧
        ∀ child ∈ node.selections, child.HasNames :=
  node.forall_contains_iff

/-! ## Query texts spell outlines -/

def spellHead (node : Node) : List Char :=
  Outline.fragmentMark (node.isObject && node.isFragment) ++
    (node.name.toList ++ spellArguments node.arguments)

theorem spell_eq (node : Node) :
    node.spell =
      node.spellHead ++ if node.isObject then spellBlock (node.selections.map spell) else [] := by
  cases node
  rw [spell, spellChildren_eq, spellHead]
  simp only [List.append_assoc]
  rfl

theorem spellsArguments_spell {argument : Argument} {arguments : List Argument}
    (hnames : ∀ other ∈ argument :: arguments, isName other.name.toList = true) :
    Outline.SpellsArguments
      (Literal.commaSeparated ((argument :: arguments).map Argument.spell))
      ((argument :: arguments).map Argument.shown) := by
  induction arguments generalizing argument with
  | nil =>
    have hname := hnames argument List.mem_cons_self
    have hspells := Outline.SpellsArguments.last hname
      (Constant.spells_render argument.value argument.typeString argument.baseKind)
    simpa [Literal.commaSeparated, Argument.spell, Argument.shown] using hspells
  | cons next arguments ih =>
    have hname := hnames argument List.mem_cons_self
    have hrest := ih fun other hother => hnames other (List.mem_cons_of_mem _ hother)
    have hspells := Outline.SpellsArguments.more hname
      (Constant.spells_render argument.value argument.typeString argument.baseKind) hrest
    simpa [Literal.commaSeparated, Argument.spell, Argument.shown] using hspells

theorem spellsHead_spellHead {node : Node} (hname : isName node.name.toList = true)
    (harguments : ∀ argument ∈ node.arguments, isName argument.name.toList = true) :
    Outline.SpellsHead node.spellHead node.head := by
  unfold spellHead head
  cases hlist : node.arguments with
  | nil =>
    simpa [spellArguments] using
      Outline.SpellsHead.plain (node.isObject && node.isFragment) hname
  | cons argument arguments =>
    rw [hlist] at harguments
    exact .withArguments _ hname (spellsArguments_spell harguments)

theorem spellsAll_intercalate {nodes : List Node} (hne : nodes ≠ [])
    (h : ∀ node ∈ nodes, Outline.Spells node.spell node.outline) :
    Outline.SpellsAll ([' '].intercalate (nodes.map spell)) (nodes.map outline) := by
  induction nodes with
  | nil => exact absurd rfl hne
  | cons node nodes ih =>
    have hnode := h node List.mem_cons_self
    cases nodes with
    | nil => simpa using Outline.SpellsAll.last hnode
    | cons next nodes =>
      have hrest := ih (by simp) fun other hother => h other (List.mem_cons_of_mem _ hother)
      simpa using Outline.SpellsAll.more hnode hrest

/-- The text of a tree spells the tree's outline. -/
theorem spells_outline {root : Node} (h : root.HasNames) :
    Outline.Spells root.spell root.outline := by
  induction root using inductionOnSelections with
  | step node ih =>
    obtain ⟨hname, harguments⟩ := h node (.self node)
    have hhead := spellsHead_spellHead hname harguments
    have hbelow := fun child hchild => ih child hchild (h.selection hchild)
    rw [spell_eq, outline_eq]
    split
    · unfold spellBlock
      cases hlist : node.selections with
      | nil => exact .empty hhead
      | cons child rest =>
        rw [hlist] at hbelow
        have hall := spellsAll_intercalate (List.cons_ne_nil child rest) hbelow
        have hspells := Outline.Spells.block hhead hall
        simpa using hspells
    · rw [List.append_nil]
      exact .leaf hhead

end Node

end QueryTree
