import Mathlib.Data.List.Basic
import QueryTree.Validation

/-! # Verdicts

The check of a tree meets its nodes in preorder and judges each of them by itself and by its direct
parent. A tree is therefore clean if its root stands for something and every connection in it is
sound, whatever lies around. -/

namespace QueryTree

/-- A node as the check meets it: the labels from the root down to it, and its parent unless it is
the root. -/
structure Visit where
  path : List String
  parent : Option Node
  node : Node

def Visit.issue? (schema : Schema) (visit : Visit) : Option TreeIssue :=
  (visit.node.issue? schema visit.parent).map fun kind => ⟨visit.path, kind⟩

namespace Node

/-! ## The walk -/

mutual

/-- The node and everything below it, in preorder. -/
def visits (parent : Option Node) (above : List String) : Node → List Visit
  | ⟨endpointUrl, name, parentTypeName, isObject, arguments, children⟩ =>
    let node : Node := ⟨endpointUrl, name, parentTypeName, isObject, arguments, children⟩
    let path := above ++ [node.label]
    ⟨path, parent, node⟩ :: slotVisits node path children

def slotVisits (parent : Node) (above : List String) : List (Option Node) → List Visit
  | [] => []
  | none :: rest => slotVisits parent above rest
  | some child :: rest => child.visits (some parent) above ++ slotVisits parent above rest

end

def walk (root : Node) : List Visit := root.visits none []

theorem slotVisits_eq (parent : Node) (above : List String) (slots : List (Option Node)) :
    slotVisits parent above slots =
      (slots.filterMap id).flatMap fun child => child.visits (some parent) above := by
  induction slots with
  | nil => rfl
  | cons slot rest ih => cases slot <;> simp [slotVisits, ih]

theorem visits_eq (parent : Option Node) (above : List String) (node : Node) :
    node.visits parent above =
      ⟨above ++ [node.label], parent, node⟩ ::
        node.selections.flatMap fun child => child.visits (some node) (above ++ [node.label]) := by
  cases node
  rw [visits, slotVisits_eq, selections]

theorem slotIssues_eq (schema : Schema) (parent : Node) (above : List String)
    (slots : List (Option Node)) :
    slotIssues schema parent above slots =
      (slots.filterMap id).flatMap fun child => child.issues schema (some parent) above := by
  induction slots with
  | nil => rfl
  | cons slot rest ih => cases slot <;> simp [slotIssues, ih]

theorem issues_eq (schema : Schema) (parent : Option Node) (above : List String) (node : Node) :
    node.issues schema parent above =
      (Visit.issue? schema ⟨above ++ [node.label], parent, node⟩).toList ++
        node.selections.flatMap fun child =>
          child.issues schema (some node) (above ++ [node.label]) := by
  cases node
  rw [issues, slotIssues_eq, selections, Visit.issue?]

/-- Every node is judged once, at its place in the walk. -/
theorem issues_eq_filterMap_visits (schema : Schema) (parent : Option Node) (above : List String)
    (node : Node) :
    node.issues schema parent above =
      (node.visits parent above).filterMap (Visit.issue? schema) := by
  induction node using inductionOnSelections generalizing parent above with
  | step node ih =>
    rw [issues_eq, visits_eq, List.filterMap_cons, List.filterMap_flatMap]
    have hbelow : (node.selections.flatMap fun child =>
          child.issues schema (some node) (above ++ [node.label])) =
        node.selections.flatMap fun child =>
          (child.visits (some node) (above ++ [node.label])).filterMap (Visit.issue? schema) :=
      List.flatMap_congr fun child hchild => ih child hchild _ _
    rw [hbelow]
    cases Visit.issue? schema ⟨above ++ [node.label], parent, node⟩ <;> rfl

/-! ## What the walk meets -/

/-- The walk meets every selection of a node of the tree, with that node as its parent. -/
theorem exists_visit {root parent child : Node} (h : root.Contains parent)
    (hchild : child ∈ parent.selections) (above : Option Node) (labels : List String) :
    ∃ path, ⟨path, some parent, child⟩ ∈ root.visits above labels := by
  induction h generalizing above labels with
  | self root =>
    refine ⟨labels ++ [root.label] ++ [child.label], ?_⟩
    rw [visits_eq, List.mem_cons, List.mem_flatMap]
    right
    refine ⟨child, hchild, ?_⟩
    rw [visits_eq]
    exact List.mem_cons_self
  | @deeper root mid node hmid _ ih =>
    obtain ⟨path, hpath⟩ := ih hchild (some root) (labels ++ [root.label])
    refine ⟨path, ?_⟩
    rw [visits_eq, List.mem_cons, List.mem_flatMap]
    exact Or.inr ⟨mid, hmid, hpath⟩

/-- Apart from the root, the walk meets the selections of the nodes of the tree only. -/
theorem eq_root_or_selection_of_mem_visits {root : Node} {above : Option Node}
    {labels : List String} {visit : Visit} (h : visit ∈ root.visits above labels) :
    (visit.parent = above ∧ visit.node = root) ∨
      ∃ parent, visit.parent = some parent ∧ root.Contains parent ∧
        visit.node ∈ parent.selections := by
  induction root using inductionOnSelections generalizing above labels with
  | step root ih =>
    rw [visits_eq, List.mem_cons, List.mem_flatMap] at h
    rcases h with rfl | ⟨child, hchild, hvisit⟩
    · exact Or.inl ⟨rfl, rfl⟩
    · right
      rcases ih child hchild hvisit with ⟨hparent, hnode⟩ | ⟨parent, hparent, hcontains, hnode⟩
      · exact ⟨root, hparent, .self root, hnode ▸ hchild⟩
      · exact ⟨parent, hparent, .deeper hchild hcontains, hnode⟩

/-! ## Clean trees -/

theorem issue?_none_eq_none_iff (schema : Schema) (node : Node) :
    node.issue? schema none = none ↔ ∃ found, node.resolve schema = .ok found := by
  unfold issue?
  cases node.resolve schema <;> simp

theorem issue?_some_eq_none_iff (schema : Schema) (parent node : Node) :
    node.issue? schema (some parent) = none ↔
      (∃ found, node.resolve schema = .ok found) ∧ schema.canAttach node parent = true := by
  unfold issue?
  cases node.resolve schema <;> simp

end Node

namespace Schema

/-- Every selection below the node stands for something and fits under its parent. -/
def CleanBelow (schema : Schema) (node : Node) : Prop :=
  ∀ parent child, node.Contains parent → child ∈ parent.selections →
    (∃ found, child.resolve schema = .ok found) ∧ schema.canAttach child parent = true

theorem CleanBelow.child {schema : Schema} {node child : Node} (h : schema.CleanBelow node)
    (hchild : child ∈ node.selections) : schema.CleanBelow child :=
  fun parent grandchild hcontains hgrandchild =>
    h parent grandchild (.deeper hchild hcontains) hgrandchild

theorem CleanBelow.exists_resolve {schema : Schema} {root node : Node} (h : schema.CleanBelow root)
    (hroot : ∃ found, root.resolve schema = .ok found) (hcontains : root.Contains node) :
    ∃ found, node.resolve schema = .ok found := by
  induction hcontains with
  | self root => exact hroot
  | @deeper root child node hchild _ ih =>
    exact ih (h.child hchild) (h root child (.self root) hchild).1

theorem validate_eq_filterMap_walk (schema : Schema) (root : Node) :
    schema.validate root = root.walk.filterMap (Visit.issue? schema) :=
  Node.issues_eq_filterMap_visits schema none [] root

/-- A tree is clean if its root stands for something, and everything below it does and fits. -/
theorem validate_eq_nil_iff (schema : Schema) (root : Node) :
    schema.validate root = [] ↔
      (∃ found, root.resolve schema = .ok found) ∧ schema.CleanBelow root := by
  rw [validate_eq_filterMap_walk, List.filterMap_eq_nil_iff]
  constructor
  · intro hclean
    have hissue : ∀ visit ∈ root.walk, visit.node.issue? schema visit.parent = none :=
      fun visit hvisit => Option.map_eq_none_iff.1 (hclean visit hvisit)
    constructor
    · have hroot : ⟨[] ++ [root.label], none, root⟩ ∈ root.walk := by
        rw [Node.walk, Node.visits_eq]
        exact List.mem_cons_self
      exact (Node.issue?_none_eq_none_iff ..).1 (hissue _ hroot)
    · intro parent child hcontains hchild
      obtain ⟨path, hvisit⟩ := Node.exists_visit hcontains hchild none []
      exact (Node.issue?_some_eq_none_iff ..).1 (hissue _ hvisit)
  · rintro ⟨hroot, hedges⟩ visit hvisit
    rw [Visit.issue?, Option.map_eq_none_iff]
    rcases Node.eq_root_or_selection_of_mem_visits hvisit with
      ⟨hparent, hnode⟩ | ⟨parent, hparent, hcontains, hnode⟩
    · rw [hparent, hnode, Node.issue?_none_eq_none_iff]
      exact hroot
    · rw [hparent, Node.issue?_some_eq_none_iff]
      exact hedges parent visit.node hcontains hnode

end Schema

end QueryTree
