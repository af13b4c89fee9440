import QueryTree.Proofs.Validation.Verdicts

/-! # Issues in preorder

The place of a node is the list of the slots that lead to it from the root. The smaller of two places,
as lists, comes first in preorder. The check of a tree goes through the places of the tree in this
order and judges each node by itself and by its direct parent, and the labels on the way to a node
are the path of its issue. -/

namespace QueryTree

namespace Node

/-! ## Places -/

/-- The nodes on the way down through the slots with these numbers, the node itself first. There is
no way through an empty slot. -/
def line? : Node → List Nat → Option (List Node)
  | node, [] => some [node]
  | node, slot :: rest =>
    match node.children[slot]? with
    | some (some child) => (child.line? rest).map (node :: ·)
    | _ => none

mutual

/-- The places of all nodes of a tree, that of the root first. -/
def places : Node → List (List Nat)
  | ⟨_, _, _, _, _, children⟩ => [] :: slotPlaces 0 children

/-- The places of the nodes in the slots, which are numbered from `slot` on. -/
def slotPlaces (slot : Nat) : List (Option Node) → List (List Nat)
  | [] => []
  | none :: rest => slotPlaces (slot + 1) rest
  | some child :: rest => child.places.map (slot :: ·) ++ slotPlaces (slot + 1) rest

end

theorem places_eq (node : Node) : node.places = [] :: slotPlaces 0 node.children := by
  cases node
  rw [places]

theorem mem_slotPlaces_iff {first : Nat} {slots : List (Option Node)} {place : List Nat} :
    place ∈ slotPlaces first slots ↔ ∃ slot child below,
      slots[slot]? = some (some child) ∧ below ∈ child.places ∧ place = (first + slot) :: below := by
  induction slots generalizing first with
  | nil => simp [slotPlaces]
  | cons entry rest ih =>
    -- A place is that of the first slot's node or below, or lies in a later slot.
    have hlater : (∃ slot child below, rest[slot]? = some (some child) ∧ below ∈ child.places ∧
        place = (first + 1 + slot) :: below) ↔
        ∃ slot child below, (entry :: rest)[slot + 1]? = some (some child) ∧
          below ∈ child.places ∧ place = (first + (slot + 1)) :: below := by
      simp only [List.getElem?_cons_succ, Nat.add_assoc, Nat.add_comm 1]
    cases entry with
    | none =>
      rw [slotPlaces, ih, hlater]
      constructor
      · rintro ⟨slot, h⟩
        exact ⟨slot + 1, h⟩
      · rintro ⟨slot, child, below, hslot, h⟩
        cases slot with
        | zero => cases hslot
        | succ slot => exact ⟨slot, child, below, hslot, h⟩
    | some node =>
      rw [slotPlaces, List.mem_append, List.mem_map, ih, hlater]
      constructor
      · rintro (⟨below, hbelow, rfl⟩ | ⟨slot, h⟩)
        · exact ⟨0, node, below, rfl, hbelow, rfl⟩
        · exact ⟨slot + 1, h⟩
      · rintro ⟨slot, child, below, hslot, hbelow, rfl⟩
        cases slot with
        | zero =>
          cases hslot
          exact Or.inl ⟨below, hbelow, rfl⟩
        | succ slot => exact Or.inr ⟨slot, child, below, hslot, hbelow, rfl⟩

theorem line?_cons {node child : Node} {slot : Nat}
    (h : node.children[slot]? = some (some child)) (rest : List Nat) :
    node.line? (slot :: rest) = (child.line? rest).map (node :: ·) := by
  rw [line?, h]

theorem exists_cons_of_line? {node : Node} {place : List Nat} {line : List Node}
    (h : node.line? place = some line) : ∃ below, line = node :: below := by
  cases place with
  | nil =>
    cases h
    exact ⟨[], rfl⟩
  | cons slot rest =>
    rw [line?] at h
    split at h
    · obtain ⟨below, _, rfl⟩ := Option.map_eq_some_iff.1 h
      exact ⟨below, rfl⟩
    · cases h

/-- The places are those that a way of filled slots leads to. -/
theorem mem_places_iff {node : Node} {place : List Nat} :
    place ∈ node.places ↔ ∃ line, node.line? place = some line := by
  induction place generalizing node with
  | nil => simp [places_eq, line?]
  | cons slot rest ih =>
    rw [places_eq, List.mem_cons, mem_slotPlaces_iff]
    constructor
    · rintro (hnil | ⟨found, child, below, hslot, hbelow, heq⟩)
      · cases hnil
      · obtain ⟨rfl, rfl⟩ := List.cons.inj heq
        obtain ⟨line, hline⟩ := ih.1 hbelow
        rw [← Nat.zero_add found] at hslot
        exact ⟨node :: line, by rw [line?_cons hslot, hline]; rfl⟩
    · rintro ⟨line, hline⟩
      right
      cases hslot : node.children[slot]? with
      | none => simp [line?, hslot] at hline
      | some entry =>
        cases entry with
        | none => simp [line?, hslot] at hline
        | some child =>
          rw [line?_cons hslot, Option.map_eq_some_iff] at hline
          obtain ⟨below, hbelow, rfl⟩ := hline
          exact ⟨slot, child, rest, hslot, ih.2 ⟨below, hbelow⟩, by rw [Nat.zero_add]⟩

/-! ### Their order -/

theorem pairwise_slotPlaces {first : Nat} {slots : List (Option Node)}
    (h : ∀ child ∈ slots.filterMap id, child.places.Pairwise (· < ·)) :
    (slotPlaces first slots).Pairwise (· < ·) := by
  induction slots generalizing first with
  | nil => exact List.Pairwise.nil
  | cons entry rest ih =>
    cases entry with
    | none =>
      rw [slotPlaces]
      exact ih (by simpa using h)
    | some node =>
      have hrest : ∀ child ∈ rest.filterMap id, child.places.Pairwise (· < ·) :=
        fun child hchild => h child (List.mem_cons_of_mem _ hchild)
      have hnode : (node.places.map (first :: ·)).Pairwise (· < ·) := by
        refine List.Pairwise.map _ ?_ (h node (by simp))
        intro place later hlt
        exact List.cons_lt_cons_iff.2 (Or.inr ⟨rfl, hlt⟩)
      rw [slotPlaces, List.pairwise_append]
      refine ⟨hnode, ih hrest, ?_⟩
      intro place hplace later hlater
      obtain ⟨below, _, rfl⟩ := List.mem_map.1 hplace
      obtain ⟨slot, child, other, _, _, rfl⟩ := mem_slotPlaces_iff.1 hlater
      exact List.cons_lt_cons_iff.2 (Or.inl (by omega))

/-- The places stand in preorder, and none of them comes twice. -/
theorem pairwise_places (node : Node) : node.places.Pairwise (· < ·) := by
  induction node using inductionOnSelections with
  | step node ih =>
    rw [places_eq, List.pairwise_cons]
    refine ⟨?_, pairwise_slotPlaces ih⟩
    intro place hplace
    obtain ⟨slot, child, below, _, _, rfl⟩ := mem_slotPlaces_iff.1 hplace
    exact List.nil_lt_cons ..

end Node

/-! ## Issues -/

/-- What is wrong with the last node of a line, which is judged under the node before it. -/
def Schema.issueAt? (schema : Schema) (line : List Node) : Option TreeIssue :=
  line.getLast?.bind fun node =>
    (node.issue? schema line.dropLast.getLast?).map fun kind => ⟨line.map Node.label, kind⟩

/-- The fault of the last node of a line from the root down: it stands for nothing, or its direct
parent stands for something of a type of the schema under which it does not belong. The node belongs
there as a fragment on that type or on one of its possible types, and as a field of that very
type. -/
inductive Schema.Fault (schema : Schema) : List Node → TreeIssue → Prop
  | stale {above : List Node} {node : Node} {reference : StaleReference}
    (h : node.resolve schema = .error reference) :
    Fault schema (above ++ [node]) ⟨(above ++ [node]).map Node.label, .stale reference⟩
  | misplaced {above : List Node} {parent node : Node} {found holder : Resolution} {type : TypeDef}
    (hnode : node.resolve schema = .ok found) (hparent : parent.resolve schema = .ok holder)
    (htype : schema.type? holder.baseType = some type)
    (hfragment : node.isFragment = true → type.name ≠ node.name ∧
      ∀ possible ∈ type.possibleTypes, possible.baseName ≠ node.name)
    (hfield : node.parentTypeName = some holder.baseType → type.field? node.name = none) :
    Fault schema (above ++ [parent] ++ [node])
      ⟨(above ++ [parent] ++ [node]).map Node.label, .incompatible parent.label⟩

/-- The issue as it shows in a tree around, whose labels come before its path. -/
def TreeIssue.under (labels : List String) (issue : TreeIssue) : TreeIssue :=
  ⟨labels ++ issue.path, issue.kind⟩

namespace Schema

variable {schema : Schema}

@[simp] theorem issueAt?_append_singleton (schema : Schema) (above : List Node) (node : Node) :
    schema.issueAt? (above ++ [node]) = (node.issue? schema above.getLast?).map fun kind =>
      ⟨(above ++ [node]).map Node.label, kind⟩ := by
  simp [issueAt?]

/-! ### Verdicts -/

theorem canAttach_eq_false_iff {child parent : Node} :
    schema.canAttach child parent = false ↔ ∃ holder type, parent.resolve schema = .ok holder ∧
      schema.type? holder.baseType = some type ∧
      (child.isFragment = true → type.name ≠ child.name ∧
        ∀ possible ∈ type.possibleTypes, possible.baseName ≠ child.name) ∧
      (child.parentTypeName = some holder.baseType → type.field? child.name = none) := by
  unfold canAttach
  cases hparent : parent.resolve schema with
  | error reference => simp
  | ok holder =>
    cases htype : schema.type? holder.baseType with
    | none => simp [htype]
    | some type =>
      cases howner : child.parentTypeName with
      | none => simp [htype, howner, Node.isFragment, TypeDef.acceptsFragment]
      | some owner => simp [htype, howner, Node.isFragment, TypeDef.hasField]

theorem issueAt?_eq_some_iff {line : List Node} {issue : TreeIssue} :
    schema.issueAt? line = some issue ↔ schema.Fault line issue := by
  constructor
  · intro h
    obtain rfl | ⟨above, node, rfl⟩ := List.eq_nil_or_concat' line
    · cases h
    rw [issueAt?_append_singleton, Option.map_eq_some_iff] at h
    obtain ⟨kind, hkind, rfl⟩ := h
    unfold Node.issue? at hkind
    cases hnode : node.resolve schema with
    | error reference =>
      rw [hnode] at hkind
      cases hkind
      exact .stale hnode
    | ok found =>
      rw [hnode] at hkind
      obtain rfl | ⟨above, parent, rfl⟩ := List.eq_nil_or_concat' above
      · cases hkind
      rw [List.getLast?_concat] at hkind
      simp only at hkind
      split at hkind
      · cases hkind
      · next hmisplaced =>
        cases hkind
        obtain ⟨holder, type, hparent, htype, hfragment, hfield⟩ :=
          canAttach_eq_false_iff.1 (Bool.eq_false_iff.2 hmisplaced)
        exact .misplaced hnode hparent htype hfragment hfield
  · intro h
    cases h with
    | stale h => simp [Node.issue?, h]
    | misplaced hnode hparent htype hfragment hfield =>
      have hmisplaced := canAttach_eq_false_iff.2 ⟨_, _, hparent, htype, hfragment, hfield⟩
      rw [issueAt?_append_singleton, List.getLast?_concat]
      simp [Node.issue?, hnode, hmisplaced]

/-! ### The issues of a tree -/

theorem filterMap_slotPlaces {β : Type} (found : List Nat → Option β) (below : Node → List β)
    {first : Nat} {slots : List (Option Node)}
    (h : ∀ slot child, slots[slot]? = some (some child) →
      child.places.filterMap (fun place => found ((first + slot) :: place)) = below child) :
    (Node.slotPlaces first slots).filterMap found = (slots.filterMap id).flatMap below := by
  induction slots generalizing first with
  | nil => rfl
  | cons entry rest ih =>
    have hrest : ∀ slot child, rest[slot]? = some (some child) →
        child.places.filterMap (fun place => found ((first + 1 + slot) :: place)) = below child := by
      intro slot child hslot
      have hchild := h (slot + 1) child hslot
      rwa [show first + (slot + 1) = first + 1 + slot by omega] at hchild
    cases entry with
    | none =>
      rw [Node.slotPlaces, ih hrest]
      rfl
    | some node =>
      have hnode := h 0 node rfl
      rw [Node.slotPlaces, List.filterMap_append, List.filterMap_map, ih hrest]
      exact congrArg (· ++ _) hnode

/-- Below some nodes, the issues of a node are those of the lines that go on from them. -/
theorem issues_eq_filterMap_places (node : Node) (above : List Node) :
    node.issues schema above.getLast? (above.map Node.label) =
      node.places.filterMap fun place =>
        (node.line? place).bind fun line => schema.issueAt? (above ++ line) := by
  induction node using Node.inductionOnSelections generalizing above with
  | step node ih =>
    have hbelow : ∀ (slot : Nat) (child : Node), node.children[slot]? = some (some child) →
        (child.places.filterMap fun place =>
          (node.line? ((0 + slot) :: place)).bind fun line => schema.issueAt? (above ++ line)) =
        child.issues schema (some node) (above.map Node.label ++ [node.label]) := by
      intro slot child hslot
      have hmem : child ∈ node.selections :=
        List.mem_filterMap.2 ⟨_, List.mem_of_getElem? hslot, rfl⟩
      have hchild := ih child hmem (above ++ [node])
      rw [List.getLast?_concat, List.map_append] at hchild
      rw [Nat.zero_add]
      simp only [Node.line?_cons hslot, Option.bind_map, Function.comp_def]
      simpa using hchild.symm
    rw [Node.issues_eq, Node.places_eq, List.filterMap_cons, filterMap_slotPlaces _ _ hbelow,
      Node.selections, Node.line?, Option.bind_some, issueAt?_append_singleton, Visit.issue?,
      List.map_append]
    cases node.issue? schema above.getLast? <;> rfl

/-! ### The issues of a subtree -/

theorem issues_under (parent : Option Node) (labels above : List String) (node : Node) :
    node.issues schema parent (labels ++ above) =
      (node.issues schema parent above).map (TreeIssue.under labels) := by
  induction node using Node.inductionOnSelections generalizing parent above with
  | step node ih =>
    have hbelow : (node.selections.flatMap fun child =>
          child.issues schema (some node) (labels ++ above ++ [node.label])) =
        node.selections.flatMap fun child =>
          (child.issues schema (some node) (above ++ [node.label])).map (TreeIssue.under labels) := by
      apply List.flatMap_congr
      intro child hchild
      rw [List.append_assoc, ih child hchild]
    rw [Node.issues_eq, Node.issues_eq, hbelow, List.map_append, List.map_flatMap, Visit.issue?,
      Visit.issue?]
    cases node.issue? schema parent <;> simp [TreeIssue.under]

theorem filter_slotPlaces {first slot : Nat} {slots : List (Option Node)} {child : Node}
    (h : slots[slot]? = some (some child)) (place : List Nat) :
    (Node.slotPlaces first slots).filter (((first + slot) :: place).isPrefixOf ·) =
      (child.places.filter (place.isPrefixOf ·)).map ((first + slot) :: ·) := by
  induction slots generalizing first slot with
  | nil => cases h
  | cons entry rest ih =>
    cases slot with
    | zero =>
      cases h
      -- The places in later slots begin with a larger number.
      have hlater : (Node.slotPlaces (first + 1) rest).filter ((first :: place).isPrefixOf ·) = [] := by
        rw [List.filter_eq_nil_iff]
        intro other hother
        obtain ⟨slot, node, below, _, _, rfl⟩ := Node.mem_slotPlaces_iff.1 hother
        simp only [List.isPrefixOf, Bool.and_eq_true, beq_iff_eq, not_and]
        omega
      rw [Node.slotPlaces, List.filter_append, Nat.add_zero, hlater, List.append_nil,
        List.filter_map]
      simp [Function.comp_def, List.isPrefixOf]
    | succ slot =>
      have hrest := @ih (first + 1) slot h
      rw [show first + 1 + slot = first + (slot + 1) by omega] at hrest
      cases entry with
      | none =>
        rw [Node.slotPlaces, hrest]
      | some node =>
        have hfirst : (node.places.map (first :: ·)).filter
            (((first + (slot + 1)) :: place).isPrefixOf ·) = [] := by
          rw [List.filter_eq_nil_iff]
          intro other hother
          obtain ⟨below, _, rfl⟩ := List.mem_map.1 hother
          simp only [List.isPrefixOf, Bool.and_eq_true, beq_iff_eq, not_and]
          omega
        rw [Node.slotPlaces, List.filter_append, hfirst, List.nil_append, hrest]

/-- The places at or below the place of a node are those of its subtree, with the same lines below
it. -/
theorem filter_places {root node : Node} {above : List Node} {place : List Nat}
    (h : root.line? place = some (above ++ [node])) :
    root.places.filter (place.isPrefixOf ·) = node.places.map (place ++ ·) ∧
      ∀ below, root.line? (place ++ below) = (node.line? below).map (above ++ ·) := by
  induction place generalizing root above with
  | nil =>
    rw [Node.line?, Option.some.injEq] at h
    obtain ⟨rfl, hnode⟩ := @List.append_inj' _ [] _ _ _ h rfl
    cases hnode
    simp
  | cons slot rest ih =>
    rw [Node.line?] at h
    split at h
    · next child hslot =>
      obtain ⟨line, hline, heq⟩ := Option.map_eq_some_iff.1 h
      obtain ⟨tail, rfl⟩ := Node.exists_cons_of_line? hline
      cases above with
      | nil => simp at heq
      | cons first above =>
        obtain ⟨rfl, hrest⟩ := List.cons.inj heq
        rw [hrest] at hline
        obtain ⟨hplaces, hlines⟩ := ih hline
        have hfirst := @filter_slotPlaces 0 slot root.children child hslot rest
        rw [Nat.zero_add] at hfirst
        refine ⟨?_, ?_⟩
        · rw [Node.places_eq, List.filter_cons_of_neg (by simp), hfirst, hplaces, List.map_map]
          rfl
        · intro below
          rw [List.cons_append, Node.line?_cons hslot, hlines, Option.map_map]
          rfl
    · cases h

/-- The check of a tree judges the nodes in preorder, each of them once, by itself and under its
direct parent, and whatever is wrong above it. The issues at a node and below it follow from the
subtree and the direct parent, and only their paths tell where the subtree is. -/
theorem validate_eq_filterMap_places (schema : Schema) (root : Node) :
    (schema.validate root = root.places.filterMap fun place =>
      (root.line? place).bind schema.issueAt?) ∧
    root.places.Pairwise (· < ·) ∧
    (∀ place, place ∈ root.places ↔ ∃ line, root.line? place = some line) ∧
    (∀ line issue, schema.issueAt? line = some issue ↔ schema.Fault line issue) ∧
    ∀ place above node, root.line? place = some (above ++ [node]) →
      ((root.places.filter (place.isPrefixOf ·)).filterMap fun below =>
        (root.line? below).bind schema.issueAt?) =
      (node.issues schema above.getLast? []).map (TreeIssue.under (above.map Node.label)) := by
  have hroot := @issues_eq_filterMap_places schema root []
  refine ⟨hroot, root.pairwise_places, fun _ => Node.mem_places_iff,
    fun _ _ => issueAt?_eq_some_iff, ?_⟩
  intro place above node hline
  obtain ⟨hplaces, hlines⟩ := filter_places hline
  rw [← issues_under, List.append_nil, issues_eq_filterMap_places, hplaces, List.filterMap_map]
  simp only [Function.comp_def, hlines, Option.bind_map]

end Schema

end QueryTree
