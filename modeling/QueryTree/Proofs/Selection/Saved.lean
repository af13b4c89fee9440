import QueryTree.Proofs.Json.Reading
import QueryTree.Selection.Json
import QueryTree.Selection.Query

/-! # Saved trees are read back

The JSON text of a tree is read back as the tree. Only one thing is lost: the value `null` of an
argument comes back as no value, which makes no difference to the query. -/

namespace QueryTree

open Json (Legible)
open Reader (Finds Takes TakesAll)

/-! ## What comes back -/

/-- The argument without the value `null`. -/
def Argument.reread (argument : Argument) : Argument :=
  { argument with value := argument.value.filter fun value => !value.isNull }

namespace Node

mutual

/-- The tree without the value `null` in its arguments. -/
def reread : Node → Node
  | ⟨endpointUrl, name, parentTypeName, isObject, arguments, children⟩ =>
    ⟨endpointUrl, name, parentTypeName, isObject, arguments.map Argument.reread,
      rereadSlots children⟩

def rereadSlots : List (Option Node) → List (Option Node)
  | [] => []
  | none :: rest => none :: rereadSlots rest
  | some child :: rest => some child.reread :: rereadSlots rest

end

/-- An argument in the tree has the value. -/
def Holds (node : Node) (value : Json) : Prop :=
  ∃ inner, node.Contains inner ∧ ∃ argument ∈ inner.arguments, argument.value = some value

theorem rereadSlots_eq_map (children : List (Option Node)) :
    rereadSlots children = children.map (Option.map reread) := by
  induction children with
  | nil => rfl
  | cons slot rest ih => cases slot <;> simp [rereadSlots, ih]

/-- An empty slot is written as `null`. -/
def slotToJson (slot : Option Node) : Json := (slot.map toJson).getD .null

theorem childrenToJson_eq_map (children : List (Option Node)) :
    childrenToJson children = children.map slotToJson := by
  induction children with
  | nil => rfl
  | cons slot rest ih => cases slot <;> simp [childrenToJson, slotToJson, ih]

theorem mem_selections_of_mem_children {node child : Node} (h : some child ∈ node.children) :
    child ∈ node.selections := List.mem_filterMap.2 ⟨_, h, rfl⟩

theorem Holds.selection {node child : Node} (hchild : child ∈ node.selections) {value : Json}
    (h : child.Holds value) : node.Holds value := by
  obtain ⟨inner, hinner, hargument⟩ := h
  exact ⟨inner, .deeper hchild hinner, hargument⟩

/-! ## The query -/

theorem spell_argument_reread (argument : Argument) : argument.reread.spell = argument.spell := by
  have hrender : Literal.render argument.reread.value argument.typeString argument.baseKind =
      Literal.render argument.value argument.typeString argument.baseKind := by
    unfold Argument.reread
    cases argument.value with
    | none => rfl
    | some value =>
      cases value with
      | null =>
        change Literal.null = Literal.coerced _ _ .null
        rw [Literal.coerced]
      | boolean | number | text | array | object => rfl
  rw [Argument.spell, Argument.spell, ← hrender]
  rfl

theorem spell_reread (node : Node) : node.reread.spell = node.spell := by
  induction node using inductionOnSelections with
  | step node ih =>
    obtain ⟨endpointUrl, name, parentTypeName, isObject, arguments, children⟩ := node
    have harguments : (arguments.map Argument.reread).map Argument.spell =
        arguments.map Argument.spell := by
      rw [List.map_map]
      exact List.map_congr_left fun argument _ => spell_argument_reread argument
    have hchildren : (rereadSlots children).filterMap id = (children.filterMap id).map reread := by
      rw [rereadSlots_eq_map, List.filterMap_map, List.map_filterMap]
      rfl
    have hselections : spellChildren (rereadSlots children) = spellChildren children := by
      rw [spellChildren_eq, spellChildren_eq, hchildren, List.map_map]
      exact List.map_congr_left ih
    simp only [reread, spell, spellArguments, List.isEmpty_map, harguments, hselections]

/-! ## What is written can be told from its text -/

theorem legible_argument_toJson {argument : Argument}
    (h : ∀ value, argument.value = some value → value.Legible) : argument.toJson.Legible := by
  have hvalue : (argument.value.getD .null).Legible := by
    cases hcase : argument.value with
    | none => exact Json.legible_null
    | some value => exact h value hcase
  refine Json.legible_object_iff.2 ?_
  cases argument.baseKind with
  | none => simp [Entries.keys, Json.legible_text, hvalue]
  | some kind => simp [Entries.keys, Json.legible_text, hvalue]

theorem legible_toJson {node : Node} (h : ∀ value, node.Holds value → value.Legible) :
    node.toJson.Legible := by
  induction node using inductionOnSelections with
  | step node ih =>
    have harguments : ∀ argument ∈ node.arguments, argument.toJson.Legible :=
      fun argument hargument => legible_argument_toJson fun value hvalue =>
        h value ⟨node, .self node, argument, hargument, hvalue⟩
    have hchildren : ∀ slot ∈ node.children, (slotToJson slot).Legible := by
      intro slot hslot
      cases slot with
      | none => exact Json.legible_null
      | some child =>
        have hchild := mem_selections_of_mem_children hslot
        exact ih child hchild fun value hvalue => h value (hvalue.selection hchild)
    have hparent : (Json.ofOption node.parentTypeName).Legible := by
      cases node.parentTypeName with
      | none => exact Json.legible_null
      | some name => exact Json.legible_text name
    obtain ⟨endpointUrl, name, parentTypeName, isObject, arguments, children⟩ := node
    rw [toJson, childrenToJson_eq_map]
    refine Json.legible_object_iff.2 ⟨by simp [Entries.keys], ?_⟩
    simp only [List.forall_mem_cons, List.not_mem_nil, false_imp_iff, implies_true, and_true]
    refine ⟨Json.legible_text _, Json.legible_text _, hparent, Json.legible_boolean _,
      Json.legible_array_iff.2 ?_, Json.legible_array_iff.2 ?_⟩
    · exact List.forall_mem_map.2 harguments
    · exact List.forall_mem_map.2 hchildren

end Node

/-! ## Reading -/

namespace Reader

open Node (reread rereadSlots_eq_map slotToJson mem_selections_of_mem_children)

variable {α δ : Type}

theorem finds_map {β : Type} {fuel : Nat} {reader : Reader α} {value : Json} {result : α}
    (h : Finds fuel reader value result) (f : α → β) :
    Finds fuel (fun text => do
      let (found, rest) ← reader text
      .ok (f found, rest)) value (f result) := by
  intro blank text rest hblank htext hfuel hrest
  have hread := h hblank htext hfuel hrest
  simp only [hread, bind, Except.bind]

/-- A member of a record is stored if it is the first one of its field. -/
theorem takes_field {fuel : Nat} {fields : List (Field δ)} {key : String} {required : Bool}
    {isSet : δ → Bool} {reader : Reader α} {store : δ → α → δ} {draft : δ} {value : Json}
    {result : α}
    (hfield : fields.find? (fun field => field.key = key) =
      some ⟨key, required, isSet, into reader store⟩)
    (hnew : isSet draft = false) (h : Finds fuel reader value result) :
    Takes fuel (readMember fuel fields) draft (key, value) (store draft result) := by
  exact takes_readMember hfield hnew (finds_map h (store draft))

theorem finds_readTypeKind (fuel : Nat) (kind : TypeKind) (deeper : Bool) :
    Finds fuel (readTypeKind deeper) (.text kind.name) kind := by
  intro blank text rest hblank htext hfuel hrest
  have hname : TypeKind.ofName? kind.name = some kind := TypeKind.ofName?_name kind
  revert hname
  generalize kind.name = name at htext
  intro hname
  cases htext with
  | @text inner value h =>
    have hread := Text.readText_append h rest
    rw [List.cons_append, List.append_assoc, readTypeKind, skipSpace_append_cons hblank (by decide)]
    simp [readKindName, hread, hname, bind, Except.bind]

/-- The value of an argument comes back unless it is `null`. -/
theorem finds_argument_value (fuel : Nat) {depth : Nat} (argument : Argument)
    (h : (argument.value.getD .null).depth ≤ depth) :
    Finds fuel (readOptional (readValue fuel depth)) (argument.value.getD .null)
      argument.reread.value := by
  have hnull := finds_readOptional_null fuel (readValue fuel depth)
  unfold Argument.reread
  cases hvalue : argument.value with
  | none => exact hnull
  | some value =>
    rw [hvalue] at h
    cases value with
    | null => exact hnull
    | boolean | number | text | array | object =>
      exact finds_readOptional nofun (finds_readValue fuel h)

theorem finds_readArgument (fuel : Nat) {argument : Argument} {depth : Nat}
    (h : argument.toJson.depth ≤ depth) :
    Finds fuel (readArgument fuel depth) argument.toJson argument.reread := by
  obtain ⟨name, typeString, baseKind, value⟩ := argument
  obtain ⟨depth, rfl⟩ := Nat.exists_eq_add_of_le' (Nat.le_trans (Nat.le_add_left 1 _) h)
  have hdepth : (value.getD .null).depth ≤ depth :=
    Json.membersDepth_le_iff.1 (Nat.le_of_succ_le_succ h) ("value", value.getD .null) (by simp)
  have hvalue := finds_argument_value fuel ⟨name, typeString, baseKind, value⟩ hdepth
  have hall : TakesAll fuel (readMember fuel (argumentFields fuel depth)) ⟨none, none, none, none⟩
      ([("name", .text name), ("typeString", .text typeString)] ++
        (baseKind.map fun kind => ("baseKind", Json.text kind.name)).toList ++
        [("value", value.getD .null)])
      ⟨some name, some typeString, baseKind.map some,
        some (Argument.reread ⟨name, typeString, baseKind, value⟩).value⟩ := by
    refine .cons (takes_field rfl rfl (finds_readString fuel name)) ?_
    refine .cons (takes_field rfl rfl (finds_readString fuel typeString)) ?_
    cases baseKind with
    | none =>
      exact .cons (takes_field rfl rfl hvalue) (.nil _)
    | some kind =>
      have htext : Json.text kind.name ≠ .null := nofun
      have hkind := finds_readOptional htext (finds_readTypeKind fuel kind (depth != 0))
      refine .cons (takes_field rfl rfl hkind) ?_
      exact .cons (takes_field rfl rfl hvalue) (.nil _)
  have hfinish : ArgumentDraft.finish ⟨some name, some typeString, baseKind.map some,
      some (Argument.reread ⟨name, typeString, baseKind, value⟩).value⟩ =
      Argument.reread ⟨name, typeString, baseKind, value⟩ := by
    cases baseKind <;> rfl
  rw [← hfinish]
  exact finds_map (finds_readRecord hall rfl "SelectionArgument") ArgumentDraft.finish

/-- A slot of a node comes back if the child in it does. -/
theorem finds_slot {fuel : Nat} {reader : Reader Node} {slot : Option Node}
    (h : ∀ child, slot = some child → Finds fuel reader child.toJson child.reread) :
    Finds fuel (readOptional reader) (slotToJson slot) (slot.map reread) := by
  cases slot with
  | none => exact finds_readOptional_null fuel reader
  | some child =>
    have hchild : child.toJson ≠ .null := by
      obtain ⟨_⟩ := child
      exact nofun
    exact finds_readOptional hchild (h child rfl)

theorem finds_readNode (fuel : Nat) {node : Node} {depth : Nat} (h : node.toJson.depth ≤ depth) :
    Finds fuel (readNode fuel depth) node.toJson node.reread := by
  induction node using Node.inductionOnSelections generalizing depth with
  | step node ih =>
    obtain ⟨endpointUrl, name, parentTypeName, isObject, arguments, children⟩ := node
    rw [Node.toJson, Node.childrenToJson_eq_map] at h ⊢
    obtain ⟨outer, rfl⟩ := Nat.exists_eq_add_of_le' (Nat.le_trans (Nat.le_add_left 1 _) h)
    have hmembers := Json.membersDepth_le_iff.1 (Nat.le_of_succ_le_succ h)
    have hargumentsDepth := hmembers ("arguments", .array (arguments.map Argument.toJson)) (by simp)
    have hchildrenDepth := hmembers ("children", .array (children.map slotToJson)) (by simp)
    -- The arrays of arguments and children are a second level, even where they are empty.
    obtain ⟨depth, rfl⟩ :=
      Nat.exists_eq_add_of_le' (Nat.le_trans (Nat.le_add_left 1 _) hargumentsDepth)
    have hargument := List.forall_mem_map.1
      (Json.itemsDepth_le_iff.1 (Nat.le_of_succ_le_succ hargumentsDepth))
    have hslot := List.forall_mem_map.1
      (Json.itemsDepth_le_iff.1 (Nat.le_of_succ_le_succ hchildrenDepth))
    have harguments : List.Forall₂ (Finds fuel (readArgument fuel depth))
        (arguments.map Argument.toJson) (arguments.map Argument.reread) := by
      rw [List.forall₂_map_left_iff, List.forall₂_map_right_iff, List.forall₂_same]
      exact fun argument hmem => finds_readArgument fuel (hargument argument hmem)
    have hchildren : List.Forall₂ (Finds fuel (readOptional (readNode fuel depth)))
        (children.map slotToJson) (children.map (Option.map reread)) := by
      rw [List.forall₂_map_left_iff, List.forall₂_map_right_iff, List.forall₂_same]
      intro slot hmem
      refine finds_slot fun child hchild => ?_
      subst hchild
      exact ih child (mem_selections_of_mem_children hmem) (hslot _ hmem)
    have hparent : Finds fuel (readOptional readString) (Json.ofOption parentTypeName)
        parentTypeName := by
      cases parentTypeName with
      | none => exact finds_readOptional_null fuel readString
      | some name => exact finds_readOptional nofun (finds_readString fuel name)
    have hall : TakesAll fuel (readMember fuel (nodeFields fuel (some (readArgument fuel depth))
        (some (readOptional (readNode fuel depth))))) ⟨none, none, none, none, none, none⟩
        [("endpointUrl", .text endpointUrl), ("name", .text name),
          ("parentTypeName", .ofOption parentTypeName), ("isObject", .boolean isObject),
          ("arguments", .array (arguments.map Argument.toJson)),
          ("children", .array (children.map slotToJson))]
        ⟨some endpointUrl, some name, some parentTypeName, some isObject,
          some (arguments.map Argument.reread), some (children.map (Option.map reread))⟩ := by
      refine .cons (takes_field rfl rfl (finds_readString fuel endpointUrl)) ?_
      refine .cons (takes_field rfl rfl (finds_readString fuel name)) ?_
      refine .cons (takes_field rfl rfl hparent) ?_
      refine .cons (takes_field rfl rfl (finds_readBoolean fuel isObject)) ?_
      refine .cons (takes_field rfl rfl (finds_readArray harguments)) ?_
      exact .cons (takes_field rfl rfl (finds_readArray hchildren)) (.nil _)
    have hfinish : NodeDraft.finish ⟨some endpointUrl, some name, some parentTypeName,
        some isObject, some (arguments.map Argument.reread),
        some (children.map (Option.map reread))⟩ =
        reread ⟨endpointUrl, name, parentTypeName, isObject, arguments, children⟩ := by
      rw [reread, rereadSlots_eq_map]
      rfl
    rw [← hfinish]
    exact finds_map (finds_readRecord hall rfl "SelectionNode") NodeDraft.finish

end Reader

/-! ## The round trip -/

/-- The tree is read back from what either printer writes, and asks for the same as before. -/
theorem Node.ofText?_toJson {node : Node} (hdepth : node.toJson.depth ≤ Reader.maxDepth)
    (hvalues : ∀ value, node.Holds value → value.Legible) :
    Node.ofText? node.toJson.toText = .ok node.reread ∧
    Node.ofText? node.toJson.toLines = .ok node.reread ∧
    node.reread.query = node.query := by
  have hlegible := legible_toJson hvalues
  have hread : ∀ {text : List Char}, Json.Spells text node.toJson →
      Node.ofText? (String.ofList text) = .ok node.reread := by
    intro text htext
    have hwhole := Reader.readWholeText_of_spells
      (fun fuel => Reader.finds_readNode fuel hdepth) Json.isBlank_nil htext Json.isBlank_nil
    rwa [List.nil_append, List.append_nil] at hwhole
  refine ⟨hread (Json.spells_spell hlegible), hread (Json.spells_indent 0 hlegible), ?_⟩
  rw [query, query, spell_reread]

/-! A fragment with an empty slot. The arguments of the field in it have an object that is not in the
order of its keys, the value `null` and no value. -/

namespace SavedSearch

/-- The double 1.5. -/
def oneAndAHalf : Decimal.Binary64 := ⟨false, 0x3FF8000000000000, by decide⟩

def filter : Json :=
  .object [("b", .array [.number (.whole (-7) (by decide)), .array [.null, .text "\"\n"]]),
    ("a", .number (.real oneAndAHalf))]

def search : Node :=
  ⟨"http://a.test/", "search", some "Query", true,
    [⟨"filter", "Filter", some .inputObject, some filter⟩, ⟨"after", "String", none, some .null⟩,
      ⟨"first", "Int!", none, none⟩], []⟩

def tree : Node := ⟨"http://a.test/", "Query", none, true, [], [none, some search]⟩

theorem legible_filter : filter.Legible := by
  have hreal : (Number.real oneAndAHalf).ReadsBack := by decide +kernel
  simp [filter, Json.legible_object_iff, Json.legible_array_iff, Json.legible_number_iff,
    Json.legible_null, Json.legible_text, Entries.keys, hreal]

theorem ofText?_toJson_tree :
    tree.toJson.depth = 8 ∧ tree.reread.arguments = [] ∧
    search.reread.arguments =
      [⟨"filter", "Filter", some .inputObject, some filter⟩, ⟨"after", "String", none, none⟩,
        ⟨"first", "Int!", none, none⟩] ∧
    Node.ofText? tree.toJson.toText = .ok tree.reread ∧
    Node.ofText? tree.toJson.toLines = .ok tree.reread ∧
    tree.reread.query = tree.query := by
  have hsearch : ∀ argument ∈ search.arguments, ∀ value, argument.value = some value →
      value.Legible := by
    simp [search, legible_filter, Json.legible_null]
  have harguments : ∀ inner, tree.Contains inner → ∀ argument ∈ inner.arguments,
      ∀ value, argument.value = some value → value.Legible := by
    refine (Node.forall_contains_iff tree).2 ⟨by simp [tree], ?_⟩
    intro child hchild
    obtain rfl : child = search := by simpa [tree, Node.selections] using hchild
    exact (Node.forall_contains_iff search).2 ⟨hsearch, by simp [search, Node.selections]⟩
  have hvalues : ∀ value, tree.Holds value → value.Legible := by
    rintro value ⟨inner, hinner, argument, hargument, hvalue⟩
    exact harguments inner hinner argument hargument value hvalue
  exact ⟨by decide, rfl, rfl, Node.ofText?_toJson (by decide) hvalues⟩

end SavedSearch

end QueryTree
