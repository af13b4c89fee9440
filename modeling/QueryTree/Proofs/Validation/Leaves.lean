import QueryTree.Proofs.Schema.Listed
import QueryTree.Proofs.Selection.Unambiguous
import QueryTree.Proofs.Validation.Typing

/-! # Selections below leaves

The text of a tree leaves out whatever is below a node without selections of its own, and the check
of a tree does not ask whether there is anything, but only whether it fits. Where the listing gives
leaf types no fields, little fits: the field for the type's name, which every type has, and fragments
on the leaf's type. -/

namespace QueryTree

/-! ## Counting -/

namespace Outline

mutual

/-- The number of selections that the outline shows. -/
def size : Outline → Nat
  | .leaf _ => 1
  | .object _ selections => sizeAll selections + 1

def sizeAll : List Outline → Nat
  | [] => 0
  | selection :: rest => selection.size + sizeAll rest

end

theorem sizeAll_eq (selections : List Outline) : sizeAll selections = (selections.map size).sum := by
  induction selections with
  | nil => rfl
  | cons selection rest ih => rw [sizeAll, ih, List.map_cons, List.sum_cons]

end Outline

theorem sum_map_le_and_eq_iff {α : Type} {f g : α → Nat} {items : List α}
    (h : ∀ item ∈ items, f item ≤ g item) :
    (items.map f).sum ≤ (items.map g).sum ∧
      ((items.map f).sum = (items.map g).sum ↔ ∀ item ∈ items, f item = g item) := by
  induction items with
  | nil => simp
  | cons item rest ih =>
    have hitem := h item List.mem_cons_self
    obtain ⟨hle, heq⟩ := ih fun other hother => h other (List.mem_cons_of_mem _ hother)
    simp only [List.map_cons, List.sum_cons, List.forall_mem_cons, ← heq]
    omega

namespace Node

theorem length_visits (parent : Option Node) (above : List String) (node : Node) :
    (node.visits parent above).length = node.walk.length := by
  induction node using inductionOnSelections generalizing parent above with
  | step node ih =>
    rw [walk, visits_eq, visits_eq, List.length_cons, List.length_cons, List.length_flatMap,
      List.length_flatMap]
    congr 2
    exact List.map_congr_left fun child hchild =>
      (ih child hchild _ _).trans (ih child hchild _ _).symm

theorem length_walk (node : Node) :
    node.walk.length = (node.selections.map fun child => child.walk.length).sum + 1 := by
  rw [walk, visits_eq, List.length_cons, List.length_flatMap]
  simp only [length_visits]

/-- No node without selections of its own has a filled child. -/
def LeavesBare (root : Node) : Prop :=
  ∀ node, root.Contains node → node.isObject = false → node.selections = []

theorem size_outline_le_and_eq_iff (root : Node) :
    root.outline.size ≤ root.walk.length ∧
      (root.outline.size = root.walk.length ↔ root.LeavesBare) := by
  induction root using inductionOnSelections with
  | step node ih =>
    rw [LeavesBare, forall_contains_iff, outline_eq, length_walk]
    cases hobject : node.isObject with
    | false =>
      -- The outline stops here, so it is complete only if the walk ends here too.
      cases hlist : node.selections with
      | nil => simp [Outline.size]
      | cons child rest =>
        have hchild := child.length_walk
        rw [if_neg Bool.false_ne_true, Outline.size, List.map_cons, List.sum_cons]
        refine ⟨by omega, iff_of_false (by omega) ?_⟩
        rintro ⟨hnone, _⟩
        exact List.cons_ne_nil child rest (hnone rfl)
    | true =>
      obtain ⟨hle, heq⟩ := sum_map_le_and_eq_iff fun child hchild => (ih child hchild).1
      have hbelow : (∀ child ∈ node.selections, child.outline.size = child.walk.length) ↔
          ∀ child ∈ node.selections, child.LeavesBare :=
        forall₂_congr fun child hchild => (ih child hchild).2
      rw [if_pos rfl, Outline.size, Outline.sizeAll_eq, List.map_map]
      refine ⟨Nat.succ_le_succ hle, ?_⟩
      rw [Nat.succ_inj, Function.comp_def, heq, hbelow]
      simp only [LeavesBare, Bool.true_eq_false, false_imp_iff, true_and]

end Node

/-! ## Listings with plain leaves -/

def leafKinds : List TypeKind := [.scalar, .enum, .inputObject]

namespace Listing

/-- Types of leaf kinds are listed without fields. -/
def LeavesPlain (listing : Listing) : Prop :=
  ∀ listed ∈ listing.types, listed.kind ∈ leafKinds → listed.fields.getD [] = []

/-- The bases of the listed fields' types are listed. -/
def BasesListed (listing : Listing) : Prop :=
  ∀ listed ∈ listing.types, ∀ field ∈ listed.fields.getD [], ∀ type, field.type.Spells type →
    ∃ other ∈ listing.types, other.name = type.baseName

instance (listing : Listing) : Decidable listing.LeavesPlain :=
  inferInstanceAs (Decidable (∀ listed ∈ listing.types, listed.kind ∈ leafKinds →
    listed.fields.getD [] = []))

instance (listing : Listing) : Decidable listing.BasesListed :=
  inferInstanceAs (Decidable (∀ listed ∈ listing.types, ∀ field ∈ listed.fields.getD [],
    ∀ type, field.type.Spells type → ∃ other ∈ listing.types, other.name = type.baseName))

end Listing

theorem ListedType.Describes.eq_typename_of_hasField {listed : ListedType} {type : TypeDef}
    (h : listed.Describes type) (hplain : listed.fields.getD [] = []) {name : String}
    (hhas : type.hasField name = true) : name = typenameField := by
  have hmem := (Table.contains_iff ..).1 hhas
  rw [h.order, hplain, List.mem_eraseDups] at hmem
  exact List.mem_singleton.1 hmem

section Built

variable {listing : Listing} {schema : Schema}

theorem Listing.Describes.hasType (h : listing.Describes schema) {listed : ListedType}
    (hlisted : listed ∈ listing.types) : schema.hasType listed.name = true := by
  apply (Table.contains_iff ..).2
  rw [h.order, List.mem_eraseDups]
  exact List.mem_append_left _ (List.mem_map_of_mem hlisted)

theorem Listing.eq_typename_of_hasField (hbuilt : listing.toSchema = .ok schema)
    (hplain : listing.LeavesPlain) {typeName : String} {type : TypeDef}
    (htype : schema.type? typeName = some type) (hkind : type.kind ∈ leafKinds) {name : String}
    (hhas : type.hasField name = true) : name = typenameField := by
  obtain ⟨_, rfl⟩ | ⟨listed, hlisted, hdef, _⟩ := Listing.type_cases hbuilt htype
  · have hobject : TypeKind.object ∉ leafKinds := by decide
    exact absurd hkind hobject
  · have hdescribes := ListedType.describes_of_toDef hdef
    rw [hdescribes.kind] at hkind
    exact hdescribes.eq_typename_of_hasField (hplain listed hlisted hkind) hhas

/-- The type of a leaf field is known, except perhaps where the field is for a type's name. -/
theorem Listing.hasType_of_leafField (hbuilt : listing.toSchema = .ok schema)
    (hbases : listing.BasesListed) {typeName name : String} {type : TypeDef} {field : FieldDef}
    (htype : schema.type? typeName = some type) (hfield : type.field? name = some field)
    (hleaf : field.type.baseKind.hasSelections = false) :
    schema.hasType field.type.baseName = true ∨
      (name = typenameField ∧ field.type.baseName = "String") := by
  obtain ⟨_, rfl⟩ | ⟨listed, hlisted, hdef, _⟩ := Listing.type_cases hbuilt htype
  · obtain ⟨_, _, _, rfl⟩ := Listing.exists_entryPoint_of_field? hfield
    cases hleaf
  · have hdescribes := ListedType.describes_of_toDef hdef
    by_cases htypename : name = typenameField
    · obtain ⟨own, hown, hstring, _⟩ := hdescribes.typename
      rw [htypename, hown, Option.some.injEq] at hfield
      subst hfield
      exact Or.inr ⟨htypename, by rw [hstring]; rfl⟩
    -- The field says what is listed last under its name, and that is one of the listed fields.
    · obtain ⟨last, hlast, hlastDescribes⟩ := hdescribes.fields name field htypename hfield
      obtain ⟨other, hother, hname⟩ :=
        hbases listed hlisted last (ListedType.mem_of_lastField? hlast) _ hlastDescribes.type
      rw [← hname]
      exact Or.inl ((Listing.describes_of_toSchema hbuilt).hasType hother)

end Built

/-! ## Below a leaf -/

/-- What fits below a leaf that stands for a type. Other fields than that for the type's name fit
only where the type is not recorded as a leaf. If the type is unknown then everything fits, but this
can only be the type `String` of the fields for the types' names. -/
inductive Schema.FitsBelowLeaf (schema : Schema) (typeName : String) (leaf child : Node) : Prop
  | field {type : TypeDef} (htype : schema.type? typeName = some type)
    (howner : child.parentTypeName = some typeName) (hfield : type.hasField child.name = true)
    (hname : child.name = typenameField ∨ type.kind ∉ leafKinds)
  | fragment {type : TypeDef} (htype : schema.type? typeName = some type)
    (hfragment : child.parentTypeName = none) (haccepts : type.acceptsFragment child.name = true)
  | unlisted (hnone : schema.type? typeName = none) (hstring : typeName = "String")
    (hleaf : leaf.isFragment = false ∧ leaf.name = typenameField)

namespace Schema

variable {listing : Listing} {schema : Schema} {leaf child : Node} {found : Resolution}

theorem typename_of_unlisted (hbuilt : listing.toSchema = .ok schema)
    (hbases : listing.BasesListed) (hfound : leaf.resolve schema = .ok found)
    (hleaf : leaf.isObject = false) (hnone : schema.type? found.baseType = none) :
    found.baseType = "String" ∧ leaf.isFragment = false ∧ leaf.name = typenameField := by
  obtain ⟨htarget, hshape⟩ := (Node.resolve_eq_ok_iff ..).1 hfound
  rw [hleaf] at hshape
  cases hparent : leaf.parentTypeName with
  | none =>
    obtain ⟨type, htype, rfl⟩ := Node.target_of_fragment hparent htarget
    rw [Listing.named_of_toSchema hbuilt _ _ htype, htype] at hnone
    cases hnone
  | some owner =>
    obtain ⟨type, field, htype, hfield, rfl⟩ := Node.target_of_field hparent htarget
    rcases Listing.hasType_of_leafField hbuilt hbases htype hfield hshape with
      hhas | ⟨hname, hstring⟩
    · rw [hasType, hnone] at hhas
      cases hhas
    · exact ⟨hstring, by simp [Node.isFragment, hparent], hname⟩

theorem canAttach_leaf_iff (hbuilt : listing.toSchema = .ok schema) (hplain : listing.LeavesPlain)
    (hbases : listing.BasesListed) (hfound : leaf.resolve schema = .ok found)
    (hleaf : leaf.isObject = false) :
    schema.canAttach child leaf = true ↔ schema.FitsBelowLeaf found.baseType leaf child := by
  unfold canAttach
  simp only [hfound]
  constructor
  · intro hfits
    cases htype : schema.type? found.baseType with
    | none =>
      obtain ⟨hstring, htypename⟩ := typename_of_unlisted hbuilt hbases hfound hleaf htype
      exact .unlisted htype hstring htypename
    | some type =>
      simp only [htype] at hfits
      cases howner : child.parentTypeName with
      | none =>
        rw [howner] at hfits
        exact .fragment htype howner hfits
      | some owner =>
        simp only [howner, Bool.and_eq_true, beq_iff_eq] at hfits
        obtain ⟨rfl, hfield⟩ := hfits
        refine .field htype howner hfield (Or.symm (Decidable.not_or_of_imp fun hkind => ?_))
        exact Listing.eq_typename_of_hasField hbuilt hplain htype hkind hfield
  · rintro (⟨htype, howner, hfield, _⟩ | ⟨htype, hfragment, haccepts⟩ | ⟨hnone, _, _⟩)
    · simp [htype, howner, hfield]
    · simp [htype, hfragment, haccepts]
    · simp [hnone]

/-- In a clean tree the text shows at most as many selections as the tree has filled nodes, and it
shows all of them just if nothing is below a leaf. What is there is a field for the name of the
leaf's type or a fragment on that type, unless the listing names no type `String` or contradicts
itself about the kind of a type. -/
theorem selections_of_validate_eq_nil {value : Json} {listing : Listing}
    (hread : Listing.ofJson value = .ok listing) (hplain : listing.LeavesPlain)
    (hbases : listing.BasesListed) (haccepted : Schema.ofJson value = .ok schema) {root : Node}
    (hclean : schema.validate root = []) :
    (∀ leaf child, root.Contains leaf → leaf.isObject = false → child ∈ leaf.selections →
      ∃ found, leaf.resolve schema = .ok found ∧
        schema.FitsBelowLeaf found.baseType leaf child) ∧
    (root.outline.size ≤ root.walk.length ∧
      (root.outline.size = root.walk.length ↔ root.LeavesBare)) ∧
    String.ofList root.outline.spell = root.query ∧
    (root.HasNames → Outline.ofText? root.query = some root.outline) := by
  have hbuilt : listing.toSchema = .ok schema := by
    obtain ⟨other, hother, hbuilt⟩ := exists_listing_of_ofJson haccepted
    rw [hread, Except.ok.injEq] at hother
    rwa [hother]
  refine ⟨?_, root.size_outline_le_and_eq_iff, ?_, ?_⟩
  · intro leaf child hcontains hleaf hchild
    obtain ⟨hroot, hedges⟩ := (validate_eq_nil_iff ..).1 hclean
    obtain ⟨found, hfound⟩ := hedges.exists_resolve hroot hcontains
    obtain ⟨_, hfits⟩ := hedges leaf child hcontains hchild
    exact ⟨found, hfound, (canAttach_leaf_iff hbuilt hplain hbases hfound hleaf).1 hfits⟩
  · rw [Node.spell_outline, Node.query]
  · intro hnames
    exact Outline.ofText?_of_spells (Node.spells_query hnames)

end Schema

/-! ## Queries that lose a selection -/

namespace LossyQueries

open UserListing (reference field)

/-- An interface and its only object, below the query type. One field of the object calls the object
a scalar. -/
def value : Json :=
  .object [("queryType", .object [("name", .text "Query")]), ("types", .array [
    .object [("kind", .text "OBJECT"), ("name", .text "Query"),
      ("fields", .array [field "node" (reference .interface "Node")])],
    .object [("kind", .text "INTERFACE"), ("name", .text "Node"),
      ("possibleTypes", .array [reference .object "User"])],
    .object [("kind", .text "OBJECT"), ("name", .text "User"),
      ("fields", .array [field "id" (reference .scalar "ID"),
        field "self" (reference .scalar "User")])],
    .object [("kind", .text "SCALAR"), ("name", .text "ID")]])]

def query (selection : Node) : Node :=
  (Node.objectField "http://a" rootName "query").addChild
    ((Node.objectField "http://a" "Query" "node").addChild selection)

def userQuery (name : String) (selection : Node) : Node :=
  query ((Node.fragment "http://a" "User").addChild
    ((Node.field "http://a" "User" name).addChild selection))

def userId : Node := Node.field "http://a" "User" "id"

/-- Below a leaf there is the name of its type, a fragment on its type, a field of a type that is no
leaf, and anything below the name of a type. -/
def queries : List Node :=
  [userQuery "id" (Node.field "http://a" "ID" typenameField),
    userQuery "id" ⟨"http://a", "ID", none, false, [], []⟩,
    userQuery "self" userId,
    query ((Node.field "http://a" "Node" typenameField).addChild userId)]

theorem selections_of_queries :
    ∃ schema, Schema.ofJson value = .ok schema ∧ ∀ root ∈ queries, schema.validate root = [] ∧
      ∀ leaf child, root.Contains leaf → leaf.isObject = false → child ∈ leaf.selections →
        ∃ found, leaf.resolve schema = .ok found ∧
          schema.FitsBelowLeaf found.baseType leaf child := by
  have hvalid : ∃ listing schema, Listing.ofJson value = .ok listing ∧
      Schema.ofJson value = .ok schema ∧ listing.LeavesPlain ∧ listing.BasesListed ∧
      ∀ root ∈ queries, schema.validate root = [] :=
    ⟨_, _, rfl, rfl, by decide, by decide, by decide⟩
  obtain ⟨listing, schema, hread, haccepted, hplain, hbases, hclean⟩ := hvalid
  refine ⟨schema, haccepted, fun root hroot => ⟨hclean root hroot, ?_⟩⟩
  obtain ⟨hbelow, _⟩ :=
    Schema.selections_of_validate_eq_nil hread hplain hbases haccepted (hclean root hroot)
  exact hbelow

/-- All of them are clean, something is below a leaf, and the text lacks a selection. -/
theorem clean_and_lossy :
    ∃ listing schema, Listing.ofJson value = .ok listing ∧ Schema.ofJson value = .ok schema ∧
      listing.LeavesPlain ∧ listing.BasesListed ∧
      ∀ root ∈ queries, schema.validate root = [] ∧ ¬ root.LeavesBare ∧
        root.outline.size < root.walk.length := by
  have hvalid : ∃ listing schema, Listing.ofJson value = .ok listing ∧
      Schema.ofJson value = .ok schema ∧ listing.LeavesPlain ∧ listing.BasesListed ∧
      ∀ root ∈ queries, schema.validate root = [] ∧ root.outline.size < root.walk.length :=
    ⟨_, _, rfl, rfl, by decide, by decide, by decide⟩
  obtain ⟨listing, schema, hread, haccepted, hplain, hbases, hlossy⟩ := hvalid
  refine ⟨listing, schema, hread, haccepted, hplain, hbases, ?_⟩
  intro root hroot
  obtain ⟨hclean, hless⟩ := hlossy root hroot
  refine ⟨hclean, ?_, hless⟩
  rw [← root.size_outline_le_and_eq_iff.2]
  exact Nat.ne_of_lt hless

end LossyQueries

end QueryTree
