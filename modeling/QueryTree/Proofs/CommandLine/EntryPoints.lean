import QueryTree.CommandLine.Run
import QueryTree.Proofs.Catalog.Entries
import QueryTree.Proofs.Registry.Traffic
import QueryTree.Proofs.Schema.Listed

/-! # Entry points on the command line

The command that checks a tree looks up the name of the tree's root among the root type's fields, and
leaves the rest to the check of the tree, which trusts the parent type that the root claims. So a
tree that begins somewhere else passes too if its root has the name of an operation. Where no other
type or field has such a name, the command accepts trees of the root type only. -/

namespace QueryTree

/-! ## Names of operations -/

namespace Schema

def IsOperation (schema : Schema) (name : String) : Prop :=
  ∃ target, (name, target) ∈ schema.operations

/-- No type has the name of an operation, and no field of a type other than the root has one. -/
def KeepsOperationNames (schema : Schema) : Prop :=
  ∀ name, schema.IsOperation name → schema.type? name = none ∧
    ∀ typeName type, schema.type? typeName = some type → type.hasField name = true →
      typeName = rootName

variable {schema : Schema}

/-- The fields of the root type are the operations, each of the type that the schema names for it. -/
theorem exists_root {value : Json} (haccepted : Schema.ofJson value = .ok schema) :
    ∃ root, schema.root? = some root ∧
      (∀ name, root.hasField name = true ↔ schema.IsOperation name) ∧
      ∀ name field, root.field? name = some field →
        ∃ target, (name, target) ∈ schema.operations ∧ field.type = .named .object target := by
  obtain ⟨listing, _, hbuilt⟩ := exists_listing_of_ofJson haccepted
  obtain ⟨root, hroot, _, _, hentries⟩ := (Listing.describes_of_toSchema hbuilt).root
  have hmem : ∀ name type,
      (name, type) ∈ root.fields.entries.map (fun entry => (entry.1, entry.2.type)) ↔
        (name, type) ∈ schema.operations.map
          fun operation => (operation.1, .named .object operation.2) := by
    intro name type
    rw [hentries]
  simp only [List.mem_map, Prod.exists, Prod.mk.injEq] at hmem
  have hfields : ∀ name field, root.field? name = some field →
      ∃ target, (name, target) ∈ schema.operations ∧ field.type = .named .object target := by
    intro name field hfield
    have hentry := (Entries.find?_eq_some_iff root.fields.nodup).1 hfield
    obtain ⟨_, target, htarget, rfl, htype⟩ := (hmem name field.type).1 ⟨name, field, hentry, rfl, rfl⟩
    exact ⟨target, htarget, htype.symm⟩
  refine ⟨root, hroot, fun name => ?_, hfields⟩
  rw [TypeDef.hasField, Option.isSome_iff_exists]
  constructor
  · rintro ⟨field, hfield⟩
    obtain ⟨target, htarget, _⟩ := hfields name field hfield
    exact ⟨target, htarget⟩
  · rintro ⟨target, htarget⟩
    obtain ⟨_, field, hentry, rfl, _⟩ := (hmem name _).2 ⟨name, target, htarget, rfl, rfl⟩
    exact ⟨field, (Entries.find?_eq_some_iff root.fields.nodup).2 hentry⟩

theorem validate_of_children_eq_nil {node : Node} (h : node.children = []) :
    schema.validate node = [] ↔ ∃ found, node.resolve schema = .ok found := by
  have hnone : node.selections = [] := by simp [Node.selections, h]
  rw [validate_eq_nil_iff, and_iff_left_iff_imp]
  rintro _ parent child hcontains hchild
  cases hcontains with
  | self => simp [hnone] at hchild
  | deeper hbelow => simp [hnone] at hbelow

end Schema

/-! ## What is loaded -/

theorem Fetch.exists_value_of_outcome {fetch : Fetch} {reply : Reply} {schema : Schema}
    (h : fetch.outcome reply = .ok schema) : ∃ value, Schema.ofJson value = .ok schema := by
  obtain ⟨request, _, hreply⟩ := (outcome_eq_ok_iff ..).1 h
  obtain ⟨_, _, _, _, _, hbody⟩ := (Request.outcome_eq_ok_iff ..).1 hreply
  exact Schema.exists_value_of_ofResponseText hbody

theorem Registry.schema_of_complete {registry : Registry} (htidy : registry.Tidy) {id : String}
    {fetch : Fetch} (hinstance : registry.endpoint? id = some fetch.url) {reply : Reply}
    {schema : Schema} (h : (registry.complete fetch reply).2 = .ok schema) :
    (registry.complete fetch reply).1.schema fetch.url = some schema := by
  have hused : registry.isUsed fetch.url = true := (isUsed_iff ..).2 ⟨id, hinstance⟩
  rw [schema_complete htidy, if_pos hused, h]
  simp [StepOutcome.schemaFor?]

namespace CommandLine

/-- The command line is on the endpoint, and the registry keeps the schema. -/
structure Holds (registry : Registry) (url : String) (schema : Schema) : Prop where
  isOn : registry.endpoint? instanceName = some url
  isKept : registry.schema url = some schema
  isAccepted : ∃ value, Schema.ofJson value = .ok schema

theorem holds_of_introspect {surroundings : Surroundings} {headers : Headers} {url : String}
    {schema : Schema} (h : (introspect surroundings headers url).schema = .ok schema) :
    Holds (introspect surroundings headers url).registry url schema := by
  have hnew := Registry.tidy_new headers
  have hneeded : (Registry.new headers).NeedsFetch url := ⟨rfl, List.not_mem_nil⟩
  -- A new registry has no schema yet, so the registration starts the fetch that brings it.
  obtain ⟨fetch, hfetch, rfl, _⟩ := Registry.register_of_needsFetch hnew hneeded instanceName
  have htidy : ((Registry.new headers).register instanceName fetch.url true).1.Tidy :=
    Registry.tidy_step hnew (.register instanceName fetch.url)
  have hinstances :=
    Registry.instances_register (Registry.new headers) instanceName fetch.url true
  unfold introspect at h ⊢
  cases hread : Url.ofEndpoint fetch.url with
  | error error =>
    simp only [hread] at h
    cases h
  | ok endpoint =>
    simp only [hread] at h ⊢
    generalize (Registry.new headers).register instanceName fetch.url true = result at *
    obtain ⟨registered, started⟩ := result
    obtain rfl := hfetch
    simp only at htidy hinstances h ⊢
    generalize (fetch.request.toOption.bind surroundings.reply?).getD .dropped = reply at h ⊢
    have hinstance : registered.endpoint? instanceName = some fetch.url := by
      rw [Registry.endpoint?, hinstances, Table.find?_insert_self]
    have hended : (registered.complete fetch reply).1.endpoint? instanceName = some fetch.url := by
      rw [Registry.endpoint?, Registry.instances_complete]
      exact hinstance
    cases houtcome : (registered.complete fetch reply).2 with
    | error error =>
      rw [houtcome] at h
      cases h
    | ok built =>
      rw [houtcome] at h
      cases h
      refine ⟨hended, Registry.schema_of_complete htidy hinstance houtcome, ?_⟩
      rw [Registry.complete_outcome] at houtcome
      exact Fetch.exists_value_of_outcome houtcome

/-! ## Accepted trees -/

/-- Among the entries for the root there is a field with the name and the parent type of the node. -/
def OffersRoot (registry : Registry) (node : Node) : Prop :=
  ∃ entry, .field entry ∈ registry.rootsOfInstance instanceName ∧ entry.name = node.name ∧
    some entry.parentTypeName = node.parentTypeName

theorem findings_eq_nil_iff_canAttach (registry : Registry) (url : String) (tree : Node) :
    findings registry url tree = [] ↔
      registry.canAttach tree (.query instanceName) = true ∧ registry.validate tree = [] := by
  simp [findings]

section Held

variable {registry : Registry} {url : String} {schema : Schema} {tree : Node}

theorem findings_eq_nil_iff (h : Holds registry url schema) (hurl : tree.endpointUrl = url) :
    findings registry url tree = [] ↔
      schema.IsOperation tree.name ∧ schema.validate tree = [] := by
  obtain ⟨hon, hkept, value, haccepted⟩ := h
  obtain ⟨root, hroot, hoperations, _⟩ := Schema.exists_root haccepted
  rw [findings_eq_nil_iff_canAttach]
  simp [Registry.canAttach, Registry.validate, hon, hkept, hurl, hroot, hoperations]

theorem offersRoot_iff (h : Holds registry url schema) :
    OffersRoot registry tree ↔
      schema.IsOperation tree.name ∧ tree.parentTypeName = some rootName := by
  obtain ⟨hon, hkept, value, haccepted⟩ := h
  obtain ⟨root, hroot, hoperations, _⟩ := Schema.exists_root haccepted
  have hnames := Schema.fieldsNamed_of_ofJson haccepted
  have hentries : registry.rootsOfInstance instanceName = schema.catalog rootName := by
    simp [Registry.rootsOfInstance, Registry.roots, Registry.catalog, hon, hkept]
  simp only [OffersRoot, hentries, Schema.field_mem_catalog_iff hnames, ← hoperations]
  constructor
  · rintro ⟨entry, ⟨type, field, htype, hfield, rfl⟩, hname, hparent⟩
    obtain rfl : root = type := Option.some.inj (hroot.symm.trans htype)
    rw [hname] at hfield
    exact ⟨Option.isSome_iff_exists.2 ⟨field, hfield⟩, hparent.symm⟩
  · rintro ⟨hhas, hparent⟩
    obtain ⟨field, hfield⟩ := Option.isSome_iff_exists.1 hhas
    have hname : field.name = tree.name := hnames rootName root hroot _ field hfield
    refine ⟨field.entry rootName, ⟨root, field, hroot, ?_, rfl⟩, hname, hparent.symm⟩
    change root.field? field.name = some field
    rw [hname]
    exact hfield

theorem resolve_of_root (h : Holds registry url schema) (hparent : tree.parentTypeName = some rootName)
    (hclean : schema.validate tree = []) :
    ∃ found, tree.resolve schema = .ok found ∧ found.baseKind = .object ∧
      (tree.name, found.baseType) ∈ schema.operations := by
  obtain ⟨_, _, value, haccepted⟩ := h
  obtain ⟨root, hroot, _, hfields⟩ := Schema.exists_root haccepted
  obtain ⟨⟨found, hfound⟩, _⟩ := (Schema.validate_eq_nil_iff ..).1 hclean
  refine ⟨found, hfound, ?_⟩
  have htarget := ((Node.resolve_eq_ok_iff ..).1 hfound).1
  obtain ⟨type, field, htype, hfield, rfl⟩ := Node.target_of_field hparent htarget
  obtain rfl : root = type := Option.some.inj (hroot.symm.trans htype)
  obtain ⟨target, hoperation, hnamed⟩ := hfields tree.name field hfield
  rw [hnamed]
  exact ⟨rfl, hoperation⟩

theorem keepsOperationNames_iff (h : Holds registry url schema) :
    schema.KeepsOperationNames ↔
      ∀ tree : Node, tree.endpointUrl = url → findings registry url tree = [] →
        tree.parentTypeName = some rootName := by
  constructor
  · intro hkeeps tree hurl hfindings
    obtain ⟨hoperation, hclean⟩ := (findings_eq_nil_iff h hurl).1 hfindings
    obtain ⟨hnone, hroot⟩ := hkeeps tree.name hoperation
    obtain ⟨⟨found, hfound⟩, _⟩ := (Schema.validate_eq_nil_iff ..).1 hclean
    have htarget := ((Node.resolve_eq_ok_iff ..).1 hfound).1
    cases hparent : tree.parentTypeName with
    | none =>
      obtain ⟨type, htype, _⟩ := Node.target_of_fragment hparent htarget
      rw [hnone] at htype
      cases htype
    | some owner =>
      obtain ⟨type, field, htype, hfield, _⟩ := Node.target_of_field hparent htarget
      rw [hroot owner type htype (Option.isSome_iff_exists.2 ⟨field, hfield⟩)]
  · intro hall name hoperation
    -- Whatever has the name stands for something as a tree of its own, without anything below it.
    have hbare : ∀ parentTypeName found, (⟨url, name, parentTypeName,
        found.baseKind.hasSelections, [], []⟩ : Node).target schema = .ok found →
          parentTypeName = some rootName := by
      intro parentTypeName found htarget
      refine hall ⟨url, name, parentTypeName, found.baseKind.hasSelections, [], []⟩ rfl ?_
      rw [findings_eq_nil_iff h rfl, Schema.validate_of_children_eq_nil rfl]
      exact ⟨hoperation, found, (Node.resolve_eq_ok_iff ..).2 ⟨htarget, rfl⟩⟩
    constructor
    · cases htype : schema.type? name with
      | none => rfl
      | some type =>
        cases hbare none ⟨type.name, type.kind, none⟩ (by simp [Node.target, htype])
    · intro typeName type htype hhas
      obtain ⟨field, hfield⟩ := Option.isSome_iff_exists.1 hhas
      exact Option.some.inj (hbare (some typeName)
        ⟨field.type.baseName, field.type.baseKind, some field⟩
        (by simp [Node.target, htype, hfield]))

end Held

/-- Of an endpoint whose schema has been loaded the command accepts just the clean trees whose root
has the name of an operation. If such a tree is of the root type then it is offered as a root and is
about the operation's own type, and otherwise it is not offered. All accepted trees are offered just
if nothing but an operation has the name of one. -/
theorem accepted_trees {surroundings : Surroundings} {headers : Headers} {url : String}
    {schema : Schema} (h : (introspect surroundings headers url).schema = .ok schema) :
    (∀ tree : Node, tree.endpointUrl = url →
      (findings (introspect surroundings headers url).registry url tree = [] ↔
        schema.IsOperation tree.name ∧ schema.validate tree = []) ∧
      (findings (introspect surroundings headers url).registry url tree = [] →
        (OffersRoot (introspect surroundings headers url).registry tree ↔
          tree.parentTypeName = some rootName) ∧
        (tree.parentTypeName = some rootName → ∃ found, tree.resolve schema = .ok found ∧
          found.baseKind = .object ∧ (tree.name, found.baseType) ∈ schema.operations))) ∧
    ((∀ tree : Node, tree.endpointUrl = url →
        findings (introspect surroundings headers url).registry url tree = [] →
          OffersRoot (introspect surroundings headers url).registry tree) ↔
      schema.KeepsOperationNames) := by
  have hholds := holds_of_introspect h
  generalize (introspect surroundings headers url).registry = registry at hholds ⊢
  refine ⟨fun tree hurl => ?_, ?_⟩
  · have haccepted := findings_eq_nil_iff hholds hurl
    refine ⟨haccepted, fun hfindings => ?_⟩
    obtain ⟨hoperation, hclean⟩ := haccepted.1 hfindings
    refine ⟨?_, fun hparent => resolve_of_root hholds hparent hclean⟩
    rw [offersRoot_iff hholds, and_iff_right hoperation]
  · rw [keepsOperationNames_iff hholds]
    refine forall₃_congr fun tree hurl hfindings => ?_
    obtain ⟨hoperation, _⟩ := (findings_eq_nil_iff hholds hurl).1 hfindings
    rw [offersRoot_iff hholds, and_iff_right hoperation]

end CommandLine

/-! ## A type with the name of an operation -/

namespace NamedLikeQuery

open CommandLine (Surroundings Loaded introspect findings OffersRoot)

def url : String := "http://[::1]"

/-- An object has the name of the operation, and it is not the query type. -/
def response : String :=
  "\x7b\"data\":\x7b\"__schema\":\x7b\"queryType\":\x7b\"name\":\"Query\"\x7d," ++
    "\"types\":[\x7b\"kind\":\"OBJECT\",\"name\":\"query\"\x7d]\x7d\x7d\x7d"

def surroundings : Surroundings where
  environment := none
  headersPath := ""
  headersFile := .absent
  file := fun _ => .absent
  input := .absent
  reply? := fun _ => some (.whole 200 response)

def loaded : Loaded := introspect surroundings .empty url

def query : Node := Node.objectField url rootName "query"

/-- The fragment `... on query { __typename }`. -/
def stray : Node := (Node.fragment url "query").addChild (Node.field url "query" typenameField)

theorem exists_schema :
    ∃ schema, loaded.schema = .ok schema ∧ schema.operations = [("query", "Query")] ∧
      schema.validate query = [] ∧ schema.validate stray = [] ∧
      ∃ found, stray.resolve schema = .ok found ∧ found.baseType = "query" := by
  decide +kernel

theorem accepted_query :
    ∃ schema, loaded.schema = .ok schema ∧ findings loaded.registry url query = [] ∧
      OffersRoot loaded.registry query := by
  obtain ⟨schema, hloaded, hoperations, hclean, _⟩ := exists_schema
  have hoperation : schema.IsOperation query.name :=
    ⟨"Query", by rw [hoperations]; exact List.mem_singleton_self _⟩
  obtain ⟨haccepted, hoffers⟩ := (CommandLine.accepted_trees hloaded).1 query rfl
  have hfindings := haccepted.2 ⟨hoperation, hclean⟩
  exact ⟨schema, hloaded, hfindings, (hoffers hfindings).1.2 rfl⟩

/-- The fragment is accepted too, although it is not offered and not about the query type. -/
theorem accepted_stray :
    ∃ schema, loaded.schema = .ok schema ∧ findings loaded.registry url stray = [] ∧
      stray.isFragment = true ∧ ¬ OffersRoot loaded.registry stray ∧
      ∃ found, stray.resolve schema = .ok found ∧
        (stray.name, found.baseType) ∉ schema.operations := by
  obtain ⟨schema, hloaded, hoperations, _, hclean, found, hfound, hbase⟩ := exists_schema
  have hholds := CommandLine.holds_of_introspect hloaded
  have hoperation : schema.IsOperation stray.name :=
    ⟨"Query", by rw [hoperations]; exact List.mem_singleton_self _⟩
  refine ⟨schema, hloaded, ?_, rfl, ?_, found, hfound, ?_⟩
  · exact (CommandLine.findings_eq_nil_iff hholds rfl).2 ⟨hoperation, hclean⟩
  · intro hoffers
    cases ((CommandLine.offersRoot_iff hholds).1 hoffers).2
  · rw [hoperations, hbase]
    decide

end NamedLikeQuery

end QueryTree
