import QueryTree.Proofs.Catalog.Growth
import QueryTree.Proofs.Schema.Listed

/-! # The fragment targets of the root

The root collects its targets while the listing is gone through, and the types of a schema are what
the listing says last under each name. So every object and interface of the schema is a target. But
where the listing names a type again, the root may list it twice, too late, or as something that the
schema does not have. -/

namespace QueryTree

/-! ## What is listed and what the schema has -/

/-- A type of this kind and name should be a target: it is an object or an interface, and its name
is none of introspection's own. -/
def IsTarget (kind : TypeKind) (name : String) : Prop :=
  (kind = .object ∨ kind = .interface) ∧ ¬ "__".toList <+: name.toList

instance (kind : TypeKind) (name : String) : Decidable (IsTarget kind name) :=
  inferInstanceAs (Decidable (_ ∧ _))

/-- The types that the root should list, each of its recorded kind. -/
def Schema.fragmentTypes (schema : Schema) : List TypeRef :=
  (schema.types.values.filter fun type =>
    type.name ≠ rootName ∧ IsTarget type.kind type.name).map fun type => .named type.kind type.name

def Listing.targets (listing : Listing) : List ListedType :=
  listing.types.filter fun listed => IsTarget listed.kind listed.name

/-- What is listed again does not change the targets: none of them is the root, each is of the kind
that is listed last under its name, and they stand in the order in which the listing names types
first, none twice. -/
structure Listing.KeepsTargets (listing : Listing) : Prop where
  notRoot : ∀ listed ∈ listing.targets, listed.name ≠ rootName
  kept : ∀ listed ∈ listing.targets, ∀ last ∈ listing.lastType? listed.name,
    last.kind = listed.kind
  order : (listing.targets.map ListedType.name).Sublist
    (listing.types.map ListedType.name).eraseDups

instance (listing : Listing) : Decidable listing.KeepsTargets :=
  decidable_of_iff ((∀ listed ∈ listing.targets, listed.name ≠ rootName) ∧
      (∀ listed ∈ listing.targets, ∀ last ∈ listing.lastType? listed.name,
        last.kind = listed.kind) ∧
      (listing.targets.map ListedType.name).Sublist (listing.types.map ListedType.name).eraseDups)
    ⟨fun ⟨hnotRoot, hkept, horder⟩ => ⟨hnotRoot, hkept, horder⟩,
      fun h => ⟨h.notRoot, h.kept, h.order⟩⟩

theorem ListedType.isFragmentTarget_iff (listed : ListedType) :
    listed.isFragmentTarget = true ↔ IsTarget listed.kind listed.name := by
  simp [isFragmentTarget, IsTarget, ← List.isPrefixOf_iff_prefix]

theorem Listing.fragmentTargets_eq (listing : Listing) :
    listing.fragmentTargets = listing.targets.map fun listed => .named listed.kind listed.name := by
  simp only [fragmentTargets, targets, ← ListedType.isFragmentTarget_iff, Bool.decide_eq_true]

theorem Listing.mem_targets_iff {listing : Listing} {listed : ListedType} :
    listed ∈ listing.targets ↔ listed ∈ listing.types ∧ IsTarget listed.kind listed.name := by
  simp [targets]

theorem Schema.mem_fragmentTypes_iff {schema : Schema} (hnamed : schema.Named) {kind : TypeKind}
    {name : String} :
    .named kind name ∈ schema.fragmentTypes ↔
      name ≠ rootName ∧ IsTarget kind name ∧ ∃ type, schema.type? name = some type ∧
        type.kind = kind := by
  simp only [fragmentTypes, List.mem_map, List.mem_filter, Table.mem_values_iff, decide_eq_true_eq,
    TypeRef.named.injEq]
  constructor
  · rintro ⟨type, ⟨⟨key, hkey⟩, hroot, htarget⟩, rfl, rfl⟩
    have hname : type.name = key := hnamed key type hkey
    subst hname
    exact ⟨hroot, htarget, type, hkey, rfl⟩
  · rintro ⟨hroot, htarget, type, htype, rfl⟩
    have hname : type.name = name := hnamed name type htype
    subst hname
    exact ⟨type, ⟨⟨type.name, htype⟩, hroot, htarget⟩, rfl, rfl⟩

/-! ## What is listed last -/

namespace Listing

variable {listing : Listing} {schema : Schema}

theorem mem_of_lastType? {name : String} {last : ListedType}
    (h : listing.lastType? name = some last) : last ∈ listing.types ∧ last.name = name := by
  rw [lastType?, List.findRev?_eq_find?_reverse] at h
  exact ⟨List.mem_reverse.1 (List.mem_of_find?_eq_some h), by simpa using List.find?_some h⟩

theorem exists_lastType? {listed : ListedType} (h : listed ∈ listing.types) :
    ∃ last, listing.lastType? listed.name = some last := by
  rw [← Option.isSome_iff_exists, lastType?, List.findRev?_eq_find?_reverse, List.find?_isSome]
  exact ⟨listed, List.mem_reverse.2 h, by simp⟩

/-- A listed name leads to a type as it is listed last. -/
theorem Describes.exists_type (h : listing.Describes schema) {name : String}
    (hroot : name ≠ rootName) {last : ListedType} (hlast : listing.lastType? name = some last) :
    ∃ type, schema.type? name = some type ∧ type.kind = last.kind := by
  obtain ⟨hmem, rfl⟩ := mem_of_lastType? hlast
  have hkey : last.name ∈ schema.types.keys := by
    rw [h.order, List.mem_eraseDups]
    exact List.mem_append_left _ (List.mem_map_of_mem hmem)
  obtain ⟨type, htype⟩ := Option.isSome_iff_exists.1 ((Table.contains_iff ..).2 hkey)
  obtain ⟨same, hsame, hdescribes⟩ := h.types last.name type hroot htype
  obtain rfl : last = same := Option.some.inj (hlast.symm.trans hsame)
  exact ⟨type, htype, hdescribes.kind⟩

theorem Describes.mem_fragmentTypes_iff (h : listing.Describes schema) {kind : TypeKind}
    {name : String} :
    .named kind name ∈ schema.fragmentTypes ↔
      name ≠ rootName ∧ IsTarget kind name ∧ ∃ last, listing.lastType? name = some last ∧
        last.kind = kind := by
  rw [Schema.mem_fragmentTypes_iff h.named, and_congr_right_iff]
  intro hroot
  rw [and_congr_right_iff]
  intro _
  constructor
  · rintro ⟨type, htype, rfl⟩
    obtain ⟨last, hlast, hdescribes⟩ := h.types name type hroot htype
    exact ⟨last, hlast, hdescribes.kind.symm⟩
  · rintro ⟨last, hlast, rfl⟩
    exact h.exists_type hroot hlast

/-- Nothing that the root should list is missing. -/
theorem Describes.mem_fragmentTargets (h : listing.Describes schema) {type : TypeRef}
    (htype : type ∈ schema.fragmentTypes) : type ∈ listing.fragmentTargets := by
  obtain ⟨found, -, rfl⟩ := List.mem_map.1 htype
  obtain ⟨-, htarget, last, hlast, hkind⟩ := h.mem_fragmentTypes_iff.1 htype
  obtain ⟨hmem, hname⟩ := mem_of_lastType? hlast
  rw [fragmentTargets_eq, List.mem_map]
  refine ⟨last, mem_targets_iff.2 ⟨hmem, ?_⟩, by rw [hkind, hname]⟩
  rwa [hkind, hname]

end Listing

/-! ## In the order of the schema -/

/-- A list without repetitions has one sublist with the given members. -/
theorem eq_of_sublist_of_nodup {names part other : List String} (hnames : names.Nodup)
    (hpart : part.Sublist names) (hother : other.Sublist names)
    (h : ∀ name, name ∈ part ↔ name ∈ other) : part = other := by
  have hfilter : ∀ {part : List String}, part.Sublist names →
      part = names.filter (· ∈ part) := by
    intro part hpart
    have hself : part.filter (· ∈ part) = part :=
      List.filter_eq_self.2 fun name hname => by simpa using hname
    have hsub := hpart.filter (· ∈ part)
    rw [hself] at hsub
    have hperm := (List.perm_ext_iff_of_nodup (hpart.nodup hnames) (hnames.filter (· ∈ part))).2
      fun name => by simpa using fun hname => hpart.subset hname
    exact hsub.eq_of_length hperm.length_eq
  rw [hfilter hpart, hfilter hother]
  exact List.filter_congr fun name _ => by simp [h]

theorem sublist_of_sublist_append_singleton {names part : List String} {last : String}
    (h : part.Sublist (names ++ [last])) (hlast : last ∉ part) : part.Sublist names := by
  obtain ⟨front, back, rfl, hfront, hback⟩ := List.sublist_append_iff.1 h
  rcases List.sublist_singleton.1 hback with rfl | rfl
  · simpa using hfront
  · exact absurd (List.mem_append_right _ (List.mem_singleton_self last)) hlast

theorem Schema.sublist_fragmentTypes {schema : Schema} (hnamed : schema.Named) :
    (schema.fragmentTypes.map TypeRef.baseName).Sublist schema.types.keys := by
  have hkeys : schema.types.keys = schema.types.values.map TypeDef.name := by
    rw [Table.keys, Entries.keys, Table.values, List.map_map]
    exact List.map_congr_left fun entry hentry =>
      ((Table.forall_find?_iff schema.types).1 hnamed entry hentry).symm
  rw [hkeys, fragmentTypes, List.map_map]
  exact List.filter_sublist.map TypeDef.name

namespace Listing

variable {listing : Listing} {schema : Schema}

theorem baseName_fragmentTargets (listing : Listing) :
    listing.fragmentTargets.map TypeRef.baseName = listing.targets.map ListedType.name := by
  rw [fragmentTargets_eq, List.map_map]
  rfl

theorem Describes.order_iff (h : listing.Describes schema)
    (hroot : rootName ∉ listing.targets.map ListedType.name) :
    (listing.targets.map ListedType.name).Sublist schema.types.keys ↔
      (listing.targets.map ListedType.name).Sublist
        (listing.types.map ListedType.name).eraseDups := by
  rw [h.order, Table.eraseDups_append_singleton]
  split
  · rfl
  · exact ⟨fun hsub => sublist_of_sublist_append_singleton hsub hroot,
      fun hsub => hsub.trans (List.sublist_append_left ..)⟩

/-- The reference to a listed type, of the kind that is listed last. -/
def recorded (listing : Listing) (name : String) : TypeRef :=
  .named (((listing.lastType? name).map ListedType.kind).getD .object) name

theorem recorded_eq {name : String} {last : ListedType} (h : listing.lastType? name = some last) :
    listing.recorded name = .named last.kind name := by
  rw [recorded, h]
  rfl

theorem Describes.fragmentTypes_eq (h : listing.Describes schema) :
    schema.fragmentTypes = (schema.fragmentTypes.map TypeRef.baseName).map listing.recorded := by
  rw [List.map_map]
  refine (List.map_id _).symm.trans (List.map_congr_left fun type htype => ?_)
  obtain ⟨found, -, rfl⟩ := List.mem_map.1 htype
  obtain ⟨-, -, last, hlast, hkind⟩ := h.mem_fragmentTypes_iff.1 htype
  change TypeRef.named found.kind found.name = listing.recorded found.name
  rw [recorded_eq hlast, hkind]

theorem KeepsTargets.fragmentTargets_eq (h : listing.KeepsTargets) :
    listing.fragmentTargets = (listing.targets.map ListedType.name).map listing.recorded := by
  rw [Listing.fragmentTargets_eq, List.map_map]
  refine List.map_congr_left fun listed hlisted => ?_
  obtain ⟨last, hlast⟩ := exists_lastType? (mem_targets_iff.1 hlisted).1
  rw [Function.comp_apply, recorded_eq hlast, h.kept listed hlisted last hlast]

/-- The root's list is as it should be just if what is listed again leaves it alone. -/
theorem Describes.fragmentTargets_eq_iff (h : listing.Describes schema) :
    listing.fragmentTargets = schema.fragmentTypes ↔ listing.KeepsTargets := by
  have hmem : ∀ listed ∈ listing.targets,
      .named listed.kind listed.name ∈ listing.fragmentTargets := by
    intro listed hlisted
    rw [fragmentTargets_eq]
    exact List.mem_map_of_mem hlisted
  constructor
  · intro heq
    have hshould : ∀ listed ∈ listing.targets, _ := fun listed hlisted =>
      h.mem_fragmentTypes_iff.1 (heq ▸ hmem listed hlisted)
    have hnotRoot : ∀ listed ∈ listing.targets, listed.name ≠ rootName := fun listed hlisted =>
      (hshould listed hlisted).1
    refine ⟨hnotRoot, ?_, ?_⟩
    · intro listed hlisted last hlast
      obtain ⟨-, -, same, hsame, hkind⟩ := hshould listed hlisted
      obtain rfl : last = same := Option.some.inj (hlast.symm.trans hsame)
      exact hkind
    · rw [← h.order_iff (by simpa using hnotRoot), ← baseName_fragmentTargets, heq]
      exact Schema.sublist_fragmentTypes h.named
  · intro hkeeps
    have hnotRoot : rootName ∉ listing.targets.map ListedType.name := by
      simpa using hkeeps.notRoot
    have hnames : listing.targets.map ListedType.name =
        schema.fragmentTypes.map TypeRef.baseName := by
      refine eq_of_sublist_of_nodup schema.types.nodup ((h.order_iff hnotRoot).2 hkeeps.order)
        (Schema.sublist_fragmentTypes h.named) fun name => ?_
      simp only [List.mem_map]
      constructor
      · rintro ⟨listed, hlisted, rfl⟩
        obtain ⟨hmem, htarget⟩ := mem_targets_iff.1 hlisted
        obtain ⟨last, hlast⟩ := exists_lastType? hmem
        exact ⟨.named listed.kind listed.name, h.mem_fragmentTypes_iff.2
          ⟨hkeeps.notRoot listed hlisted, htarget, last, hlast,
            hkeeps.kept listed hlisted last hlast⟩, rfl⟩
      · rintro ⟨type, htype, rfl⟩
        have hlisted := h.mem_fragmentTargets htype
        rw [Listing.fragmentTargets_eq, List.mem_map] at hlisted
        obtain ⟨listed, hlisted, rfl⟩ := hlisted
        exact ⟨listed, hlisted, rfl⟩
    rw [hkeeps.fragmentTargets_eq, hnames, ← h.fragmentTypes_eq]

end Listing

/-! ## What is offered -/

namespace Schema

variable {listing : Listing} {schema : Schema}

theorem resolve_fragment_iff (h : listing.Describes schema)
    (hroot : schema.root? = some listing.root) (url name : String) :
    (∃ found, ((CatalogEntry.fragment name).toNode url).resolve schema = .ok found) ↔
      name = rootName ∨
        ∃ last, listing.lastType? name = some last ∧ last.kind ∈ compositeKinds := by
  have hrootKind : listing.root.kind ∈ compositeKinds := List.mem_cons_self
  constructor
  · rintro ⟨found, hfound⟩
    by_cases hname : name = rootName
    · exact Or.inl hname
    obtain ⟨htarget, hshape⟩ := (Node.resolve_eq_ok_iff ..).1 hfound
    obtain ⟨type, htype, rfl⟩ := Node.target_of_fragment rfl htarget
    obtain ⟨last, hlast, hdescribes⟩ := h.types name type hname htype
    refine Or.inr ⟨last, hlast, ?_⟩
    rw [← hdescribes.kind]
    exact (TypeKind.mem_compositeKinds_iff _).2 hshape
  · rintro (rfl | ⟨last, hlast, hkind⟩)
    · exact exists_resolve_fragment hroot hrootKind
    · by_cases hname : name = rootName
      · subst hname
        exact exists_resolve_fragment hroot hrootKind
      · obtain ⟨type, htype, hsame⟩ := h.exists_type hname hlast
        exact exists_resolve_fragment htype (hsame ▸ hkind)

theorem fragment_mem_roots_iff (hroot : schema.root? = some listing.root) {registry : Registry}
    {url : String} (hcached : registry.schema url = some schema) {name : String} :
    .fragment name ∈ registry.roots url ↔ ∃ listed ∈ listing.targets, listed.name = name := by
  rw [Registry.roots, Registry.catalog, hcached, Option.map_some, Option.getD_some,
    fragment_mem_catalog_iff]
  constructor
  · rintro ⟨type, htype, possible, hpossible, rfl⟩
    obtain rfl : listing.root = type := Option.some.inj (hroot.symm.trans htype)
    rw [Listing.root, Listing.fragmentTargets_eq, List.mem_map] at hpossible
    obtain ⟨listed, hlisted, rfl⟩ := hpossible
    exact ⟨listed, hlisted, rfl⟩
  · rintro ⟨listed, hlisted, rfl⟩
    refine ⟨listing.root, hroot, .named listed.kind listed.name, ?_, rfl⟩
    rw [Listing.root, Listing.fragmentTargets_eq]
    exact List.mem_map_of_mem hlisted

/-- The root lists every object and interface of the schema. It lists nothing else, each of them
once and in the order of the schema, just if what is listed again leaves the targets alone. Of the
fragments that are offered, those resolve whose types are not listed last as something without
selections. -/
theorem root_lists_fragmentTypes {value : Json} (haccepted : Schema.ofJson value = .ok schema) :
    ∃ listing root, Listing.ofJson value = .ok listing ∧ schema.root? = some root ∧
      (∀ type ∈ schema.fragmentTypes, type ∈ root.possibleTypes) ∧
      (root.possibleTypes = schema.fragmentTypes ↔ listing.KeepsTargets) ∧
      ∀ (registry : Registry) (url : String), registry.schema url = some schema →
        (∀ name, .fragment name ∈ registry.roots url →
          ((∃ found, ((CatalogEntry.fragment name).toNode url).resolve schema = .ok found) ↔
            name = rootName ∨
              ∃ last, listing.lastType? name = some last ∧ last.kind ∈ compositeKinds)) ∧
        (listing.KeepsTargets → ∀ name, .fragment name ∈ registry.roots url →
          ∃ found, ((CatalogEntry.fragment name).toNode url).resolve schema = .ok found) := by
  obtain ⟨listing, hread, hbuilt⟩ := exists_listing_of_ofJson haccepted
  have hdescribes := Listing.describes_of_toSchema hbuilt
  have hroot : schema.root? = some listing.root := by
    obtain ⟨types, -, rfl⟩ := Listing.toSchema_eq_ok_iff.1 hbuilt
    exact Table.find?_insert_self ..
  refine ⟨listing, listing.root, hread, hroot, fun _ => hdescribes.mem_fragmentTargets,
    hdescribes.fragmentTargets_eq_iff, fun registry url hcached => ⟨?_, ?_⟩⟩
  · exact fun name _ => resolve_fragment_iff hdescribes hroot url name
  · intro hkeeps name hname
    obtain ⟨listed, hlisted, rfl⟩ := (fragment_mem_roots_iff hroot hcached).1 hname
    obtain ⟨hmem, hkind, -⟩ := Listing.mem_targets_iff.1 hlisted
    obtain ⟨last, hlast⟩ := Listing.exists_lastType? hmem
    refine (resolve_fragment_iff hdescribes hroot url listed.name).2 (Or.inr ⟨last, hlast, ?_⟩)
    rw [hkeeps.kept listed hlisted last hlast]
    rcases hkind with hkind | hkind <;> simp [hkind, compositeKinds]

end Schema

/-! ## Listings without and with repetitions -/

/-- No name is listed twice, so the root's list is right and the fragment on the user resolves. -/
theorem UserListing.root_lists_fragmentTypes_users :
    ∃ schema root, Schema.ofJson listing = .ok schema ∧ schema.root? = some root ∧
      (registry schema).schema "http://a" = some schema ∧
      root.possibleTypes = schema.fragmentTypes ∧
      ∃ found, ((CatalogEntry.fragment "User").toNode "http://a").resolve schema = .ok found := by
  have hlisted : ∃ listed schema, Listing.ofJson listing = .ok listed ∧
      Schema.ofJson listing = .ok schema ∧ listed.KeepsTargets ∧
      .fragment "User" ∈ (registry schema).roots "http://a" :=
    ⟨_, _, rfl, rfl, by decide, List.mem_of_getElem? (i := 3) rfl⟩
  obtain ⟨listed, schema, hread, haccepted, hkeeps, huser⟩ := hlisted
  obtain ⟨same, root, hsame, hroot, -, hlists, hoffered⟩ :=
    Schema.root_lists_fragmentTypes haccepted
  obtain rfl : listed = same := Except.ok.inj (hread.symm.trans hsame)
  have hcached : (registry schema).schema "http://a" = some schema := rfl
  exact ⟨schema, root, haccepted, hroot, hcached, hlists.2 hkeeps,
    (hoffered (registry schema) "http://a" hcached).2 hkeeps "User" huser⟩

namespace ListedAgain

open UserListing (reference field registry)

/-- The query type stands twice in the listing, a user is an object at first and a scalar in the
end, and a type has the name of the root. -/
def value : Json :=
  .object [("queryType", .object [("name", .text "Query")]), ("types", .array [
    .object [("kind", .text "OBJECT"), ("name", .text "Query"),
      ("fields", .array [field "me" (reference .scalar "User")])],
    .object [("kind", .text "OBJECT"), ("name", .text "User")],
    .object [("kind", .text "SCALAR"), ("name", .text "User")],
    .object [("kind", .text "OBJECT"), ("name", .text "Query"),
      ("fields", .array [field "me" (reference .scalar "User")])],
    .object [("kind", .text "OBJECT"), ("name", .text rootName)]])]

/-- The root lists the query type twice, the user as an object and itself, in place of the query
type alone. The fragment on the user is offered and stale. -/
theorem targets_left_behind :
    ∃ schema root, Schema.ofJson value = .ok schema ∧ schema.root? = some root ∧
      root.possibleTypes = [.named .object "Query", .named .object "User", .named .object "Query",
        .named .object rootName] ∧
      schema.fragmentTypes = [.named .object "Query"] ∧
      .fragment "User" ∈ (registry schema).roots "http://a" ∧
      ((CatalogEntry.fragment "User").toNode "http://a").resolve schema =
        .error (.shapeMismatch "User" "User" true false) :=
  ⟨_, _, rfl, rfl, rfl, by decide, List.mem_of_getElem? (i := 2) rfl, rfl⟩

end ListedAgain

end QueryTree
