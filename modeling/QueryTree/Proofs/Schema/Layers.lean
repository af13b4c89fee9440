import Mathlib.Data.List.TakeWhile
import QueryTree.Proofs.Json.Reading
import QueryTree.Proofs.Schema.Spelled

/-! # Types and the chains that spell them

A chain is read down through its wrappers to the first layer of another kind. That layer has to have
a name, and nothing else of the chain counts but the kinds of the wrappers. So a type is read back
from its own chain, and from its JSON, unless its base has the kind of a wrapper. -/

namespace QueryTree

namespace Chain

/-! ## Layers -/

/-- A layer without what is below it. -/
structure Layer where
  kind : TypeKind
  name : Option String
  deriving DecidableEq

namespace Layer

def isWrapper (layer : Layer) : Bool := layer.kind.isWrapper

def unnamed (layer : Layer) : Layer := ⟨layer.kind, none⟩

end Layer

/-- The layers from the top down. -/
def layers : Chain → List Layer
  | .last kind name => [⟨kind, name⟩]
  | .over kind name below => ⟨kind, name⟩ :: below.layers

/-- The last layer, even if the wrappers do not lead down to it. -/
def bottom : Chain → Layer
  | .last kind name => ⟨kind, name⟩
  | .over _ _ below => below.bottom

/-- The layers above the first one that is no wrapper. -/
def wrappers (chain : Chain) : List Layer := chain.layers.takeWhile Layer.isWrapper

/-- The first layer that is no wrapper. -/
def base? (chain : Chain) : Option Layer := chain.layers.find? fun layer => !layer.isWrapper

/-- A named type in the wrappers of the chain. -/
def wrapped (chain : Chain) (kind : TypeKind) (name : String) : TypeRef :=
  (TypeRef.named kind name).wrap (chain.wrappers.reverse.map Layer.kind)

/-- What the layers of the chain say, or what is missing in them. -/
def reading (chain : Chain) : Except ChainError TypeRef :=
  match chain.base? with
  | some ⟨kind, some name⟩ => .ok (chain.wrapped kind name)
  | some ⟨kind, none⟩ => .error (.noName kind)
  | none => .error (.nothingBelow chain.bottom.kind)

section Step

variable {kind : TypeKind} {name : Option String} {below : Chain}

theorem base?_over (hkind : kind.isWrapper = true) :
    (Chain.over kind name below).base? = below.base? := by
  simp [base?, layers, Layer.isWrapper, hkind]

theorem wrapped_over (hkind : kind.isWrapper = true) (baseKind : TypeKind) (baseName : String) :
    (Chain.over kind name below).wrapped baseKind baseName =
      (below.wrapped baseKind baseName).wrap [kind] := by
  have hwrappers : (Chain.over kind name below).wrappers = ⟨kind, name⟩ :: below.wrappers :=
    List.takeWhile_cons_of_pos hkind
  simp [wrapped, hwrappers, TypeRef.wrap]

theorem reading_over (hkind : kind.isWrapper = true) :
    (Chain.over kind name below).reading = below.reading.map (TypeRef.wrap · [kind]) := by
  simp only [reading, base?_over hkind, wrapped_over hkind, bottom]
  rcases below.base? with _ | ⟨baseKind, _ | baseName⟩ <;> rfl

theorem reading_last (hkind : kind.isWrapper = true) :
    (Chain.last kind name).reading = .error (.nothingBelow kind) := by
  simp [reading, base?, layers, Layer.isWrapper, hkind, bottom]

/-- Below a layer that is no wrapper nothing is looked at. -/
theorem reading_make (hkind : kind.isWrapper = false) (below : Option Chain) :
    (make kind name below).reading = TypeRef.ofLayer kind name := by
  cases below <;> cases name <;>
    simp [make, reading, base?, wrapped, wrappers, layers, Layer.isWrapper, hkind, TypeRef.ofLayer,
      TypeRef.wrap]

theorem ofChain_over (hkind : kind.isWrapper = true) :
    TypeRef.ofChain (Chain.over kind name below) =
      (TypeRef.ofChain below).map (TypeRef.wrap · [kind]) := by
  cases kind with
  | list | nonNull => rfl
  | scalar | object | interface | union | enum | inputObject => cases hkind

theorem ofChain_make (hkind : kind.isWrapper = false) (below : Option Chain) :
    TypeRef.ofChain (make kind name below) = TypeRef.ofLayer kind name := by
  cases kind with
  | list | nonNull => cases hkind
  | scalar | object | interface | union | enum | inputObject => cases below <;> rfl

end Step

/-- A wrapper passes on what is said below it, and any other layer ends the search. -/
theorem ofChain_eq_reading : ∀ chain : Chain, TypeRef.ofChain chain = chain.reading
  | .last kind name => by
    cases hkind : kind.isWrapper with
    | true => rw [reading_last hkind, TypeRef.ofChain, if_pos hkind]
    | false => exact (ofChain_make hkind none).trans (reading_make hkind none).symm
  | .over kind name below => by
    cases hkind : kind.isWrapper with
    | true => rw [ofChain_over hkind, reading_over hkind, ofChain_eq_reading below]
    | false =>
      exact (ofChain_make hkind (some below)).trans (reading_make hkind (some below)).symm

variable {chain : Chain} {kind : TypeKind} {type : TypeRef}

theorem reading_eq_ok_iff :
    chain.reading = .ok type ↔
      ∃ kind name, chain.base? = some ⟨kind, some name⟩ ∧ chain.wrapped kind name = type := by
  rw [reading]
  rcases chain.base? with _ | ⟨baseKind, _ | baseName⟩ <;> simp

theorem reading_eq_noName_iff :
    chain.reading = .error (.noName kind) ↔ chain.base? = some ⟨kind, none⟩ := by
  rw [reading]
  rcases chain.base? with _ | ⟨baseKind, _ | baseName⟩ <;> simp

theorem reading_eq_nothingBelow_iff :
    chain.reading = .error (.nothingBelow kind) ↔
      chain.base? = none ∧ chain.bottom.kind = kind := by
  rw [reading]
  rcases chain.base? with _ | ⟨baseKind, _ | baseName⟩ <;> simp

theorem isWrapper_of_mem_wrappers {layer : Layer} (h : layer ∈ chain.wrappers) :
    layer.kind.isWrapper = true :=
  List.mem_takeWhile_imp (p := Layer.isWrapper) h

end Chain

/-! ## Wrapped types -/

/-- What is written in front of the type that a wrapper is around. -/
def TypeKind.opening : TypeKind → List Char
  | .list => ['[']
  | _ => []

/-- What is written behind the type that a wrapper is around. -/
def TypeKind.closing : TypeKind → List Char
  | .list => [']']
  | .nonNull => ['!']
  | _ => []

namespace TypeRef

theorem wrap_cons (type : TypeRef) (kind : TypeKind) (kinds : List TypeKind) :
    type.wrap (kind :: kinds) = (type.wrap [kind]).wrap kinds := rfl

-- The wrappers are put on from the inside out, so that the type in the middle grows on the way.
theorem base_wrap (type : TypeRef) (kinds : List TypeKind) :
    (type.wrap kinds).base = type.base := by
  induction kinds generalizing type with
  | nil => rfl
  | cons kind kinds ih =>
    have hone : (type.wrap [kind]).base = type.base := by cases kind <;> rfl
    rw [wrap_cons, ih, hone]

theorem spell_wrap (type : TypeRef) (kinds : List TypeKind) :
    (type.wrap kinds).spell =
      kinds.reverse.flatMap TypeKind.opening ++ type.spell ++ kinds.flatMap TypeKind.closing := by
  induction kinds generalizing type with
  | nil => simp [wrap]
  | cons kind kinds ih =>
    have hone : (type.wrap [kind]).spell = kind.opening ++ type.spell ++ kind.closing := by
      cases kind <;> simp [wrap, spell, TypeKind.opening, TypeKind.closing]
    rw [wrap_cons, ih, hone]
    simp

theorem layers_toChain_wrap (type : TypeRef) {kinds : List TypeKind}
    (h : ∀ kind ∈ kinds, kind.isWrapper = true) :
    (type.wrap kinds).toChain.layers =
      kinds.reverse.map (fun kind => ⟨kind, none⟩) ++ type.toChain.layers := by
  induction kinds generalizing type with
  | nil => rfl
  | cons kind kinds ih =>
    obtain ⟨hkind, hrest⟩ := List.forall_mem_cons.1 h
    have hone : (type.wrap [kind]).toChain.layers = ⟨kind, none⟩ :: type.toChain.layers := by
      cases kind with
      | list | nonNull => rfl
      | scalar | object | interface | union | enum | inputObject => cases hkind
    rw [wrap_cons, ih _ hrest, hone]
    simp

theorem ofChain_toChain (type : TypeRef) :
    ofChain type.toChain =
      if type.baseKind.isWrapper then .error (.nothingBelow type.baseKind) else .ok type := by
  induction type with
  | named kind name => rfl
  | list inner ih =>
    rw [toChain, ofChain, ih, baseKind]
    split <;> rfl
  | nonNull inner ih =>
    rw [toChain, ofChain, ih, baseKind]
    split <;> rfl

end TypeRef

namespace Chain

/-- A name in what the wrappers of the chain are written as. -/
def spellAround (chain : Chain) (name : String) : List Char :=
  let kinds := chain.wrappers.map Layer.kind
  kinds.flatMap TypeKind.opening ++ name.toList ++ kinds.reverse.flatMap TypeKind.closing

variable (chain : Chain) (kind : TypeKind) (name : String)

theorem base_wrapped : (chain.wrapped kind name).base = .named kind name :=
  TypeRef.base_wrap ..

theorem spell_wrapped : (chain.wrapped kind name).spell = chain.spellAround name := by
  rw [wrapped, TypeRef.spell_wrap, List.map_reverse, List.reverse_reverse]
  rfl

/-- Going back to a chain, the names of the wrappers are lost, and whatever is below the base. -/
theorem layers_toChain_wrapped :
    (chain.wrapped kind name).toChain.layers =
      chain.wrappers.map Layer.unnamed ++ [⟨kind, some name⟩] := by
  have hkinds : ∀ kind ∈ chain.wrappers.reverse.map Layer.kind, kind.isWrapper = true := by
    simpa using fun layer h => isWrapper_of_mem_wrappers h
  rw [wrapped, TypeRef.layers_toChain_wrap _ hkinds]
  simp only [List.map_reverse, List.reverse_reverse, List.map_map]
  rfl

end Chain

/-! ## JSON -/

namespace Chain

/-- A layer as an object, around what stands for the layers below it. -/
def Layer.toJson (layer : Layer) (below : Json) : Json :=
  .object [("kind", .text layer.kind.name), ("name", .ofOption layer.name), ("ofType", below)]

theorem toJson_last (kind : TypeKind) (name : Option String) :
    (Chain.last kind name).toJson = Layer.toJson ⟨kind, name⟩ .null := rfl

theorem toJson_over (kind : TypeKind) (name : Option String) (below : Chain) :
    (Chain.over kind name below).toJson = Layer.toJson ⟨kind, name⟩ below.toJson := rfl

theorem isLayer_toJson (kind : TypeKind) (name : Option String) (below : Json) :
    IsLayer (Layer.toJson ⟨kind, name⟩ below) kind name where
  isRecord := trivial
  kind := ⟨.text kind.name, rfl, .name⟩
  name := by cases name <;> rfl

/-- Any chain is spelled by its JSON, whether it spells a type or not. -/
theorem isSpelledBy_toJson : ∀ chain : Chain, chain.IsSpelledBy chain.toJson
  | .last kind name => .last (isLayer_toJson kind name .null) rfl
  | .over kind name below => by
    have hgiven : below.toJson.isNull = false := by cases below <;> rfl
    exact .layer (isLayer_toJson kind name below.toJson) (Json.given?_some hgiven)
      below.isSpelledBy_toJson

theorem ofJson_toJson (chain : Chain) : ofJson chain.toJson = .ok chain :=
  ofJson_eq_ok_iff.2 chain.isSpelledBy_toJson

/-! ## JSON text -/

namespace Layer

variable (layer : Layer) (below : Json)

theorem legible_toJson {below : Json} (h : below.Legible) : (layer.toJson below).Legible := by
  have hname : (Json.ofOption layer.name).Legible := by
    cases layer.name with
    | none => exact Json.legible_null
    | some name => exact Json.legible_text name
  simp [toJson, Json.legible_object_iff, Entries.keys, Json.legible_text, hname, h]

theorem depth_toJson : (layer.toJson below).depth = below.depth + 1 := by
  have hname : (Json.ofOption layer.name).depth = 0 := by
    cases layer.name <;> rfl
  simp [toJson, Json.depth, Json.membersDepth, hname]

/-- The members of a layer are in the order of their keys. -/
theorem sorted_toJson : (layer.toJson below).sorted = layer.toJson below.sorted := by
  have hname : (Json.ofOption layer.name).sorted = .ofOption layer.name := by
    cases layer.name <;> rfl
  have horder : "kind" < "name" ∧ "name" < "ofType" := by decide
  simp [toJson, Json.sorted, Json.sortedMembers, Json.insertSorted, hname, horder]

end Layer

theorem legible_toJson : ∀ chain : Chain, chain.toJson.Legible
  | .last kind name => Layer.legible_toJson ⟨kind, name⟩ Json.legible_null
  | .over kind name below => Layer.legible_toJson ⟨kind, name⟩ below.legible_toJson

theorem depth_toJson : ∀ chain : Chain, chain.toJson.depth = chain.layers.length
  | .last kind name => by
    rw [toJson_last, Layer.depth_toJson, Json.depth, layers, List.length_singleton]
  | .over kind name below => by
    rw [toJson_over, Layer.depth_toJson, below.depth_toJson, layers, List.length_cons]

theorem sorted_toJson : ∀ chain : Chain, chain.toJson.sorted = chain.toJson
  | .last kind name => by rw [toJson_last, Layer.sorted_toJson, Json.sorted]
  | .over kind name below => by rw [toJson_over, Layer.sorted_toJson, below.sorted_toJson]

end Chain

namespace TypeRef

/-- The type that a value spells. -/
def ofJson (value : Json) : Except SchemaError TypeRef :=
  match Chain.ofJson value with
  | .error mismatch => .error (.mismatch mismatch)
  | .ok chain => (ofChain chain).mapError .chain

/-- The type that a text spells. -/
def ofText (text : String) : Except SchemaError TypeRef :=
  match Json.ofText? text with
  | .error failure => .error (.notJson failure)
  | .ok value => ofJson value.sorted

theorem ofJson_toJson (type : TypeRef) :
    ofJson type.toJson = (ofChain type.toChain).mapError .chain := by
  rw [ofJson, toJson, Chain.ofJson_toJson]

theorem ofText_toText {type : TypeRef} (h : type.toChain.layers.length ≤ Reader.maxDepth) :
    ofText type.toJson.toText = (ofChain type.toChain).mapError .chain := by
  rw [← Chain.depth_toJson] at h
  have hread : Json.ofText? type.toJson.toText = .ok type.toJson :=
    Reader.ofText?_of_spells (Json.spells_spell type.toChain.legible_toJson) h
  have hsorted : type.toJson.sorted = type.toJson := type.toChain.sorted_toJson
  rw [ofText, hread, ← ofJson_toJson]
  exact congrArg ofJson hsorted

/-! ## The round trip -/

/-- A type is read back from its own chain, from its JSON and from the text of that, unless its base
has the kind of a wrapper, which makes all three malformed. A chain spells a type just if its
wrappers lead down to a named layer of another kind. The type's own chain then has the wrappers
without their names and ends with that layer, which is the base of the type. -/
theorem ofChain_round_trip :
    (∀ type : TypeRef,
      type.base = .named type.baseKind type.baseName ∧
      (ofChain type.toChain = .ok type ↔ type.baseKind.isWrapper = false) ∧
      (ofChain type.toChain = .error (.nothingBelow type.baseKind) ↔
        type.baseKind.isWrapper = true) ∧
      ofJson type.toJson = (ofChain type.toChain).mapError .chain ∧
      (type.toChain.layers.length ≤ Reader.maxDepth →
        ofText type.toJson.toText = (ofChain type.toChain).mapError .chain)) ∧
    ∀ chain : Chain,
      ((∃ type, ofChain chain = .ok type) ↔
        ∃ kind name, chain.base? = some ⟨kind, some name⟩) ∧
      (∀ kind, ofChain chain = .error (.noName kind) ↔ chain.base? = some ⟨kind, none⟩) ∧
      (∀ kind, ofChain chain = .error (.nothingBelow kind) ↔
        chain.base? = none ∧ chain.bottom.kind = kind) ∧
      ∀ type, ofChain chain = .ok type → ∃ kind name,
        chain.base? = some ⟨kind, some name⟩ ∧
        type.toChain.layers = chain.wrappers.map Chain.Layer.unnamed ++ [⟨kind, some name⟩] ∧
        type.base = .named kind name ∧ type.baseName = name ∧ type.baseKind = kind ∧
        type.typeString = String.ofList (chain.spellAround name) := by
  constructor
  · intro type
    refine ⟨base_eq type, ?_, ?_, ofJson_toJson type, ofText_toText⟩
    · rw [ofChain_toChain]
      split <;> simp [*]
    · rw [ofChain_toChain]
      split <;> simp [*]
  · intro chain
    simp only [Chain.ofChain_eq_reading]
    refine ⟨?_, fun _ => Chain.reading_eq_noName_iff, fun _ => Chain.reading_eq_nothingBelow_iff,
      ?_⟩
    · simp [Chain.reading_eq_ok_iff]
    · intro type h
      obtain ⟨kind, name, hbase, rfl⟩ := Chain.reading_eq_ok_iff.1 h
      have hnamed := (base_eq _).symm.trans (chain.base_wrapped kind name)
      injection hnamed with hkind hname
      exact ⟨kind, name, hbase, chain.layers_toChain_wrapped kind name,
        chain.base_wrapped kind name, hname, hkind,
        congrArg String.ofList (chain.spell_wrapped kind name)⟩

end TypeRef

/-! ### A list of numbers, spelled with more than counts -/

namespace NumberList

def chain : Chain :=
  .over .nonNull (some "Numbers")
    (.over .list none (.over .scalar (some "Int") (.last .object (some "User"))))

def type : TypeRef := .nonNull (.list (.named .scalar "Int"))

/-- The name of the outer wrapper and the layer below the base are lost. -/
theorem ofChain_round_trip_numbers :
    TypeRef.ofChain chain = .ok type ∧ type.typeString = "[Int]!" ∧
    type.toChain.layers = [⟨.nonNull, none⟩, ⟨.list, none⟩, ⟨.scalar, some "Int"⟩] ∧
    TypeRef.ofChain type.toChain = .ok type ∧
    TypeRef.ofText type.toJson.toText = .ok type := by
  obtain ⟨htypes, hchains⟩ := TypeRef.ofChain_round_trip
  obtain ⟨-, hback, -, -, htext⟩ := htypes type
  have hchain : TypeRef.ofChain chain = .ok type := rfl
  have hown : TypeRef.ofChain type.toChain = .ok type := hback.2 rfl
  obtain ⟨kind, name, hbase, hlayers, -, -, -, hstring⟩ := (hchains chain).2.2.2 type hchain
  cases hbase
  refine ⟨hchain, hstring, hlayers, hown, ?_⟩
  rw [htext (by decide), hown]
  rfl

end NumberList

end QueryTree
