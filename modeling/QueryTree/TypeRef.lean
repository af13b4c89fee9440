import QueryTree.Json.Basic

/-! # References to types

A type reference is a named type under any number of list and non-null wrappers. Introspection
spells it as a chain of layers, each with a kind, perhaps a name and perhaps another layer below. -/

namespace QueryTree

inductive TypeKind where
  | scalar
  | object
  | interface
  | union
  | enum
  | inputObject
  | list
  | nonNull
  deriving DecidableEq

namespace TypeKind

def all : List TypeKind :=
  [.scalar, .object, .interface, .union, .enum, .inputObject, .list, .nonNull]

/-- The name in introspection. -/
def name : TypeKind → String
  | .scalar => "SCALAR"
  | .object => "OBJECT"
  | .interface => "INTERFACE"
  | .union => "UNION"
  | .enum => "ENUM"
  | .inputObject => "INPUT_OBJECT"
  | .list => "LIST"
  | .nonNull => "NON_NULL"

/-- The name in messages. -/
def label : TypeKind → String
  | .scalar => "Scalar"
  | .object => "Object"
  | .interface => "Interface"
  | .union => "Union"
  | .enum => "Enum"
  | .inputObject => "InputObject"
  | .list => "List"
  | .nonNull => "NonNull"

def ofName? (text : String) : Option TypeKind := all.find? fun kind => kind.name = text

/-- A field of this kind has selections of its own. -/
def hasSelections : TypeKind → Bool
  | .object | .interface | .union => true
  | _ => false

def isWrapper : TypeKind → Bool
  | .list | .nonNull => true
  | _ => false

@[simp] theorem ofName?_name (kind : TypeKind) : ofName? kind.name = some kind := by
  cases kind <;> decide

end TypeKind

inductive TypeRef where
  | named (kind : TypeKind) (name : String)
  | list (inner : TypeRef)
  | nonNull (inner : TypeRef)
  deriving DecidableEq

namespace TypeRef

/-- The named type below all wrappers. -/
def base : TypeRef → TypeRef
  | .named kind name => .named kind name
  | .list inner => inner.base
  | .nonNull inner => inner.base

def baseName : TypeRef → String
  | .named _ name => name
  | .list inner => inner.baseName
  | .nonNull inner => inner.baseName

def baseKind : TypeRef → TypeKind
  | .named kind _ => kind
  | .list inner => inner.baseKind
  | .nonNull inner => inner.baseKind

/-- The kind of the outermost layer. -/
def kind : TypeRef → TypeKind
  | .named kind _ => kind
  | .list _ => .list
  | .nonNull _ => .nonNull

def isNonNull : TypeRef → Bool
  | .nonNull _ => true
  | _ => false

/-- The reference as it is written in a query, such as `[Int!]!`. -/
def spell : TypeRef → List Char
  | .named _ name => name.toList
  | .list inner => '[' :: (inner.spell ++ [']'])
  | .nonNull inner => inner.spell ++ ['!']

def typeString (type : TypeRef) : String := String.ofList type.spell

theorem base_eq (type : TypeRef) : type.base = .named type.baseKind type.baseName := by
  induction type with
  | named kind name => rfl
  | list inner ih => exact ih
  | nonNull inner ih => exact ih

/-- Wraps a type in layers, the first innermost. A layer of any other kind adds nothing. -/
def wrap (type : TypeRef) (layers : List TypeKind) : TypeRef :=
  layers.foldl (fun type layer =>
    match layer with
    | .list => .list type
    | .nonNull => .nonNull type
    | _ => type) type

end TypeRef

/-! ## Chains of layers -/

inductive Chain where
  | last (kind : TypeKind) (name : Option String)
  | over (kind : TypeKind) (name : Option String) (below : Chain)
  deriving DecidableEq

namespace Chain

def make (kind : TypeKind) (name : Option String) : Option Chain → Chain
  | none => .last kind name
  | some below => .over kind name below

def toJson : Chain → Json
  | .last kind name =>
    .object [("kind", .text kind.name), ("name", .ofOption name),
      ("ofType", .null)]
  | .over kind name below =>
    .object [("kind", .text kind.name), ("name", .ofOption name),
      ("ofType", below.toJson)]

end Chain

/-- Why a chain is no type reference. -/
inductive ChainError where
  /-- a wrapper has nothing below it -/
  | nothingBelow (kind : TypeKind)
  /-- the named type has no name -/
  | noName (kind : TypeKind)
  deriving DecidableEq

def ChainError.message : ChainError → String
  | .nothingBelow kind => kind.label ++ " type reference without ofType"
  | .noName kind => kind.label ++ " type reference without name"

namespace TypeRef

def toChain : TypeRef → Chain
  | .named kind name => .last kind (some name)
  | .list inner => .over .list none inner.toChain
  | .nonNull inner => .over .nonNull none inner.toChain

/-- The named type of a layer, whatever is below it. -/
def ofLayer (kind : TypeKind) : Option String → Except ChainError TypeRef
  | some name => .ok (.named kind name)
  | none => .error (.noName kind)

/-- The reference that a chain spells: names of wrappers and layers below a named type do not
count. -/
def ofChain : Chain → Except ChainError TypeRef
  | .last kind name => if kind.isWrapper then .error (.nothingBelow kind) else ofLayer kind name
  | .over kind name below =>
    match kind with
    | .list => (ofChain below).map .list
    | .nonNull => (ofChain below).map .nonNull
    | kind => ofLayer kind name

def toJson (type : TypeRef) : Json := type.toChain.toJson

end TypeRef

end QueryTree
