import ProviderCode.Specification.ElementType

/-!
# Attributes and blocks

A resource's schema is a tree of named attributes and blocks. Nested ones have attributes of their
own, and blocks have blocks too.

The kinds are written for any type of children: the tree ties them to attributes and blocks, and the
written form of the tree to values.
-/

namespace ProviderCode

/-- The attributes without attributes of their own. -/
inductive Leaf
  | bool (facets : AttributeFacets Bool)
  | float64 (facets : AttributeFacets Float)
  | int64 (facets : AttributeFacets Int64)
  | number (facets : AttributeFacets Empty)
  | string (facets : AttributeFacets String)
  | collection (shape : Shape) (facets : AttributeFacets Empty) (element : Option ElementType)
  | object (facets : AttributeFacets Empty) (attributes : Option (List (String × ElementType)))
deriving BEq

/-- The object that a nested attribute repeats. -/
structure AttributeObject (α : Type) extends ObjectFacets where
  attributes : List α := []

inductive AttributeKind (α : Type)
  | leaf (leaf : Leaf)
  /-- A list, map or set of objects. -/
  | nested (shape : Shape) (facets : AttributeFacets Empty) (object : Option (AttributeObject α))
  /-- One object, whose type the custom type replaces. -/
  | single (facets : AttributeFacets Empty) (external : Option ExternalType) (attributes : List α)

/-- The object that a nested block repeats. -/
structure BlockObject (α β : Type) extends ObjectFacets where
  attributes : List α := []
  blocks : List β := []

/-- The collections that blocks can be. -/
inductive BlockShape
  | list
  | set
deriving DecidableEq, Repr

inductive BlockKind (α β : Type)
  /-- A list or set of objects. -/
  | nested (shape : BlockShape) (facets : BlockFacets) (object : Option (BlockObject α β))
  /-- One object, whose type the custom type replaces. -/
  | single (facets : BlockFacets) (external : Option ExternalType) (attributes : List α)
    (blocks : List β)

inductive Attribute
  | mk (name : String) (kind : AttributeKind Attribute)

inductive Block
  | mk (name : String) (kind : BlockKind Attribute Block)

/-- The top level of a resource. -/
structure Schema where
  attributes : List Attribute := []
  blocks : List Block := []
  description : Option String := none
  deprecation : Option String := none

structure Resource where
  name : String
  schema : Option Schema := none

structure Specification where
  version : Option String := none
  resources : List Resource := []

def Attribute.name : Attribute → String
  | .mk name _ => name

def Block.name : Block → String
  | .mk name _ => name

/-! ### Growing a tree -/

/-- Adds a last attribute to the object of a nested attribute. -/
def Attribute.append : Attribute → Attribute → Attribute
  | .mk name (.nested shape facets (some object)), child =>
    let attributes := object.attributes ++ [child]
    .mk name (.nested shape facets (some { object with attributes }))
  | .mk name (.single facets external attributes), child =>
    .mk name (.single facets external (attributes ++ [child]))
  | other, _ => other

/-- Adds a last block to the object of a block. -/
def Block.append : Block → Block → Block
  | .mk name (.nested shape facets (some object)), child =>
    .mk name (.nested shape facets (some { object with blocks := object.blocks ++ [child] }))
  | .mk name (.single facets external attributes blocks), child =>
    .mk name (.single facets external attributes (blocks ++ [child]))
  | other, _ => other

/-! ### Equality -/

mutual

def Attribute.same : Attribute → Attribute → Bool
  | .mk n (.leaf l), .mk n' (.leaf l') => n == n' && l == l'
  | .mk n (.nested s f none), .mk n' (.nested s' f' none) => n == n' && s == s' && f == f'
  | .mk n (.nested s f (some ⟨o, as⟩)), .mk n' (.nested s' f' (some ⟨o', as'⟩)) =>
    n == n' && s == s' && f == f' && o == o' && sameAttributes as as'
  | .mk n (.single f e as), .mk n' (.single f' e' as') =>
    n == n' && f == f' && e == e' && sameAttributes as as'
  | _, _ => false
termination_by structural a => a

def sameAttributes : List Attribute → List Attribute → Bool
  | [], [] => true
  | a :: as, a' :: as' => a.same a' && sameAttributes as as'
  | _, _ => false
termination_by structural as => as

end

mutual

def Block.same : Block → Block → Bool
  | .mk n (.nested s f none), .mk n' (.nested s' f' none) => n == n' && s == s' && f == f'
  | .mk n (.nested s f (some ⟨o, as, bs⟩)), .mk n' (.nested s' f' (some ⟨o', as', bs'⟩)) =>
    n == n' && s == s' && f == f' && o == o' && sameAttributes as as' && sameBlocks bs bs'
  | .mk n (.single f e as bs), .mk n' (.single f' e' as' bs') =>
    n == n' && f == f' && e == e' && sameAttributes as as' && sameBlocks bs bs'
  | _, _ => false
termination_by structural b => b

def sameBlocks : List Block → List Block → Bool
  | [], [] => true
  | b :: bs, b' :: bs' => b.same b' && sameBlocks bs bs'
  | _, _ => false
termination_by structural bs => bs

end

instance : BEq Attribute := ⟨Attribute.same⟩

instance : BEq Block := ⟨Block.same⟩

deriving instance BEq for Schema, Resource, Specification

end ProviderCode
