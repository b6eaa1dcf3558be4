import SchemaDesign.Settings
import SchemaDesign.Text.Blank

/-!
This module contains conceptual models: entities with attributes, the relations between them, inheritance
groups, and relations that are promoted to entities.
-/

namespace SchemaDesign

structure Attribute where
  name : String
  isKey : Bool
  isDerived : Bool
deriving DecidableEq, Repr

structure Entity where
  name : String
  attributes : List Attribute
deriving DecidableEq, Repr

def Entity.key? (e : Entity) : Option Attribute :=
  e.attributes.find? (·.isKey)

inductive Cardinality where
  | zeroOne
  | oneOne
  | zeroMany
  | oneMany
deriving DecidableEq, Repr

namespace Cardinality

def ofBounds? (min max : List Char) : Option Cardinality :=
  match String.ofList (Text.trim min), String.ofList (Text.upcase (Text.trim max)) with
  | "0", "1" => some zeroOne
  | "1", "1" => some oneOne
  | "0", "N" => some zeroMany
  | "1", "N" => some oneMany
  | _, _ => none

def isMany : Cardinality → Bool
  | zeroMany | oneMany => true
  | zeroOne | oneOne => false

def isMandatory : Cardinality → Bool
  | oneOne | oneMany => true
  | zeroOne | zeroMany => false

def render : Cardinality → String
  | zeroOne => "(0,1)"
  | oneOne => "(1,1)"
  | zeroMany => "(0,n)"
  | oneMany => "(1,n)"

end Cardinality

structure Participant where
  entity : String
  cardinality : Cardinality
deriving DecidableEq, Repr

structure Relation where
  name : String
  participants : List Participant
  attributes : List Attribute
deriving DecidableEq, Repr

structure Inheritance where
  name : String
  parent : String
  children : List String
  strategy : Option InheritanceStrategy
deriving DecidableEq, Repr

structure AssociativeEntity where
  name : String
  relation : String
  attributes : List Attribute
deriving DecidableEq, Repr

structure ConceptualModel where
  entities : List Entity
  relations : List Relation
  inheritances : List Inheritance
  associatives : List AssociativeEntity
deriving DecidableEq, Repr

namespace ConceptualModel

def empty : ConceptualModel := ⟨[], [], [], []⟩

def append (m n : ConceptualModel) : ConceptualModel :=
  ⟨m.entities ++ n.entities, m.relations ++ n.relations, m.inheritances ++ n.inheritances,
    m.associatives ++ n.associatives⟩

def entity? (m : ConceptualModel) (name : String) : Option Entity :=
  m.entities.find? (·.name = name)

def relation? (m : ConceptualModel) (name : String) : Option Relation :=
  m.relations.find? (·.name = name)

def mentioned (m : ConceptualModel) : List String :=
  m.relations.flatMap (fun r => r.participants.map (·.entity))
    ++ m.inheritances.flatMap (fun g => g.parent :: g.children)

def orphans (m : ConceptualModel) : List String :=
  (m.entities.map (·.name)).filter fun name => name ∉ m.mentioned

def isChild (m : ConceptualModel) (name : String) : Bool :=
  m.inheritances.any fun g => name ∈ g.children

end ConceptualModel

end SchemaDesign
