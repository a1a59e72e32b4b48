import ChenDiagram.Model.Table

/-! Entity-relationship diagrams in Chen's style. Entities and relationships are declared by name,
so a later declaration of a name replaces the earlier one in its place; everything else accumulates
in source order. -/

namespace ChenDiagram

/-! ## Themes

Fill colours of the declared shapes, one channel for each kind of declaration. -/

/-- What a colour directive addresses. -/
inductive Channel where
  | entities
  | weakEntities
  | relationships
deriving DecidableEq, Repr

/-- One colour for each channel. A theme starts from these defaults. -/
structure Theme where
  entity : String := "#DDEEFF"
  weakEntity : String := "#E8DDFF"
  relationship : String := "#FFF2CC"
deriving DecidableEq, Repr, Inhabited

namespace Theme

def color (theme : Theme) : Channel → String
  | .entities => theme.entity
  | .weakEntities => theme.weakEntity
  | .relationships => theme.relationship

def set (theme : Theme) (channel : Channel) (color : String) : Theme :=
  match channel with
  | .entities => { theme with entity := color }
  | .weakEntities => { theme with weakEntity := color }
  | .relationships => { theme with relationship := color }

/-- A directive changes its own channel and no other. -/
theorem color_set (theme : Theme) (channel other : Channel) (color : String) :
    (theme.set channel color).color other =
      if other = channel then color else theme.color other := by
  cases channel <;> cases other <;> rfl

end Theme

/-! ## Declarations -/

structure Entity where
  name : String
  weak : Bool
deriving DecidableEq, Repr

structure Relationship where
  name : String
  identifying : Bool
deriving DecidableEq, Repr

inductive AttributeKind where
  | plain
  | primaryKey
  | multivalued
  | derived
deriving DecidableEq, Repr

structure Attribute where
  owner : String
  name : String
  kind : AttributeKind
deriving DecidableEq, Repr

/-- An attribute made of parts. -/
structure Composite where
  owner : String
  name : String
  parts : List String
deriving DecidableEq, Repr

/-- An ISA group: each subtype is a supertype. -/
structure Generalization where
  supertype : String
  subtypes : List String
deriving DecidableEq, Repr

inductive Cardinality where
  | one
  | n
  | m
deriving DecidableEq, Repr

/-- How a cardinality is written, in the notation and on the drawing. -/
def Cardinality.symbol : Cardinality → String
  | .one => "1"
  | .n => "N"
  | .m => "M"

inductive Participation where
  | total
  | part
deriving DecidableEq, Repr

/-- The keyword of the notation. -/
def Participation.keyword : Participation → String
  | .total => "TOTAL"
  | .part => "PARTIAL"

/-- One end of an edge; the short edge form leaves participation open. -/
structure Endpoint where
  entity : String
  cardinality : Cardinality
  participation : Option Participation
deriving DecidableEq, Repr

/-- Participation that is left open does not count as total. -/
def Endpoint.isTotal (e : Endpoint) : Bool := e.participation = some .total

/-- A line between two entities, through a relationship or direct. -/
structure Edge where
  relationship : Option String
  tail : Endpoint
  head : Endpoint
deriving DecidableEq, Repr

/-- No theme is active until a colour directive appears. -/
structure Diagram where
  entities : Table String Entity := {}
  relationships : Table String Relationship := {}
  attributes : List Attribute := []
  composites : List Composite := []
  generalizations : List Generalization := []
  edges : List Edge := []
  theme : Option Theme := none
deriving DecidableEq, Repr, Inhabited

/-- What one accepted line says. -/
inductive Declaration where
  | color (channel : Channel) (color : String)
  | generalization (g : Generalization)
  | entity (e : Entity)
  | relationship (r : Relationship)
  | composite (c : Composite)
  | attribute (a : Attribute)
  | edge (e : Edge)
deriving DecidableEq, Repr

namespace Diagram

/-- The first colour directive brings in the defaults for the channels it does not name. -/
def add (d : Diagram) : Declaration → Diagram
  | .color channel color => { d with theme := some ((d.theme.getD {}).set channel color) }
  | .generalization g => { d with generalizations := d.generalizations ++ [g] }
  | .entity e => { d with entities := d.entities.insert e.name e }
  | .relationship r => { d with relationships := d.relationships.insert r.name r }
  | .composite c => { d with composites := d.composites ++ [c] }
  | .attribute a => { d with attributes := d.attributes ++ [a] }
  | .edge e => { d with edges := d.edges ++ [e] }

def addAll (d : Diagram) (declarations : List Declaration) : Diagram := declarations.foldl add d

/-- The diagram that declarations describe, taken in order. -/
def ofDeclarations (declarations : List Declaration) : Diagram := addAll {} declarations

/-- Equality of content: entities and relationships without regard to order, all else with it. -/
def sameContent (a b : Diagram) : Bool :=
  a.entities.sameEntries b.entities && a.relationships.sameEntries b.relationships &&
    a.attributes = b.attributes && a.composites = b.composites &&
    a.generalizations = b.generalizations && a.edges = b.edges && a.theme = b.theme

end Diagram
end ChenDiagram
