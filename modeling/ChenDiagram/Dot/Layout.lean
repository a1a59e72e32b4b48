import ChenDiagram.Dot.Document
import ChenDiagram.Model.Diagram

/-! From diagrams to DOT statements. Sections follow in a fixed order: entities, relationships,
attributes, composites, generalizations, edges. Nodes that no declaration names get identifiers
joined from the names they belong to. -/

namespace ChenDiagram.Dot

/-- Joins names into the identifier of a node. -/
def joinId (segments : List String) : String := "_".intercalate segments

def attributeId (owner name : String) : String := joinId [owner, name]

def partId (owner name part : String) : String := joinId [owner, name, part]

/-- The position in the list of groups keeps the triangles of one supertype apart. -/
def triangleId (supertype : String) (position : Nat) : String :=
  joinId [supertype, "ISA", toString position]

def ellipse (label : String) : List Attr := [.shape .ellipse, .label label]

/-- A fill appears only under an active theme. -/
def fill (theme : Option Theme) (channel : Channel) : List Attr :=
  (theme.map fun t => Attr.filled (t.color channel)).toList

/-- A double outline marks weak entities, identifying relationships and sets of values. -/
def outline (twice : Bool) : List Attr := if twice then [.doubled] else []

def ofEntity (theme : Option Theme) (e : Entity) : Statement :=
  .node e.name (.shape .rectangle :: outline e.weak ++
    fill theme (if e.weak then .weakEntities else .entities))

def ofRelationship (theme : Option Theme) (r : Relationship) : Statement :=
  .node r.name (.shape .diamond :: outline r.identifying ++ fill theme .relationships)

def attributeAttrs (a : Attribute) : List Attr :=
  match a.kind with
  | .plain => ellipse a.name
  | .primaryKey => [.shape .ellipse, .underlined a.name]
  | .multivalued => ellipse a.name ++ [.doubled]
  | .derived => ellipse a.name ++ [.dashed]

/-- A new node and the connector that ties it to its parent. -/
def hang (parent id : String) (attrs : List Attr) : List Statement :=
  [.node id attrs, .connector parent id []]

def ofAttribute (a : Attribute) : List Statement :=
  hang a.owner (attributeId a.owner a.name) (attributeAttrs a)

def ofComposite (c : Composite) : List Statement :=
  let root := attributeId c.owner c.name
  hang c.owner root (ellipse c.name) ++
    c.parts.flatMap fun part => hang root (partId c.owner c.name part) (ellipse part)

def ofGeneralization (g : Generalization) (position : Nat) : List Statement :=
  let triangle := triangleId g.supertype position
  hang g.supertype triangle [.shape .triangle, .label "ISA"] ++
    g.subtypes.map fun sub => .connector triangle sub []

/-- Total participation is drawn with a thick line. -/
def penWidth (e : Endpoint) : Nat := if e.isTotal then 3 else 1

/-- Through a relationship an edge is two connectors out of the diamond; a direct edge is one
connector with a label at either end, as thick as the thicker of its ends. -/
def ofEdge (e : Edge) : List Statement :=
  match e.relationship with
  | some r => [e.tail, e.head].map fun p =>
      .connector r p.entity [.label p.cardinality.symbol, .penWidth (penWidth p)]
  | none => [.connector e.tail.entity e.head.entity
      [.tailLabel e.tail.cardinality.symbol, .headLabel e.head.cardinality.symbol,
       .penWidth (max (penWidth e.tail) (penWidth e.head))]]

def generalizationStatements (groups : List Generalization) : List Statement :=
  groups.zipIdx.flatMap fun (g, i) => ofGeneralization g i

/-- All statements of a diagram, section by section. -/
def statements (d : Diagram) : List Statement :=
  d.entities.values.map (ofEntity d.theme) ++
  d.relationships.values.map (ofRelationship d.theme) ++
  d.attributes.flatMap ofAttribute ++
  d.composites.flatMap ofComposite ++
  generalizationStatements d.generalizations ++
  d.edges.flatMap ofEdge

def document (d : Diagram) (direction : Direction) : Document :=
  { direction, statements := statements d }

/-- The DOT text of a diagram. -/
def render (d : Diagram) (direction : Direction) : String := (document d direction).print

end ChenDiagram.Dot
