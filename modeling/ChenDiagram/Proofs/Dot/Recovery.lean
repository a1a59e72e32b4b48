import ChenDiagram.Proofs.Dot.RoundTrip
import ChenDiagram.Proofs.Dot.Sections
import ChenDiagram.Proofs.Source.Invariant

/-! What a drawing tells about its diagram. Equal drawings have equal statements, hence equal
sections, and each section gives back the items it was drawn from. Only attributes and composites
can be taken for one another, and only where an owner has an underscore in its name. -/

namespace ChenDiagram.Dot
open Text Source

/-! ## Entities and relationships -/

theorem outline_fill_inj {twice twice' : Bool} {theme theme' : Option Theme}
    {channel channel' : Channel}
    (h : outline twice ++ fill theme channel = outline twice' ++ fill theme' channel') :
    twice = twice' ∧ theme.map (·.color channel) = theme'.map (·.color channel') := by
  cases twice <;> cases twice' <;> cases theme <;> cases theme' <;> simp_all [outline, fill]

theorem ofEntity_inj {theme theme' : Option Theme} {e e' : Entity}
    (h : ofEntity theme e = ofEntity theme' e') :
    e = e' ∧ theme.map (·.color (if e.weak then .weakEntities else .entities)) =
      theme'.map (·.color (if e'.weak then .weakEntities else .entities)) := by
  obtain ⟨name, weak⟩ := e
  obtain ⟨name', weak'⟩ := e'
  obtain ⟨hname, hattrs⟩ := Statement.node.inj h
  obtain ⟨hweak, hcolor⟩ := outline_fill_inj (List.cons.inj hattrs).2
  rw [Entity.mk.injEq]
  exact ⟨⟨hname, hweak⟩, hcolor⟩

theorem ofRelationship_inj {theme theme' : Option Theme} {r r' : Relationship}
    (h : ofRelationship theme r = ofRelationship theme' r') :
    r = r' ∧ theme.map (·.color .relationships) = theme'.map (·.color .relationships) := by
  obtain ⟨name, identifying⟩ := r
  obtain ⟨name', identifying'⟩ := r'
  obtain ⟨hname, hattrs⟩ := Statement.node.inj h
  obtain ⟨hidentifying, hcolor⟩ := outline_fill_inj (List.cons.inj hattrs).2
  rw [Relationship.mk.injEq]
  exact ⟨⟨hname, hidentifying⟩, hcolor⟩

/-! ## Generalizations -/

def isConnector : Statement → Bool
  | .connector .. => true
  | .node .. => false

/-- The connectors of a triangle, the one from its supertype first. -/
def groupConnectors (i : Generalization) (n : Nat) : List Statement :=
  .connector i.supertype (triangleId i.supertype n) [] ::
    i.subtypes.map fun sub => .connector (triangleId i.supertype n) sub []

theorem isConnector_groupConnectors (i : Generalization) (n : Nat) :
    ∀ s ∈ groupConnectors i n, isConnector s = true := by
  intro s hs
  rcases List.mem_cons.mp hs with rfl | hs
  · rfl
  · obtain ⟨sub, -, rfl⟩ := List.mem_map.mp hs
    rfl

theorem groupConnectors_inj {i i' : Generalization} {n n' : Nat}
    (h : groupConnectors i n = groupConnectors i' n') : i = i' := by
  obtain ⟨supertype, subtypes⟩ := i
  obtain ⟨supertype', subtypes'⟩ := i'
  obtain ⟨hfirst, hsubs⟩ := List.cons.inj h
  have hsuper := (Statement.connector.inj hfirst).1
  have hsubtypes : subtypes = subtypes' := by
    refine eq_of_map_eq_map (fun a b hab => ?_) hsubs
    exact (Statement.connector.inj hab).2.1
  rw [Generalization.mk.injEq]
  exact ⟨hsuper, hsubtypes⟩

/-- The connectors after a triangle are all of its group. -/
theorem ofGeneralization_append_inj {i i' : Generalization} {n n' : Nat} {s t : List Statement}
    (hs : Stops isConnector s) (ht : Stops isConnector t)
    (h : ofGeneralization i n ++ s = ofGeneralization i' n' ++ t) : i = i' ∧ s = t := by
  obtain ⟨-, h⟩ := List.cons.inj h
  obtain ⟨hgroup, hrest⟩ := append_inj_of_stops (isConnector_groupConnectors i n)
    (isConnector_groupConnectors i' n') hs ht h
  exact ⟨groupConnectors_inj hgroup, hrest⟩

theorem generalizations_eq {groups groups' : List Generalization}
    (h : generalizationStatements groups = generalizationStatements groups') :
    groups = groups' := by
  have hview := map_eq_of_flatMap_eq Prod.fst (fun _ => True) (Stops isConnector)
    (fun _ _ => List.cons_ne_nil _ _) stops_nil
    (fun _ _ _ => stops_cons.mpr rfl)
    (fun _ _ _ _ _ _ hs ht h => ofGeneralization_append_inj hs ht h)
    (fun _ _ => trivial) (fun _ _ => trivial) h
  rwa [List.zipIdx_map_fst, List.zipIdx_map_fst] at hview

/-! ## Edges -/

theorem symbol_inj {c c' : Cardinality} (h : c.symbol = c'.symbol) : c = c' := by
  cases c <;> cases c' <;> simp_all [Cardinality.symbol]

/-- Where participation is stated, the thickness of the line tells which. -/
theorem participation_eq {p p' : Endpoint} (hp : p.participation.isSome = true)
    (hp' : p'.participation.isSome = true) (h : penWidth p = penWidth p') :
    p.participation = p'.participation := by
  obtain ⟨q, hq⟩ := Option.isSome_iff_exists.mp hp
  obtain ⟨q', hq'⟩ := Option.isSome_iff_exists.mp hp'
  rw [hq, hq']
  cases q <;> cases q' <;> simp_all [penWidth, Endpoint.isTotal]

theorem endpoint_eq {r r' : String} {p p' : Endpoint} (hp : p.participation.isSome = true)
    (hp' : p'.participation.isSome = true)
    (h : Statement.connector r p.entity [.label p.cardinality.symbol, .penWidth (penWidth p)] =
      .connector r' p'.entity [.label p'.cardinality.symbol, .penWidth (penWidth p')]) :
    r = r' ∧ p = p' := by
  obtain ⟨hr, hentity, hattrs⟩ := Statement.connector.inj h
  obtain ⟨hlabel, hattrs⟩ := List.cons.inj hattrs
  have hcardinality := symbol_inj (Attr.label.inj hlabel)
  have hparticipation :=
    participation_eq hp hp' (Attr.penWidth.inj (List.cons.inj hattrs).1)
  obtain ⟨entity, cardinality, participation⟩ := p
  obtain ⟨entity', cardinality', participation'⟩ := p'
  rw [Endpoint.mk.injEq]
  exact ⟨hr, hentity, hcardinality, hparticipation⟩

/-- All edges of one grammar have the same number of connectors. -/
theorem ofEdge_append_inj {g : EdgeGrammar} {e e' : Edge} {s t : List Statement}
    (he : EdgeFits g e) (he' : EdgeFits g e') (h : ofEdge e ++ s = ofEdge e' ++ t) :
    e = e' ∧ s = t := by
  obtain ⟨relationship, tail, head⟩ := e
  obtain ⟨relationship', tail', head'⟩ := e'
  cases g with
  | full =>
    obtain ⟨⟨r, hr, -⟩, htail, hhead⟩ := he
    obtain ⟨⟨r', hr', -⟩, htail', hhead'⟩ := he'
    simp only at hr hr'
    subst hr hr'
    obtain ⟨hfirst, h⟩ := List.cons.inj h
    obtain ⟨hsecond, hrest⟩ := List.cons.inj h
    obtain ⟨hr, htails⟩ := endpoint_eq htail htail' hfirst
    obtain ⟨-, hheads⟩ := endpoint_eq hhead hhead' hsecond
    rw [Edge.mk.injEq]
    exact ⟨⟨congrArg some hr, htails, hheads⟩, hrest⟩
  | simplified =>
    obtain ⟨hr, htail, hhead⟩ := he
    obtain ⟨hr', htail', hhead'⟩ := he'
    obtain ⟨v, c, p⟩ := tail
    obtain ⟨w, k, q⟩ := head
    obtain ⟨v', c', p'⟩ := tail'
    obtain ⟨w', k', q'⟩ := head'
    simp only at hr hr' htail hhead htail' hhead'
    subst hr hr' htail hhead htail' hhead'
    obtain ⟨hfirst, hrest⟩ := List.cons.inj h
    obtain ⟨hv, hw, hattrs⟩ := Statement.connector.inj hfirst
    obtain ⟨htaillabel, hattrs⟩ := List.cons.inj hattrs
    have hc := symbol_inj (Attr.tailLabel.inj htaillabel)
    have hk := symbol_inj (Attr.headLabel.inj (List.cons.inj hattrs).1)
    rw [Edge.mk.injEq, Endpoint.mk.injEq, Endpoint.mk.injEq]
    exact ⟨⟨rfl, ⟨hv, hc, rfl⟩, hw, hk, rfl⟩, hrest⟩

theorem edges_eq {g : EdgeGrammar} {edges edges' : List Edge} (hfits : ∀ e ∈ edges, EdgeFits g e)
    (hfits' : ∀ e ∈ edges', EdgeFits g e) (h : edges.flatMap ofEdge = edges'.flatMap ofEdge) :
    edges = edges' := by
  have hne : ∀ e, EdgeFits g e → ofEdge e ≠ [] := by
    intro e he
    rw [ofEdge]
    split <;> exact List.cons_ne_nil _ _
  have hview := map_eq_of_flatMap_eq id (EdgeFits g) (fun _ => True) hne trivial
    (fun _ _ _ => trivial) (fun _ _ _ _ he he' _ _ h => ofEdge_append_inj he he' h) hfits hfits' h
  rwa [List.map_id, List.map_id] at hview

/-! ## Attributes and composites

Both sections are lists of nodes that hang from something. Without underscores in the names of
owners, a node hangs from a name with an underscore exactly if it is a part of the composite before
it. -/

/-- A node and what it hangs from. -/
structure Hanging where
  parent : String
  id : String
  attrs : List Attr

def Hanging.statements (h : Hanging) : List Statement := hang h.parent h.id h.attrs

theorem hanging_append_inj {x y : Hanging} {s t : List Statement}
    (h : x.statements ++ s = y.statements ++ t) : x = y ∧ s = t := by
  obtain ⟨parent, id, attrs⟩ := x
  obtain ⟨parent', id', attrs'⟩ := y
  obtain ⟨hnode, h⟩ := List.cons.inj h
  obtain ⟨hconnector, hrest⟩ := List.cons.inj h
  obtain ⟨hid, hattrs⟩ := Statement.node.inj hnode
  have hparent := (Statement.connector.inj hconnector).1
  rw [Hanging.mk.injEq]
  exact ⟨⟨hparent, hid, hattrs⟩, hrest⟩

theorem hanging_eq {l l' : List Hanging}
    (h : l.flatMap Hanging.statements = l'.flatMap Hanging.statements) : l = l' := by
  have hview := map_eq_of_flatMap_eq id (fun _ => True) (fun _ => True)
    (fun _ _ => List.cons_ne_nil _ _) trivial (fun _ _ _ => trivial)
    (fun _ _ _ _ _ _ _ _ h => hanging_append_inj h) (fun _ _ => trivial) (fun _ _ => trivial) h
  rwa [List.map_id, List.map_id] at hview

/-- What belongs to an owner: an attribute or a composite. -/
abbrev Owned := Attribute ⊕ Composite

namespace Owned

def owner : Owned → String
  | .inl a => a.owner
  | .inr c => c.owner

def root : Owned → Hanging
  | .inl a => ⟨a.owner, attributeId a.owner a.name, attributeAttrs a⟩
  | .inr c => ⟨c.owner, attributeId c.owner c.name, ellipse c.name⟩

def parts : Owned → List Hanging
  | .inl _ => []
  | .inr c => c.parts.map fun part =>
      ⟨attributeId c.owner c.name, partId c.owner c.name part, ellipse part⟩

def hangings (x : Owned) : List Hanging := x.root :: x.parts

/-- The owner has no underscore in its name, and a composite has parts. -/
def Plain : Owned → Prop
  | .inl a => '_' ∉ a.owner.toList
  | .inr c => '_' ∉ c.owner.toList ∧ c.parts ≠ []

theorem parent_root (x : Owned) : x.root.parent = x.owner := by
  cases x <;> rfl

theorem Plain.underscore_notMem {x : Owned} (h : x.Plain) : '_' ∉ x.owner.toList := by
  cases x with
  | inl a => exact h
  | inr c => exact h.1

end Owned

/-- Hangs from a name with an underscore. -/
def isPart (h : Hanging) : Bool := '_' ∈ h.parent.toList

theorem isPart_parts {x : Owned} : ∀ h ∈ x.parts, isPart h = true := by
  intro h hmem
  cases x with
  | inl a => cases hmem
  | inr c =>
    obtain ⟨part, -, rfl⟩ := List.mem_map.mp hmem
    simp [isPart, attributeId_eq]

theorem isPart_root {x : Owned} (hx : x.Plain) : isPart x.root = false := by
  simp [isPart, x.parent_root, hx.underscore_notMem]

theorem attributeAttrs_inj {a a' : Attribute} (h : attributeAttrs a = attributeAttrs a') :
    a.name = a'.name ∧ a.kind = a'.kind := by
  obtain ⟨owner, name, kind⟩ := a
  obtain ⟨owner', name', kind'⟩ := a'
  cases kind <;> cases kind' <;> simp_all [attributeAttrs, ellipse]

theorem ellipse_inj {label label' : String} (h : ellipse label = ellipse label') :
    label = label' := by
  simpa [ellipse] using h

/-- A composite has parts to show, so it is not taken for an attribute of the same name. -/
theorem owned_eq {x y : Owned} (hx : x.Plain) (hy : y.Plain) (hroot : x.root = y.root)
    (hparts : x.parts = y.parts) : x = y := by
  have hparent := congrArg Hanging.parent hroot
  have hattrs := congrArg Hanging.attrs hroot
  match x, y with
  | .inl ⟨owner, name, kind⟩, .inl ⟨owner', name', kind'⟩ =>
    obtain ⟨hname, hkind⟩ := attributeAttrs_inj hattrs
    rw [Sum.inl.injEq, Attribute.mk.injEq]
    exact ⟨hparent, hname, hkind⟩
  | .inl a, .inr c => exact absurd (List.map_eq_nil_iff.mp hparts.symm) hy.2
  | .inr c, .inl a => exact absurd (List.map_eq_nil_iff.mp hparts) hx.2
  | .inr ⟨owner, name, list⟩, .inr ⟨owner', name', list'⟩ =>
    have hlist : list = list' := eq_of_map_eq_map
      (fun _ _ h => ellipse_inj (congrArg Hanging.attrs h)) hparts
    rw [Sum.inr.injEq, Composite.mk.injEq]
    exact ⟨hparent, ellipse_inj hattrs, hlist⟩

theorem hangings_append_inj {x y : Owned} {s t : List Hanging} (hx : x.Plain) (hy : y.Plain)
    (hs : Stops isPart s) (ht : Stops isPart t) (h : x.hangings ++ s = y.hangings ++ t) :
    x = y ∧ s = t := by
  obtain ⟨hroot, h⟩ := List.cons.inj h
  obtain ⟨hparts, hrest⟩ := append_inj_of_stops isPart_parts isPart_parts hs ht h
  exact ⟨owned_eq hx hy hroot hparts, hrest⟩

def owned (d : Diagram) : List Owned := d.attributes.map .inl ++ d.composites.map .inr

theorem ellipseStatements_eq (d : Diagram) :
    ellipseStatements d = ((owned d).flatMap Owned.hangings).flatMap Hanging.statements := by
  have hattribute : ∀ a, (Owned.hangings (.inl a)).flatMap Hanging.statements = ofAttribute a := by
    intro a
    simp [Owned.hangings, Owned.root, Owned.parts, Hanging.statements, ofAttribute]
  have hcomposite : ∀ c, (Owned.hangings (.inr c)).flatMap Hanging.statements = ofComposite c := by
    intro c
    simp [Owned.hangings, Owned.root, Owned.parts, Hanging.statements, ofComposite,
      List.flatMap_map]
  rw [ellipseStatements, owned, List.flatMap_assoc, List.flatMap_append, List.flatMap_map,
    List.flatMap_map]
  simp only [hattribute, hcomposite]

theorem owned_inj {d d' : Diagram} (h : owned d = owned d') :
    d.attributes = d'.attributes ∧ d.composites = d'.composites := by
  have hleft : ∀ attributes : List Attribute,
      ∀ x ∈ attributes.map (Sum.inl : Attribute → Owned), x.isLeft = true := by
    intro attributes x hx
    obtain ⟨a, -, rfl⟩ := List.mem_map.mp hx
    rfl
  have hright : ∀ composites : List Composite,
      Stops Sum.isLeft (composites.map (Sum.inr : Composite → Owned)) := by
    intro composites
    cases composites with
    | nil => exact stops_nil
    | cons c composites => exact stops_cons.mpr rfl
  obtain ⟨hattributes, hcomposites⟩ :=
    append_inj_of_stops (hleft _) (hleft _) (hright _) (hright _) h
  exact ⟨eq_of_map_eq_map (fun _ _ => Sum.inl.inj) hattributes,
    eq_of_map_eq_map (fun _ _ => Sum.inr.inj) hcomposites⟩

theorem attributes_composites_eq {d d' : Diagram} (hplain : ∀ x ∈ owned d, x.Plain)
    (hplain' : ∀ x ∈ owned d', x.Plain) (h : ellipseStatements d = ellipseStatements d') :
    d.attributes = d'.attributes ∧ d.composites = d'.composites := by
  rw [ellipseStatements_eq, ellipseStatements_eq] at h
  have hview := map_eq_of_flatMap_eq id Owned.Plain (Stops isPart)
    (fun _ _ => List.cons_ne_nil _ _) stops_nil (fun _ _ hx => stops_cons.mpr (isPart_root hx))
    (fun _ _ _ _ hx hy hs ht h => hangings_append_inj hx hy hs ht h) hplain hplain' (hanging_eq h)
  rw [List.map_id, List.map_id] at hview
  exact owned_inj hview

/-! ## Diagrams -/

section
variable {g g' : EdgeGrammar} {d d' : Diagram}

theorem statements_eq_of_render_eq {direction direction' : Direction}
    (h : render d direction = render d' direction') : statements d = statements d' := by
  have hread := read?_print (document d direction)
  have hprint : (document d direction).print = (document d' direction').print := h
  rw [hprint, read?_print] at hread
  exact (congrArg Document.statements (Option.some.inj hread)).symm

theorem entities_eq (hd : WellFormed g d) (hd' : WellFormed g' d')
    (h : statements d = statements d') : d.entities = d'.entities :=
  Table.eq_of_values_eq (fun e he => (hd.entities e he).1) (fun e he => (hd'.entities e he).1)
    (eq_of_map_eq_map (fun _ _ h => (ofEntity_inj h).1) (sections_eq h).1)

theorem relationships_eq (hd : WellFormed g d) (hd' : WellFormed g' d')
    (h : statements d = statements d') : d.relationships = d'.relationships :=
  Table.eq_of_values_eq (fun r hr => (hd.relationships r hr).1)
    (fun r hr => (hd'.relationships r hr).1)
    (eq_of_map_eq_map (fun _ _ h => (ofRelationship_inj h).1) (sections_eq h).2.1)

/-- A channel that some declared shape is filled from. -/
def Uses (d : Diagram) : Channel → Prop
  | .entities => ∃ e ∈ d.entities.values, e.weak = false
  | .weakEntities => ∃ e ∈ d.entities.values, e.weak = true
  | .relationships => ∃ r, r ∈ d.relationships.values

theorem color_eq (hd : WellFormed g d) (hd' : WellFormed g d') (h : statements d = statements d')
    {channel : Channel} (huses : Uses d channel) :
    d.theme.map (·.color channel) = d'.theme.map (·.color channel) := by
  obtain ⟨hentities, hrelationships, -⟩ := sections_eq h
  rw [← entities_eq hd hd' h, List.map_inj_left] at hentities
  rw [← relationships_eq hd hd' h, List.map_inj_left] at hrelationships
  cases channel with
  | entities =>
    obtain ⟨e, he, hweak⟩ := huses
    have hcolor := (ofEntity_inj (hentities e he)).2
    rwa [hweak] at hcolor
  | weakEntities =>
    obtain ⟨e, he, hweak⟩ := huses
    have hcolor := (ofEntity_inj (hentities e he)).2
    rwa [hweak] at hcolor
  | relationships =>
    obtain ⟨r, hr⟩ := huses
    exact (ofRelationship_inj (hrelationships r hr)).2

/-- Who owns something. -/
def owners (d : Diagram) : List String :=
  d.attributes.map Attribute.owner ++ d.composites.map Composite.owner

theorem plain_of_owners (hd : WellFormed g d) (h : ∀ name ∈ owners d, '_' ∉ name.toList) :
    ∀ x ∈ owned d, x.Plain := by
  intro x hx
  rcases List.mem_append.mp hx with hx | hx
  · obtain ⟨a, ha, rfl⟩ := List.mem_map.mp hx
    exact h a.owner (List.mem_append_left _ (List.mem_map_of_mem ha))
  · obtain ⟨c, hc, rfl⟩ := List.mem_map.mp hx
    exact ⟨h c.owner (List.mem_append_right _ (List.mem_map_of_mem hc)),
      (hd.composites c hc).2.2.1⟩

end

/-- Drawings lose nothing that a text declares: texts with the same drawing describe the same
entities, relationships, generalizations and edges and the same colours wherever one is used, and
if no owner has an underscore in its name also the same attributes and composites. -/
theorem diagram_eq_of_render_eq (g : EdgeGrammar) (direction : Direction) (text text' : String)
    (h : render (parse g text).diagram direction = render (parse g text').diagram direction) :
    (parse g text).diagram.entities = (parse g text').diagram.entities ∧
    (parse g text).diagram.relationships = (parse g text').diagram.relationships ∧
    (parse g text).diagram.generalizations = (parse g text').diagram.generalizations ∧
    (parse g text).diagram.edges = (parse g text').diagram.edges ∧
    (∀ channel, Uses (parse g text).diagram channel →
      (parse g text).diagram.theme.map (·.color channel) =
        (parse g text').diagram.theme.map (·.color channel)) ∧
    ((∀ name ∈ owners (parse g text).diagram ++ owners (parse g text').diagram,
        '_' ∉ name.toList) →
      (parse g text).diagram.attributes = (parse g text').diagram.attributes ∧
      (parse g text).diagram.composites = (parse g text').diagram.composites) := by
  have hd := wellFormed_parse g text
  have hd' := wellFormed_parse g text'
  have hstatements := statements_eq_of_render_eq h
  obtain ⟨-, -, hellipses, hgroups, hedges⟩ := sections_eq hstatements
  refine ⟨entities_eq hd hd' hstatements, relationships_eq hd hd' hstatements,
    generalizations_eq hgroups, ?_, fun channel => color_eq hd hd' hstatements, fun howners => ?_⟩
  · exact edges_eq (fun e he => (hd.edges e he).2.2) (fun e he => (hd'.edges e he).2.2) hedges
  · obtain ⟨hplain, hplain'⟩ := List.forall_mem_append.mp howners
    exact attributes_composites_eq (plain_of_owners hd hplain) (plain_of_owners hd' hplain')
      hellipses

theorem diagram_eq_of_render_eq_reordered :
    render (parse .simplified "A (1) -- (N) B\ncomposite A n \x7bx\x7d\nentity A").diagram .topDown =
      render (parse .simplified "entity A\n\ncomposite A n \x7b x \x7d\nA (1) -- (N) B").diagram
        .topDown ∧
    (parse .simplified "A (1) -- (N) B\ncomposite A n \x7bx\x7d\nentity A").diagram.edges =
      (parse .simplified "entity A\n\ncomposite A n \x7b x \x7d\nA (1) -- (N) B").diagram.edges ∧
    (parse .simplified "A (1) -- (N) B\ncomposite A n \x7bx\x7d\nentity A").diagram.composites =
      (parse .simplified
        "entity A\n\ncomposite A n \x7b x \x7d\nA (1) -- (N) B").diagram.composites := by
  have hfirst : (parse .simplified "A (1) -- (N) B\ncomposite A n \x7bx\x7d\nentity A").diagram =
      { entities := ⟨[("A", ⟨"A", false⟩)]⟩, composites := [⟨"A", "n", ["x"]⟩],
        edges := [⟨none, ⟨"A", .one, none⟩, ⟨"B", .n, none⟩⟩] } := by rfl
  have hsecond :
      (parse .simplified "entity A\n\ncomposite A n \x7b x \x7d\nA (1) -- (N) B").diagram =
        { entities := ⟨[("A", ⟨"A", false⟩)]⟩, composites := [⟨"A", "n", ["x"]⟩],
          edges := [⟨none, ⟨"A", .one, none⟩, ⟨"B", .n, none⟩⟩] } := by rfl
  have hrender :
      render (parse .simplified "A (1) -- (N) B\ncomposite A n \x7bx\x7d\nentity A").diagram
          .topDown =
        render (parse .simplified "entity A\n\ncomposite A n \x7b x \x7d\nA (1) -- (N) B").diagram
          .topDown := by
    rw [hfirst, hsecond]
  obtain ⟨-, -, -, hedges, -, howned⟩ :=
    diagram_eq_of_render_eq .simplified .topDown _ _ hrender
  refine ⟨hrender, hedges, (howned ?_).2⟩
  rw [hfirst, hsecond]
  decide

/-- An owner with an underscore can make a composite look like two attributes. -/
example : statements { composites := [⟨"A", "b", ["c"]⟩] } =
    statements { attributes := [⟨"A", "b", .plain⟩, ⟨"A_b", "c", .plain⟩] } := by
  rfl

end ChenDiagram.Dot
