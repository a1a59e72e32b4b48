import ChenDiagram.Proofs.Dot.Redeclaration
import ChenDiagram.Proofs.Source.Invariant
import Mathlib.Data.List.Forall2

/-! How a drawing grows with its text. One more line puts a block of statements in at the end of one
section, or rewrites the one node that has the name it declares again, or repaints nodes, or does
nothing; all other text of the drawing stays as it is. -/

namespace ChenDiagram.Dot
open Text Source
variable {d d' : Diagram} {direction : Direction}

/-! ## Blocks -/

/-- `new` has the text of `block` where `old` has that of `cut`, and both are the same before and
after it. -/
def Splices (direction : Direction) (before cut block after : List Statement) (old new : String) :
    Prop :=
  let front := heading direction ++ before.flatMap Statement.print
  let back := after.flatMap Statement.print ++ closing
  old = String.ofList (front ++ cut.flatMap Statement.print ++ back) ∧
    new = String.ofList (front ++ block.flatMap Statement.print ++ back)

/-- `new` is the drawing of `d` with a block of statements put in at the end of a section. -/
def Appends (d : Diagram) (direction : Direction) (s : Section) (block : List Statement)
    (new : String) : Prop :=
  ∃ earlier later, Section.all = earlier ++ s :: later ∧
    Splices direction ((earlier ++ [s]).flatMap (Section.content d)) [] block
      (later.flatMap (Section.content d)) (render d direction) new

/-- `new` is the drawing of `d` with `node` in the place of the one node of its name that has a
certain shape. -/
def Rewrites (d : Diagram) (direction : Direction) (shape : Shape) (name : String)
    (node : Statement) (new : String) : Prop :=
  ∃ before attrs after, .shape shape ∈ attrs ∧
    (∀ others, .node name others ∈ before ++ after → .shape shape ∉ others) ∧
    Splices direction before [.node name attrs] [node] after (render d direction) new

theorem splices_print (direction : Direction) (before cut block after : List Statement) :
    Splices direction before cut block after
      (Document.print ⟨direction, before ++ cut ++ after⟩)
      (Document.print ⟨direction, before ++ block ++ after⟩) := by
  simp [Splices, Document.print]

theorem section_mem_all (s : Section) : s ∈ Section.all := by
  cases s <;> decide

/-- Where one section has more at its end and the others are as before, so is the text. -/
theorem appends_of_content {s : Section} {block : List Statement}
    (h : ∀ s', s'.content d' = s'.content d ++ if s' = s then block else []) :
    Appends d direction s block (render d' direction) := by
  obtain ⟨earlier, later, hall⟩ := List.append_of_mem (section_mem_all s)
  have hnodup : (s :: (earlier ++ later)).Nodup := by
    rw [← List.perm_middle.nodup_iff, ← hall]
    decide
  have hs : s ∉ earlier ∧ s ∉ later := by simpa [not_or] using (List.nodup_cons.mp hnodup).1
  have hsame : ∀ list : List Section, s ∉ list →
      list.flatMap (Section.content d') = list.flatMap (Section.content d) := by
    intro list hlist
    refine List.flatMap_congr fun s' hs' => ?_
    have hne : s' ≠ s := fun he => hlist (he ▸ hs')
    rw [h, if_neg hne, List.append_nil]
  have hold : statements d = (earlier ++ [s]).flatMap (Section.content d) ++ [] ++
      later.flatMap (Section.content d) := by
    rw [Section.statements_eq_flatMap, hall]
    simp
  have hnew : statements d' = (earlier ++ [s]).flatMap (Section.content d) ++ block ++
      later.flatMap (Section.content d) := by
    rw [Section.statements_eq_flatMap, hall, List.flatMap_append, List.flatMap_cons,
      hsame earlier hs.1, hsame later hs.2, h s, if_pos rfl]
    simp
  refine ⟨earlier, later, hall, ?_⟩
  rw [render, render, document, document, hold, hnew]
  exact splices_print _ _ _ _ _

/-! ## Lines that add -/

theorem appends_attribute (d : Diagram) (direction : Direction) (a : Attribute) :
    Appends d direction .attributes (ofAttribute a) (render (d.add (.attribute a)) direction) := by
  refine appends_of_content fun s => ?_
  cases s <;> simp [Section.content, Diagram.add]

theorem appends_composite (d : Diagram) (direction : Direction) (c : Composite) :
    Appends d direction .composites (ofComposite c) (render (d.add (.composite c)) direction) := by
  refine appends_of_content fun s => ?_
  cases s <;> simp [Section.content, Diagram.add]

/-- A group is numbered by the groups before it. -/
theorem appends_generalization (d : Diagram) (direction : Direction) (i : Generalization) :
    Appends d direction .generalizations (ofGeneralization i d.generalizations.length)
      (render (d.add (.generalization i)) direction) := by
  refine appends_of_content fun s => ?_
  cases s <;> simp [Section.content, Diagram.add, generalizationStatements, List.zipIdx_append]

theorem appends_edge (d : Diagram) (direction : Direction) (e : Edge) :
    Appends d direction .edges (ofEdge e) (render (d.add (.edge e)) direction) := by
  refine appends_of_content fun s => ?_
  cases s <;> simp [Section.content, Diagram.add]

theorem appends_entity {e : Entity} (h : e.name ∉ d.entities.keys) :
    Appends d direction .entities [ofEntity d.theme e] (render (d.add (.entity e)) direction) := by
  refine appends_of_content fun s => ?_
  cases s <;> simp [Section.content, Diagram.add, Table.values_insert_of_notMem h]

theorem appends_relationship {r : Relationship} (h : r.name ∉ d.relationships.keys) :
    Appends d direction .relationships [ofRelationship d.theme r]
      (render (d.add (.relationship r)) direction) := by
  refine appends_of_content fun s => ?_
  cases s <;> simp [Section.content, Diagram.add, Table.values_insert_of_notMem h]

/-! ## Lines that declare a name again -/

theorem shape_notMem_of_hasShape {shape : Shape} {id : String} {attrs : List Attr}
    (hmem : .node id attrs ∈ statements d) (h : hasShape shape (.node id attrs) = false) :
    .shape shape ∉ attrs := by
  have hdrawn := (oneShape_statements hmem).drawnAs_eq shape
  rw [h] at hdrawn
  simpa [drawnAs] using hdrawn

/-- A table of named things, each drawn in one shape that nothing else has, stands in a drawing
between `front` and `back`. -/
theorem rewrites_of_insert {α : Type} {t : Table String α} {name : α → String}
    {draw : α → Statement} {shape : Shape} {x : α} {front back : List Statement}
    (hkeys : t.keys.Nodup) (hnames : ∀ e ∈ t.entries, e.1 = name e.2) (hx : name x ∈ t.keys)
    (hdraw : ∀ y, ∃ attrs, draw y = .node (name y) (.shape shape :: attrs))
    (hshape : ∀ s ∈ front ++ back, hasShape shape s = false)
    (hold : statements d = front ++ (t.values.map draw ++ back))
    (hnew : statements d' = front ++ ((t.insert (name x) x).values.map draw ++ back)) :
    Rewrites d direction shape (name x) (draw x) (render d' direction) := by
  obtain ⟨before, old, after, hvalues, hinsert, hname, hothers⟩ :=
    Table.values_insert_of_mem hkeys hnames hx
  obtain ⟨attrs, hattrs⟩ := hdraw old
  rw [hname] at hattrs
  refine ⟨front ++ before.map draw, .shape shape :: attrs, after.map draw ++ back,
    List.mem_cons_self, fun others hmem => ?_, ?_⟩
  · have hother : ∀ y ∈ before ++ after, draw y ≠ .node (name x) others := by
      intro y hy he
      obtain ⟨attrs, hattrs⟩ := hdraw y
      exact hothers y hy (Statement.node.inj (hattrs.symm.trans he)).1
    have hframe : .node (name x) others ∈ front ++ back := by
      simp only [List.mem_append, List.mem_map] at hmem ⊢
      rcases hmem with (hmem | ⟨y, hy, he⟩) | ⟨y, hy, he⟩ | hmem
      · exact .inl hmem
      · exact absurd he (hother y (List.mem_append_left _ hy))
      · exact absurd he (hother y (List.mem_append_right _ hy))
      · exact .inr hmem
    have hstatement : .node (name x) others ∈ statements d := by
      rw [hold]
      simp only [List.mem_append] at hframe ⊢
      exact hframe.imp_right .inr
    exact shape_notMem_of_hasShape hstatement (hshape _ hframe)
  · rw [render, render, document, document, hold, hnew, hvalues, hinsert]
    simp [Splices, Document.print, hattrs]

theorem rewrites_entity {g : EdgeGrammar} {e : Entity} (hd : WellFormed g d)
    (h : e.name ∈ d.entities.keys) :
    Rewrites d direction .rectangle e.name (ofEntity d.theme e)
      (render (d.add (.entity e)) direction) := by
  have hold : statements d = [] ++ (d.entities.values.map (ofEntity d.theme) ++
      (d.relationships.values.map (ofRelationship d.theme) ++ lateStatements d)) :=
    statements_eq_append d
  refine rewrites_of_insert hd.entityKeys (fun e he => (hd.entities e he).1) h
    (fun _ => ⟨_, rfl⟩) (fun s hs => ?_) hold (statements_eq_append (d.add (.entity e)))
  rcases List.mem_append.mp hs with hs | hs
  · cases hs
  · rcases List.mem_append.mp hs with hs | hs
    · obtain ⟨r, -, rfl⟩ := List.mem_map.mp hs
      rfl
    · exact hasShape_lateStatements d (by decide) (by decide) s hs

theorem rewrites_relationship {g : EdgeGrammar} {r : Relationship} (hd : WellFormed g d)
    (h : r.name ∈ d.relationships.keys) :
    Rewrites d direction .diamond r.name (ofRelationship d.theme r)
      (render (d.add (.relationship r)) direction) := by
  refine rewrites_of_insert hd.relationshipKeys (fun r hr => (hd.relationships r hr).1) h
    (fun _ => ⟨_, rfl⟩) (fun s hs => ?_) (statements_eq_append d)
    (statements_eq_append (d.add (.relationship r)))
  rcases List.mem_append.mp hs with hs | hs
  · obtain ⟨e, -, rfl⟩ := List.mem_map.mp hs
    rfl
  · exact hasShape_lateStatements d (by decide) (by decide) s hs

/-! ## Colours -/

/-- The channel that a node is filled from, as its shape and outline tell. -/
def channel? : Statement → Option Channel
  | .node _ attrs =>
    if .shape .rectangle ∈ attrs then some (Kind.entity.channel (.doubled ∈ attrs))
    else if .shape .diamond ∈ attrs then some .relationships
    else none
  | .connector .. => none

/-- How a statement is drawn after one more colour directive, which may be the first. Without a
theme there are no fills, and the first directive brings one to every channel. -/
inductive Repainted (first : Prop) (channel : Channel) (color : String) :
    Statement → Statement → Prop where
  /-- Connectors, and the nodes that take no part in a theme. -/
  | plain {s : Statement} : channel? s = none → Repainted first channel color s s
  | other {s : Statement} {c : Channel} : ¬ first → channel? s = some c → c ≠ channel →
      Repainted first channel color s s
  | refilled {id : String} {attrs : List Attr} {old : String} : ¬ first →
      channel? (.node id (attrs ++ [.filled old])) = some channel →
      Repainted first channel color (.node id (attrs ++ [.filled old]))
        (.node id (attrs ++ [.filled color]))
  | filled {id : String} {attrs : List Attr} {c : Channel} : first →
      channel? (.node id attrs) = some c → (∀ old, .filled old ∉ attrs) →
      Repainted first channel color (.node id attrs)
        (.node id (attrs ++ [.filled (if c = channel then color else ({} : Theme).color c)]))

/-- `new` is the drawing of `d` with each statement in its place, repainted. -/
def Repaints (d : Diagram) (direction : Direction) (first : Prop) (channel : Channel)
    (color : String) (new : String) : Prop :=
  ∃ painted, List.Forall₂ (Repainted first channel color) (statements d) painted ∧
    new = Document.print ⟨direction, painted⟩

section
variable {theme : Option Theme} {channel : Channel} {color : String}

theorem channel?_ofEntity (theme : Option Theme) (e : Entity) :
    channel? (ofEntity theme e) = some (if e.weak then .weakEntities else .entities) := by
  obtain ⟨name, weak⟩ := e
  cases weak <;> cases theme <;> simp [channel?, ofEntity, outline, fill, Kind.channel]

theorem channel?_ofRelationship (theme : Option Theme) (r : Relationship) :
    channel? (ofRelationship theme r) = some .relationships := by
  obtain ⟨name, identifying⟩ := r
  cases identifying <;> cases theme <;> simp [channel?, ofRelationship, outline, fill]

theorem channel?_late {s : Statement} (h : s ∈ lateStatements d) : channel? s = none := by
  cases s with
  | connector => rfl
  | node id attrs =>
    have hmem : .node id attrs ∈ statements d := by
      rw [statements_eq_append]
      simp [h]
    have hrectangle := shape_notMem_of_hasShape hmem
      (hasShape_lateStatements d (by decide) (by decide) _ h : hasShape .rectangle _ = false)
    have hdiamond := shape_notMem_of_hasShape hmem
      (hasShape_lateStatements d (by decide) (by decide) _ h : hasShape .diamond _ = false)
    simp [channel?, hrectangle, hdiamond]

/-- A node that ends with the fill of its channel. -/
theorem repainted_fill {id : String} {attrs : List Attr} {c : Channel}
    (hc : channel? (.node id (attrs ++ fill theme c)) = some c)
    (hattrs : ∀ old, .filled old ∉ attrs) :
    Repainted (theme = none) channel color (.node id (attrs ++ fill theme c))
      (.node id (attrs ++ fill (some ((theme.getD {}).set channel color)) c)) := by
  cases theme with
  | none =>
    show Repainted _ _ _ (.node id (attrs ++ []))
      (.node id (attrs ++ [.filled ((({} : Theme).set channel color).color c)]))
    rw [List.append_nil, Theme.color_set]
    exact .filled rfl (by simpa [fill] using hc) hattrs
  | some t =>
    show Repainted _ _ _ (.node id (attrs ++ [.filled (t.color c)]))
      (.node id (attrs ++ [.filled ((t.set channel color).color c)]))
    rw [Theme.color_set]
    by_cases h : c = channel
    · rw [if_pos h]
      exact .refilled (Option.some_ne_none t) (h ▸ hc)
    · rw [if_neg h]
      exact .other (Option.some_ne_none t) hc h

theorem filled_notMem_outline (twice : Bool) (shape : Shape) (old : String) :
    .filled old ∉ .shape shape :: outline twice := by
  cases twice <;> simp [outline]

theorem repainted_ofEntity (e : Entity) :
    Repainted (theme = none) channel color (ofEntity theme e)
      (ofEntity (some ((theme.getD {}).set channel color)) e) :=
  repainted_fill (channel?_ofEntity theme e) (filled_notMem_outline e.weak .rectangle)

theorem repainted_ofRelationship (r : Relationship) :
    Repainted (theme = none) channel color (ofRelationship theme r)
      (ofRelationship (some ((theme.getD {}).set channel color)) r) :=
  repainted_fill (channel?_ofRelationship theme r)
    (filled_notMem_outline r.identifying .diamond)

theorem forall₂_map_map {α β : Type} {R : β → β → Prop} {f f' : α → β} {l : List α}
    (h : ∀ a, R (f a) (f' a)) : List.Forall₂ R (l.map f) (l.map f') := by
  rw [List.forall₂_map_left_iff, List.forall₂_map_right_iff, List.forall₂_same]
  exact fun a _ => h a

theorem repaints_color (d : Diagram) (direction : Direction) (channel : Channel) (color : String) :
    Repaints d direction (d.theme = none) channel color
      (render (d.add (.color channel color)) direction) := by
  refine ⟨statements (d.add (.color channel color)), ?_, rfl⟩
  rw [statements_eq_append, statements_eq_append]
  refine List.rel_append (forall₂_map_map repainted_ofEntity)
    (List.rel_append (forall₂_map_map repainted_ofRelationship) ?_)
  exact List.forall₂_same.mpr fun s hs => .plain (channel?_late hs)

end

/-! ## One more line -/

theorem theme_eq_none_iff (g : EdgeGrammar) (text : String) :
    (parse g text).diagram.theme = none ↔ directives g text = [] := by
  rw [theme_parse, Theme.replay_eq_none_iff, and_iff_right rfl]

/-- A line that says something adds one declaration to the diagram, and any other line none. -/
theorem diagram_parse_line {g : EdgeGrammar} (text : String) {line : String}
    (h : '\n' ∉ line.toList) :
    (parse g (text ++ "\n" ++ line)).diagram =
      (parse g text).diagram.addAll (Line.read g line.toList).declaration?.toList := by
  rw [diagram_parse_join, accepted, pieces_of_notMem h, List.filterMap_cons, declaration?_read]
  cases classify g (trim line.toList) <;> rfl

/-- One more line changes a drawing only where it belongs. A line that says nothing changes nothing.
An attribute, a composite, a group, an edge or a new name is a block of statements at the end of its
section, and the block depends on the line, the number of earlier groups for a group, and the theme
for a name. A name that is declared again is drawn anew in its place. A colour repaints the nodes of
its channel or, if it is the first, fills every declared node. -/
theorem drawing_of_one_more_line (g : EdgeGrammar) (direction : Direction) (text line : String)
    (hline : '\n' ∉ line.toList) :
    let d := (parse g text).diagram
    let new := render (parse g (text ++ "\n" ++ line)).diagram direction
    match Line.read g line.toList with
    | .blank | .comment | .unrecognized _ => new = render d direction
    | .declared _ (.attribute a) => Appends d direction .attributes (ofAttribute a) new
    | .declared _ (.composite c) => Appends d direction .composites (ofComposite c) new
    | .declared _ (.generalization i) =>
      Appends d direction .generalizations (ofGeneralization i d.generalizations.length) new
    | .declared _ (.edge e) => Appends d direction .edges (ofEdge e) new
    | .declared _ (.entity e) =>
      if e.name ∈ d.entities.keys then
        Rewrites d direction .rectangle e.name (ofEntity d.theme e) new
      else Appends d direction .entities [ofEntity d.theme e] new
    | .declared _ (.relationship r) =>
      if r.name ∈ d.relationships.keys then
        Rewrites d direction .diamond r.name (ofRelationship d.theme r) new
      else Appends d direction .relationships [ofRelationship d.theme r] new
    | .declared _ (.color channel color) =>
      Repaints d direction (directives g text = []) channel color new := by
  intro d new
  have hd : WellFormed g d := wellFormed_parse g text
  have hnew : new = render (d.addAll (Line.read g line.toList).declaration?.toList) direction :=
    congrArg (render · direction) (diagram_parse_line text hline)
  rw [hnew]
  match Line.read g line.toList with
  | .blank | .comment | .unrecognized _ => rfl
  | .declared _ (.attribute a) => exact appends_attribute d direction a
  | .declared _ (.composite c) => exact appends_composite d direction c
  | .declared _ (.generalization i) => exact appends_generalization d direction i
  | .declared _ (.edge e) => exact appends_edge d direction e
  | .declared _ (.entity e) =>
    show if _ then _ else _
    split
    · next hold => exact rewrites_entity hd hold
    · next hfresh => exact appends_entity hfresh
  | .declared _ (.relationship r) =>
    show if _ then _ else _
    split
    · next hold => exact rewrites_relationship hd hold
    · next hfresh => exact appends_relationship hfresh
  | .declared _ (.color channel color) =>
    rw [← theme_eq_none_iff]
    exact repaints_color d direction channel color

/-- A relationship of the same name keeps its diamond. -/
theorem drawing_of_one_more_line_weak_entity :
    '\n' ∉ " weak entity A".toList ∧
    Rewrites (parse .full "entity A\nrelationship A\nrelationships: #123").diagram .topDown
      .rectangle "A" (.node "A" [.shape .rectangle, .doubled, .filled "#E8DDFF"])
      (render (parse .full ("entity A\nrelationship A\nrelationships: #123" ++ "\n" ++
        " weak entity A")).diagram .topDown) := by
  have hline : '\n' ∉ " weak entity A".toList := by decide
  have hread : Line.read .full " weak entity A".toList =
      .declared .weakEntity (.entity ⟨"A", true⟩) := by decide +kernel
  have h := drawing_of_one_more_line .full .topDown
    "entity A\nrelationship A\nrelationships: #123" " weak entity A" hline
  rw [hread] at h
  have hknown : "A" ∈ (parse .full
      "entity A\nrelationship A\nrelationships: #123").diagram.entities.keys := by decide +kernel
  have hnode : ofEntity (parse .full
      "entity A\nrelationship A\nrelationships: #123").diagram.theme ⟨"A", true⟩ =
        .node "A" [.shape .rectangle, .doubled, .filled "#E8DDFF"] := by decide +kernel
  exact ⟨hline, hnode ▸ (if_pos hknown).mp h⟩

end ChenDiagram.Dot
