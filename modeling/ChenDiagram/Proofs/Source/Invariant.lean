import ChenDiagram.Proofs.Model.Sections
import ChenDiagram.Proofs.Source.Lines
import ChenDiagram.Source.Grammar

/-! Whatever is read from a text is well formed. `Fits` says of a single declaration what
`WellFormed` says of a diagram: every accepted line makes a declaration that fits, and adding one
that fits keeps a diagram well formed. -/

namespace ChenDiagram.Source
open Text
variable {g : EdgeGrammar} {d : Diagram} {x : Declaration} {line : List Char}

/-- A declaration that a line under `g` could make. -/
def Fits (g : EdgeGrammar) : Declaration → Prop
  | .color _ color => IsColor color
  | .generalization i => Named i.supertype ∧ i.subtypes ≠ [] ∧ ∀ name ∈ i.subtypes, Named name
  | .entity e => Named e.name
  | .relationship r => Named r.name
  | .composite c => Named c.owner ∧ Named c.name ∧ c.parts ≠ [] ∧ ∀ part ∈ c.parts, IsPartName part
  | .attribute a => Named a.owner ∧ Named a.name
  | .edge e => Named e.tail.entity ∧ Named e.head.entity ∧ EdgeFits g e

/-! ## Lines -/

theorem named_ofList {w : List Char} (hw : IsName w) : Named (String.ofList w) := by
  rwa [Named, String.toList_ofList]

/-- A comma list has at least one value, and each comes from a stretch of the body. -/
theorem CommaList.forall_values {item : List Char → String → Prop} {P : String → Prop}
    {body : List Char} {values : List String} (h : CommaList item body values)
    (hitem : ∀ p v, (∀ c ∈ p, c ∈ body) → item p v → P v) :
    values ≠ [] ∧ ∀ v ∈ values, P v := by
  induction h with
  | last hp => exact ⟨by simp, by simpa using hitem _ _ (fun c hc => hc) hp⟩
  | more hp _ ih =>
    obtain ⟨-, hall⟩ := ih fun q v hq => hitem q v fun c hc => by simp [hq c hc]
    refine ⟨by simp, List.forall_mem_cons.mpr ⟨?_, hall⟩⟩
    exact hitem _ _ (fun c hc => by simp [hc]) hp

theorem NameItem.named {p : List Char} {name : String} (h : NameItem p name) : Named name := by
  obtain ⟨_, w, _, -, -, hw, -, rfl⟩ := h
  exact named_ofList hw

theorem PartItem.isPartName {p : List Char} {part : String} (h : PartItem p part)
    (hline : '\n' ∉ p) : IsPartName part := by
  obtain ⟨⟨hfree, c, hc, hspace⟩, rfl⟩ := h
  refine ⟨fun he => ?_, ?_, fun c hc => ?_⟩
  · have hnil : trim p = [] := by simpa using congrArg String.toList he
    rw [strip_eq_nil_iff.mp hnil c hc] at hspace
    cases hspace
  · rw [String.toList_ofList]
    exact strip_strip isSpace p
  · rw [String.toList_ofList] at hc
    have hmem : c ∈ p := mem_of_mem_strip hc
    exact ⟨(hfree c hmem).1, (hfree c hmem).2, fun he => hline (he ▸ hmem)⟩

theorem Denotes.fits {r : Rule} (h : Denotes r line x) (hr : r ∈ Rule.active g)
    (hline : '\n' ∉ line) : Fits g x := by
  cases h with
  | color _ _ hdigits hlen => exact ⟨_, String.toList_ofList, hlen, hdigits⟩
  | isa _ hw _ hbody =>
    exact ⟨named_ofList hw, hbody.forall_values fun _ _ _ hitem => hitem.named⟩
  | weakEntity _ _ hw => exact named_ofList hw
  | entity _ hw => exact named_ofList hw
  | identifyingRelationship _ _ hw => exact named_ofList hw
  | relationship _ hw => exact named_ofList hw
  | composite _ howner _ hname _ hbody =>
    refine ⟨named_ofList howner, named_ofList hname, hbody.forall_values fun p v hp hitem => ?_⟩
    exact hitem.isPartName fun hmem => hline (by simp [hp _ hmem])
  | plainAttribute _ howner _ hname => exact ⟨named_ofList howner, named_ofList hname⟩
  | markedAttribute _ howner _ hname _ _ => exact ⟨named_ofList howner, named_ofList hname⟩
  | edge hr' _ hv _ _ _ _ _ _ hw =>
    obtain rfl := edge_mem_active hr
    exact ⟨named_ofList hv, named_ofList hw, ⟨_, rfl, named_ofList hr'⟩, rfl, rfl⟩
  | simplifiedEdge hv _ _ _ _ hw =>
    obtain rfl := simplifiedEdge_mem_active hr
    exact ⟨named_ofList hv, named_ofList hw, rfl, rfl, rfl⟩

/-! ## Diagrams -/

theorem wellFormed_empty (g : EdgeGrammar) : WellFormed g {} where
  entityKeys := List.nodup_nil
  entities := by intro e he; cases he
  relationshipKeys := List.nodup_nil
  relationships := by intro r hr; cases hr
  attributes := by intro a ha; cases ha
  composites := by intro c hc; cases hc
  generalizations := by intro i hi; cases hi
  edges := by intro e he; cases he
  theme := by intro t ht; cases ht

theorem isColor_default (channel : Channel) : IsColor (({} : Theme).color channel) := by
  cases channel with
  | entities => exact ⟨"DDEEFF".toList, rfl, by decide, List.all_eq_true.mp (by decide)⟩
  | weakEntities => exact ⟨"E8DDFF".toList, rfl, by decide, List.all_eq_true.mp (by decide)⟩
  | relationships => exact ⟨"FFF2CC".toList, rfl, by decide, List.all_eq_true.mp (by decide)⟩

theorem forall_mem_concat {α : Type} {P : α → Prop} {l : List α} {a : α} (h : ∀ b ∈ l, P b)
    (ha : P a) : ∀ b ∈ l ++ [a], P b :=
  List.forall_mem_append.mpr ⟨h, List.forall_mem_singleton.mpr ha⟩

/-- One more declaration that fits keeps a diagram well formed. -/
theorem WellFormed.add (h : WellFormed g d) (hx : Fits g x) : WellFormed g (d.add x) := by
  match x with
  | .color channel color =>
    refine { h with theme := ?_ }
    intro t ht other
    obtain rfl := Option.some.inj ht
    rw [Theme.color_set]
    split
    · exact hx
    · cases htheme : d.theme with
      | none => exact isColor_default other
      | some t => exact h.theme t htheme other
  | .generalization i => exact { h with generalizations := forall_mem_concat h.generalizations hx }
  | .entity e =>
    refine { h with
      entityKeys := Table.keys_insert_nodup h.entityKeys _ _, entities := ?_ }
    intro e' he'
    rcases Table.mem_insertEntry he' with rfl | he'
    · exact ⟨rfl, hx⟩
    · exact h.entities e' he'
  | .relationship r =>
    refine { h with
      relationshipKeys := Table.keys_insert_nodup h.relationshipKeys _ _, relationships := ?_ }
    intro r' hr'
    rcases Table.mem_insertEntry hr' with rfl | hr'
    · exact ⟨rfl, hx⟩
    · exact h.relationships r' hr'
  | .composite c => exact { h with composites := forall_mem_concat h.composites hx }
  | .attribute a => exact { h with attributes := forall_mem_concat h.attributes hx }
  | .edge e => exact { h with edges := forall_mem_concat h.edges hx }

theorem WellFormed.addAll {xs : List Declaration} (h : WellFormed g d) (hxs : ∀ x ∈ xs, Fits g x) :
    WellFormed g (d.addAll xs) := by
  induction xs generalizing d with
  | nil => exact h
  | cons x xs ih =>
    exact ih (h.add (hxs x (by simp))) fun y hy => hxs y (List.mem_cons_of_mem _ hy)

theorem wellFormed_parse (g : EdgeGrammar) (text : String) :
    WellFormed g (parse g text).diagram := by
  refine (wellFormed_empty g).addAll fun x hx => ?_
  obtain ⟨raw, hraw, r, hr⟩ := mem_declarations_parse.mp hx
  obtain ⟨hactive, hdenotes⟩ := denotes_of_classify hr
  refine hdenotes.fits hactive fun hmem => ?_
  exact (of_mem_pieces hraw).1 (mem_of_mem_strip hmem)

end ChenDiagram.Source
