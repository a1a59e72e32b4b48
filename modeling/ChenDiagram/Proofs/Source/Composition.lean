import ChenDiagram.Dot.Layout
import ChenDiagram.Proofs.Model.Replay
import ChenDiagram.Proofs.Source.Numbering

/-! Texts put together and texts rearranged. A diagram comes from what the accepted lines declare,
in their order and nothing else; so two texts one after the other give the diagram of the first with
that of the second replayed on it, and lines of different kinds may change places. -/

namespace ChenDiagram.Source
open Text Dot
variable {g : EdgeGrammar}

/-! ## Accepted lines -/

/-- What the accepted lines of a text declare, in order. -/
def accepted (g : EdgeGrammar) (text : String) : List Declaration :=
  (pieces '\n' text.toList).filterMap fun raw => (classify g (trim raw)).map Prod.snd

/-- The colour directives among them. -/
def directives (g : EdgeGrammar) (text : String) : List (Channel × String) :=
  (accepted g text).filterMap Declaration.color?

theorem declaration?_read (g : EdgeGrammar) (raw : List Char) :
    (Line.read g raw).declaration? = (classify g (trim raw)).map Prod.snd := by
  refine Option.ext fun d => ?_
  have hdeclared : (Line.read g raw).declaration? = some d ↔
      ∃ r, Line.read g raw = .declared r d := by
    cases Line.read g raw <;> simp [Line.declaration?]
  rw [hdeclared]
  simp only [read_eq_declared_iff, Option.map_eq_some_iff, Prod.exists, exists_eq_right]

theorem diagram_parse (g : EdgeGrammar) (text : String) :
    (parse g text).diagram = .ofDeclarations (accepted g text) := by
  show Diagram.ofDeclarations (declarations (readLines g text)) = _
  rw [declarations_readLines]
  simp only [declaration?_read]
  rfl

/-! ## Texts one after the other -/

theorem accepted_join (g : EdgeGrammar) (a b : String) :
    accepted g (a ++ "\n" ++ b) = accepted g a ++ accepted g b := by
  unfold accepted
  rw [pieces_join, List.filterMap_append]

theorem directives_join (g : EdgeGrammar) (a b : String) :
    directives g (a ++ "\n" ++ b) = directives g a ++ directives g b := by
  unfold directives
  rw [accepted_join, List.filterMap_append]

theorem diagram_parse_join (g : EdgeGrammar) (a b : String) :
    (parse g (a ++ "\n" ++ b)).diagram = (parse g a).diagram.addAll (accepted g b) := by
  rw [diagram_parse, diagram_parse, accepted_join]
  exact Diagram.addAll_append {} _ _

theorem ignored_parse_join (g : EdgeGrammar) (a b : String) :
    (parse g (a ++ "\n" ++ b)).ignored = (parse g a).ignored ++
      (parse g b).ignored.map fun i => { i with line := i.line + (1 + a.toList.count '\n') } := by
  show ignoredLines (readLines g (a ++ "\n" ++ b)) = _
  rw [readLines_join, ignoredLines_append, ignoredLines_map_add]
  rfl

theorem theme_parse (g : EdgeGrammar) (text : String) :
    (parse g text).diagram.theme = Theme.replay none (directives g text) := by
  rw [diagram_parse, Diagram.ofDeclarations, Diagram.theme_addAll, Theme.foldl_set_eq_replay]
  rfl

/-- Two texts with a line feed between them say what the first says and then what the second does.
Lists follow each other, the final entries of the second text are inserted into the tables of the
first, its colour directives are replayed on the theme of the first, and the numbers of its ignored
lines are moved behind the lines of the first. -/
theorem parse_join (g : EdgeGrammar) (a b : String) :
    let A := parse g a
    let B := parse g b
    let P := parse g (a ++ "\n" ++ b)
    P = { diagram :=
            { entities := A.diagram.entities.insertAll B.diagram.entities.entries
              relationships := A.diagram.relationships.insertAll B.diagram.relationships.entries
              attributes := A.diagram.attributes ++ B.diagram.attributes
              composites := A.diagram.composites ++ B.diagram.composites
              generalizations := A.diagram.generalizations ++ B.diagram.generalizations
              edges := A.diagram.edges ++ B.diagram.edges
              theme := Theme.replay A.diagram.theme (directives g b) }
          ignored := A.ignored ++
            B.ignored.map fun i => { i with line := i.line + (1 + a.toList.count '\n') } } ∧
      (P.diagram.theme = none ↔ directives g a = [] ∧ directives g b = []) := by
  intro A B P
  have hdiagram := (diagram_parse_join g a b).trans (Diagram.addAll_eq _ _)
  rw [← diagram_parse] at hdiagram
  refine ⟨?_, ?_⟩
  · rw [Parsed.mk.injEq]
    exact ⟨hdiagram, ignored_parse_join g a b⟩
  · rw [theme_parse, directives_join, Theme.replay_eq_none_iff, List.append_eq_nil_iff]
    exact and_iff_right rfl

/-! ## Lines rearranged -/

/-- Only the order of lines of the same kind matters. Where two texts declare the same entities in
the same order, the same relationships, and so on for every kind of line and for every channel of
colours, they give the same diagram and the same drawing of it. -/
theorem diagram_eq_of_streams_eq {t₁ t₂ : String}
    (h : Streams.of (accepted g t₁) = Streams.of (accepted g t₂)) :
    (parse g t₁).diagram = (parse g t₂).diagram ∧
      ∀ direction,
        render (parse g t₁).diagram direction = render (parse g t₂).diagram direction := by
  have hdiagram : (parse g t₁).diagram = (parse g t₂).diagram := by
    rw [diagram_parse, diagram_parse]
    exact Diagram.addAll_congr {} h
  exact ⟨hdiagram, fun direction => by rw [hdiagram]⟩

/-- The second text has the same lines in another order, blanks, a comment and a stray line. -/
theorem diagram_eq_of_streams_eq_rearranged :
    let t₁ := "entity A\nweak entity B\nISA A \x7bB\x7d\nrelationships: #abc\nentities: #123\n" ++
      "entity A"
    let t₂ := "# again\nentities: #123\nISA A \x7bB\x7d\n\n entity A\n?\nweak entity B\n" ++
      "entity A\nrelationships: #abc"
    Streams.of (accepted .full t₁) = Streams.of (accepted .full t₂) ∧
      (parse .full t₁).diagram = (parse .full t₂).diagram ∧
      ∀ direction, render (parse .full t₁).diagram direction =
        render (parse .full t₂).diagram direction := by
  intro t₁ t₂
  have h₁ : accepted .full t₁ = [.entity ⟨"A", false⟩, .entity ⟨"B", true⟩,
      .generalization ⟨"A", ["B"]⟩, .color .relationships "#abc", .color .entities "#123",
      .entity ⟨"A", false⟩] := by decide +kernel
  have h₂ : accepted .full t₂ = [.color .entities "#123", .generalization ⟨"A", ["B"]⟩,
      .entity ⟨"A", false⟩, .entity ⟨"B", true⟩, .entity ⟨"A", false⟩,
      .color .relationships "#abc"] := by decide +kernel
  have hstreams : Streams.of (accepted .full t₁) = Streams.of (accepted .full t₂) := by
    rw [h₁, h₂]
    refine (Streams.mk.injEq ..).mpr ⟨rfl, rfl, rfl, rfl, rfl, rfl, funext fun channel => ?_⟩
    cases channel <;> rfl
  exact ⟨hstreams, diagram_eq_of_streams_eq hstreams⟩

end ChenDiagram.Source
