import ChenDiagram.Proofs.Strictness
import ChenDiagram.Proofs.Source.Composition
import Mathlib.Data.List.Sort

/-! One text under both edge grammars. A line is read alike under either of them, or it is an edge
under one and stray under the other; so the grammar decides which lines are edges and which are
ignored, and nothing else. -/

namespace ChenDiagram.Source
open Text Dot
variable {g g' : EdgeGrammar} {line : List Char} {text : String}

/-! ## One line -/

theorem mem_active_iff {r : Rule} :
    r ∈ Rule.active g ↔ r ∈ Rule.declarationRules ∨ r = Rule.edgeRule g := by
  rw [Rule.active, List.mem_append, List.mem_singleton]

theorem edgeRule_notMem_active (hne : g ≠ g') : Rule.edgeRule g ∉ Rule.active g' := by
  intro hmem
  rcases mem_active_iff.mp hmem with hdeclaration | hsame
  · cases g <;> exact absurd hdeclaration (by decide)
  · refine hne ?_
    cases g <;> cases g' <;> cases hsame <;> rfl

/-- A line of one edge shape is stray where the other shape is in force. -/
theorem stray_of_edge {d : Declaration} (hne : g ≠ g') (h : Denotes (Rule.edgeRule g) line d) :
    Stray g' line where
  ne_nil := h.tight.ne_nil
  no_comment := by
    obtain ⟨hne_nil, hfirst, -⟩ := h.tight
    cases line with
    | nil => exact absurd rfl hne_nil
    | cons c line =>
      rintro hhash
      obtain rfl := Option.some.inj hhash
      exact absurd (stops_cons.mp hfirst) (by decide)
  unclassified := classify_eq_none_iff.mpr fun r hr d' hd' =>
    edgeRule_notMem_active hne (h.rule_unique hd' ▸ hr)

/-- The lines that are stray under one grammar only are the edges of the other. -/
theorem stray_not_stray_iff (hne : g ≠ g') :
    Stray g line ∧ ¬ Stray g' line ↔ ((Rule.edgeRule g').read? line).isSome = true := by
  simp only [Option.isSome_iff_exists, read?_eq_some_iff]
  refine ⟨fun h => ?_, fun h => ?_⟩
  · obtain ⟨hstray, hother⟩ := h
    have hfound : classify g' line ≠ none := fun hnone =>
      hother ⟨hstray.ne_nil, hstray.no_comment, hnone⟩
    obtain ⟨⟨r, d⟩, hrd⟩ := Option.ne_none_iff_exists'.mp hfound
    obtain ⟨hr, hd⟩ := denotes_of_classify hrd
    rcases mem_active_iff.mp hr with hr | rfl
    · have hactive : r ∈ Rule.active g := mem_active_iff.mpr (.inl hr)
      exact absurd hd (classify_eq_none_iff.mp hstray.unclassified r hactive d)
    · exact ⟨d, hd⟩
  · obtain ⟨d, hd⟩ := h
    refine ⟨stray_of_edge hne.symm hd, fun hstray => ?_⟩
    exact classify_eq_none_iff.mp hstray.unclassified _ (mem_active_iff.mpr (.inr rfl)) d hd

/-- How a line may be read under two grammars. -/
inductive Apart : Line → Line → Prop where
  | same {l : Line} : (∀ r e, l ≠ .declared r (.edge e)) → Apart l l
  | edge {r : Rule} {e : Edge} {t : String} : Apart (.declared r (.edge e)) (.unrecognized t)
  | stray {r : Rule} {e : Edge} {t : String} : Apart (.unrecognized t) (.declared r (.edge e))

theorem Denotes.exists_edge {d : Declaration} (h : Denotes (Rule.edgeRule g) line d) :
    ∃ e, d = .edge e := by
  cases g <;> cases h <;> exact ⟨_, rfl⟩

theorem read_of_edge {raw : List Char} {d : Declaration} (hne : g ≠ g')
    (h : Denotes (Rule.edgeRule g) (trim raw) d) :
    Line.read g raw = .declared (Rule.edgeRule g) d ∧
      Line.read g' raw = .unrecognized (String.ofList (trim raw)) :=
  ⟨read_eq_declared_iff.mpr (classify_eq_some_iff.mpr ⟨mem_active_iff.mpr (.inr rfl), h⟩),
    read_eq_unrecognized_iff.mpr ⟨stray_of_edge hne h, rfl⟩⟩

theorem read_congr {raw : List Char} (h : classify g (trim raw) = classify g' (trim raw)) :
    Line.read g raw = Line.read g' raw := by
  symm
  cases hread : Line.read g raw with
  | blank => exact read_eq_blank_iff.mpr (read_eq_blank_iff.mp hread)
  | comment => exact read_eq_comment_iff.mpr (read_eq_comment_iff.mp hread)
  | declared r d => exact read_eq_declared_iff.mpr (h ▸ read_eq_declared_iff.mp hread)
  | unrecognized t =>
    obtain ⟨⟨hne, hcomment, hnone⟩, rfl⟩ := read_eq_unrecognized_iff.mp hread
    exact read_eq_unrecognized_iff.mpr ⟨⟨hne, hcomment, h ▸ hnone⟩, rfl⟩

theorem read_apart (hne : g ≠ g') (raw : List Char) :
    Apart (Line.read g raw) (Line.read g' raw) := by
  by_cases hedge : ∃ d, Denotes (Rule.edgeRule g) (trim raw) d
  · obtain ⟨d, hd⟩ := hedge
    obtain ⟨e, rfl⟩ := hd.exists_edge
    obtain ⟨hread, hread'⟩ := read_of_edge hne hd
    rw [hread, hread']
    exact .edge
  by_cases hedge' : ∃ d, Denotes (Rule.edgeRule g') (trim raw) d
  · obtain ⟨d, hd⟩ := hedge'
    obtain ⟨e, rfl⟩ := hd.exists_edge
    obtain ⟨hread', hread⟩ := read_of_edge hne.symm hd
    rw [hread, hread']
    exact .stray
  -- neither edge rule has the line, and the other rules are the same
  have hclassify : classify g (trim raw) = classify g' (trim raw) := by
    refine Option.ext fun found => ?_
    obtain ⟨r, d⟩ := found
    rw [classify_eq_some_iff, classify_eq_some_iff, mem_active_iff, mem_active_iff]
    refine and_congr_left fun hd => or_congr_right ⟨fun hr => ?_, fun hr => ?_⟩
    · exact absurd ⟨d, hr ▸ hd⟩ hedge
    · exact absurd ⟨d, hr ▸ hd⟩ hedge'
  rw [← read_congr hclassify]
  refine .same fun r e hdeclared => hedge ⟨.edge e, ?_⟩
  have hfound := read_eq_declared_iff.mp hdeclared
  exact rule_of_classify_edge hfound ▸ (denotes_of_classify hfound).2

def Line.isEdge : Line → Bool
  | .declared _ (.edge _) => true
  | _ => false

def Line.isStray : Line → Bool
  | .unrecognized _ => true
  | _ => false

theorem Apart.pick_eq {α : Type} {pick : Declaration → Option α} {l l' : Line} (h : Apart l l')
    (hedge : ∀ e, pick (.edge e) = none) :
    l.declaration?.bind pick = l'.declaration?.bind pick := by
  cases h with
  | same => rfl
  | edge => exact hedge _
  | stray => exact (hedge _).symm

/-- An edge on one side is a stray line on the other. -/
theorem Apart.count_eq {l l' : Line} (h : Apart l l') :
    (if l.isEdge then 1 else 0) + (if l.isStray then 1 else 0) =
      (if l'.isEdge then 1 else 0) + if l'.isStray then 1 else 0 := by
  cases h <;> rfl

theorem Apart.isStray_of_isEdge {l l' : Line} (h : Apart l l') (hedge : l'.isEdge = true) :
    l.isStray = true := by
  cases h with
  | @same l hnone =>
    match l with
    | .declared r (.edge e) => exact absurd rfl (hnone r e)
  | edge => cases hedge
  | stray => rfl

/-! ## All lines -/

theorem filterMap_accepted {α : Type} (pick : Declaration → Option α) (g : EdgeGrammar)
    (text : String) : (accepted g text).filterMap pick =
      (pieces '\n' text.toList).filterMap fun raw => (Line.read g raw).declaration?.bind pick := by
  unfold accepted
  rw [List.filterMap_filterMap]
  simp only [declaration?_read]

/-- What lines other than edges declare does not depend on the grammar. -/
theorem filterMap_accepted_eq {α : Type} {pick : Declaration → Option α} (hne : g ≠ g')
    (hedge : ∀ e, pick (.edge e) = none) (text : String) :
    (accepted g text).filterMap pick = (accepted g' text).filterMap pick := by
  rw [filterMap_accepted, filterMap_accepted]
  exact List.filterMap_congr fun raw _ => (read_apart hne raw).pick_eq hedge

theorem diagram_eq_but_edges (hne : g ≠ g') (text : String) :
    { (parse g text).diagram with edges := (parse g' text).diagram.edges } =
      (parse g' text).diagram := by
  rw [diagram_parse, diagram_parse, Diagram.ofDeclarations, Diagram.ofDeclarations]
  refine Diagram.ext ?_ ?_ ?_ ?_ ?_ rfl ?_
  · rw [Diagram.entities_addAll, Diagram.entities_addAll,
      filterMap_accepted_eq hne (fun _ => rfl)]
  · rw [Diagram.relationships_addAll, Diagram.relationships_addAll,
      filterMap_accepted_eq hne (fun _ => rfl)]
  · rw [Diagram.attributes_addAll, Diagram.attributes_addAll,
      filterMap_accepted_eq hne (fun _ => rfl)]
  · rw [Diagram.composites_addAll, Diagram.composites_addAll,
      filterMap_accepted_eq hne (fun _ => rfl)]
  · rw [Diagram.generalizations_addAll, Diagram.generalizations_addAll,
      filterMap_accepted_eq hne (fun _ => rfl)]
  · rw [Diagram.theme_addAll, Diagram.theme_addAll,
      filterMap_accepted_eq hne (fun _ => rfl)]

theorem length_edges_parse (g : EdgeGrammar) (text : String) :
    (parse g text).diagram.edges.length =
      (pieces '\n' text.toList).countP fun raw => (Line.read g raw).isEdge := by
  rw [diagram_parse, Diagram.ofDeclarations, Diagram.edges_addAll, filterMap_accepted,
    List.nil_append, List.length_filterMap_eq_countP]
  refine List.countP_congr fun raw _ => ?_
  cases Line.read g raw with
  | declared r d => cases d <;> exact Iff.rfl
  | blank | comment | unrecognized _ => exact Iff.rfl

theorem length_ignored_parse (g : EdgeGrammar) (text : String) :
    (parse g text).ignored.length =
      (pieces '\n' text.toList).countP fun raw => (Line.read g raw).isStray := by
  have hfst := List.zipIdx_map_fst 0 (pieces '\n' text.toList)
  show (ignoredLines (readLines g text)).length = _
  unfold ignoredLines readLines
  rw [← hfst, List.countP_map, List.length_filterMap_eq_countP, List.countP_map, hfst]
  refine List.countP_congr fun p _ => ?_
  obtain ⟨raw, i⟩ := p
  show _ ↔ (Line.read g raw).isStray = true
  simp only [Function.comp_apply]
  generalize Line.read g raw = l
  cases l <;> exact Iff.rfl

/-- Edges and ignored lines together are as many under either grammar. -/
theorem length_edges_add_length_ignored (hne : g ≠ g') (text : String) :
    (parse g text).diagram.edges.length + (parse g text).ignored.length =
      (parse g' text).diagram.edges.length + (parse g' text).ignored.length := by
  simp only [length_edges_parse, length_ignored_parse]
  induction pieces '\n' text.toList with
  | nil => rfl
  | cons raw raws ih =>
    have hraw := (read_apart hne raw).count_eq
    simp only [List.countP_cons]
    omega

/-! ## Ignored lines -/

theorem mem_numbers_iff {n : Nat} {raw : List Char} (hline : LineAt text n raw) :
    n ∈ (parse g text).ignored.map Ignored.line ↔ Stray g (trim raw) := by
  rw [List.mem_map]
  refine ⟨fun h => ?_, fun h => ?_⟩
  · obtain ⟨i, hi, rfl⟩ := h
    obtain ⟨raw', hline', hstray, -⟩ := (mem_ignored_parse i).mp hi
    rwa [hline.unique hline']
  · exact ⟨⟨n, String.ofList (trim raw)⟩, (mem_ignored_parse _).mpr ⟨raw, hline, h, rfl⟩, rfl⟩

/-- An ignored line is listed alike under either grammar that ignores it. -/
theorem mem_ignored_of_mem_numbers {i : Ignored} (hi : i ∈ (parse g text).ignored)
    (hline : i.line ∈ (parse g' text).ignored.map Ignored.line) :
    i ∈ (parse g' text).ignored := by
  obtain ⟨raw, hraw, -, htext⟩ := (mem_ignored_parse i).mp hi
  exact (mem_ignored_parse i).mpr ⟨raw, hraw, (mem_numbers_iff hraw).mp hline, htext⟩

theorem filter_ignored_eq (g g' : EdgeGrammar) (text : String) :
    (parse g text).ignored.filter (·.line ∈ (parse g' text).ignored.map Ignored.line) =
      (parse g' text).ignored.filter (·.line ∈ (parse g text).ignored.map Ignored.line) := by
  have : Std.Irrefl fun i j : Ignored => i.line < j.line := ⟨fun i => Nat.lt_irrefl i.line⟩
  have : Std.Antisymm fun i j : Ignored => i.line < j.line :=
    ⟨fun _ _ h h' => absurd h (Nat.lt_asymm h')⟩
  refine ((ignored_parse_increasing g text).filter _).eq_of_mem_iff
    ((ignored_parse_increasing g' text).filter _) fun i => ?_
  simp only [List.mem_filter, decide_eq_true_eq]
  refine ⟨fun h => ?_, fun h => ?_⟩
  · exact ⟨mem_ignored_of_mem_numbers h.1 h.2, List.mem_map_of_mem h.1⟩
  · exact ⟨mem_ignored_of_mem_numbers h.1 h.2, List.mem_map_of_mem h.1⟩

/-- Where one grammar ignores nothing the other finds no edges. -/
theorem edges_eq_nil_of_ignored (hne : g ≠ g') (h : (parse g text).ignored = []) :
    (parse g' text).diagram.edges = [] := by
  have hstray := length_ignored_parse g text
  rw [h, List.length_nil, eq_comm, List.countP_eq_zero] at hstray
  rw [← List.length_eq_zero_iff, length_edges_parse, List.countP_eq_zero]
  intro raw hraw hedge
  exact hstray raw hraw ((read_apart hne raw).isStray_of_isEdge hedge)

/-- The edge grammar changes edges only. Diagrams of a text agree but for their edges; the lines
that one grammar alone ignores are the edges of the other, and the rest of the ignored lines is the
same; each line that is an edge under one is one more line to ignore under the other. So a text that
strict compilation accepts under both grammars has no edges and one drawing. -/
theorem edge_grammar_changes_edges_only (text : String) :
    let F := parse .full text
    let S := parse .simplified text
    { F.diagram with edges := S.diagram.edges } = S.diagram ∧
    (∀ n raw, LineAt text n raw →
      (n ∈ F.ignored.map Ignored.line ∧ n ∉ S.ignored.map Ignored.line ↔
        (Rule.simplifiedEdge.read? (trim raw)).isSome = true) ∧
      (n ∈ S.ignored.map Ignored.line ∧ n ∉ F.ignored.map Ignored.line ↔
        (Rule.edge.read? (trim raw)).isSome = true)) ∧
    F.ignored.filter (·.line ∈ S.ignored.map Ignored.line) =
      S.ignored.filter (·.line ∈ F.ignored.map Ignored.line) ∧
    F.diagram.edges.length + F.ignored.length = S.diagram.edges.length + S.ignored.length ∧
    ∀ direction c c', compileWith ⟨.full, direction, true⟩ text = .ok c →
      compileWith ⟨.simplified, direction, true⟩ text = .ok c' →
      c.dot = c'.dot ∧ F.diagram.edges = [] ∧ S.diagram.edges = [] := by
  intro F S
  have hne : EdgeGrammar.full ≠ .simplified := by decide
  have hdiagram := diagram_eq_but_edges hne text
  refine ⟨hdiagram, fun n raw hline => ?_, filter_ignored_eq _ _ text,
    length_edges_add_length_ignored hne text, fun direction c c' hc hc' => ?_⟩
  · simp only [F, S, mem_numbers_iff hline]
    exact ⟨stray_not_stray_iff hne, stray_not_stray_iff hne.symm⟩
  · obtain ⟨hclean, rfl⟩ := compileWith_eq_ok_iff.mp hc
    obtain ⟨hclean', rfl⟩ := compileWith_eq_ok_iff.mp hc'
    have hfull : F.diagram.edges = [] := edges_eq_nil_of_ignored hne.symm (hclean' rfl)
    have hsimplified : S.diagram.edges = [] := edges_eq_nil_of_ignored hne (hclean rfl)
    have hsame : F.diagram = S.diagram := by
      rw [← hdiagram, hsimplified, ← hfull]
    refine ⟨?_, hfull, hsimplified⟩
    show render F.diagram direction = render S.diagram direction
    rw [hsame]

/-- A line of either shape is ignored where the other shape is in force, and a text without edges
compiles under both grammars. -/
theorem edge_grammar_changes_edges_only_both_shapes :
    let text := "entity A\nA (1) -- (N) B\nR A (1) TOTAL -- (N) PARTIAL B"
    (LineAt text 2 "A (1) -- (N) B".toList ∧
      2 ∈ (parse .full text).ignored.map Ignored.line ∧
      2 ∉ (parse .simplified text).ignored.map Ignored.line) ∧
    (LineAt text 3 "R A (1) TOTAL -- (N) PARTIAL B".toList ∧
      3 ∈ (parse .simplified text).ignored.map Ignored.line ∧
      3 ∉ (parse .full text).ignored.map Ignored.line) ∧
    ∃ c c', compileWith ⟨.full, .topDown, true⟩ "weak entity A" = .ok c ∧
      compileWith ⟨.simplified, .topDown, true⟩ "weak entity A" = .ok c' ∧ c.dot = c'.dot := by
  intro text
  obtain ⟨-, hlines, -⟩ := edge_grammar_changes_edges_only text
  have hsecond : LineAt text 2 "A (1) -- (N) B".toList := lineAt_succ_iff.mpr (by decide)
  have hthird : LineAt text 3 "R A (1) TOTAL -- (N) PARTIAL B".toList :=
    lineAt_succ_iff.mpr (by decide)
  obtain ⟨-, -, -, -, hstrict⟩ := edge_grammar_changes_edges_only "weak entity A"
  have hfull := compileWith_eq_ok_iff (o := ⟨.full, .topDown, true⟩).mpr
    ⟨fun _ => (by decide +kernel : (parse .full "weak entity A").ignored = []), rfl⟩
  have hsimplified := compileWith_eq_ok_iff (o := ⟨.simplified, .topDown, true⟩).mpr
    ⟨fun _ => (by decide +kernel : (parse .simplified "weak entity A").ignored = []), rfl⟩
  refine ⟨⟨hsecond, (hlines 2 _ hsecond).1.mpr (by decide +kernel)⟩,
    ⟨hthird, (hlines 3 _ hthird).2.mpr (by decide +kernel)⟩, _, _, hfull, hsimplified,
    (hstrict .topDown _ _ hfull hsimplified).1⟩

end ChenDiagram.Source
