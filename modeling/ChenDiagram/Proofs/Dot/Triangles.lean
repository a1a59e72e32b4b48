import ChenDiagram.Proofs.Dot.Identifiers
import ChenDiagram.Proofs.Dot.Redeclaration

/-! Every group has a triangle of its own. A supertype may hold underscores, and even end as an
identifier does, so the names in the identifier of a triangle cannot be told from the left. But the
position of the group comes last and is a numeral, which has no underscore: whatever the supertype,
the position is what follows the last underscore. -/

namespace ChenDiagram.Dot
open Text

/-! ## The last underscore -/

theorem underscore_notMem_toString (n : Nat) : '_' ∉ (toString n).toList := by
  intro h
  rw [Nat.toString_eq_ofList_toDigits, String.toList_ofList] at h
  exact absurd (Nat.isDigit_of_mem_toDigits (by decide) (by decide) h) (by decide)

/-- A text is cut at its last underscore in one way only, whatever stands before it. -/
theorem append_underscore_inj_last {a b s t : String} (hs : '_' ∉ s.toList) (ht : '_' ∉ t.toList)
    (h : a ++ "_" ++ s = b ++ "_" ++ t) : a = b ∧ s = t := by
  -- nothing says that `a` and `b` have equally many pieces, so these are matched from the end
  have hpieces : pieces '_' a.toList ++ [s.toList] = pieces '_' b.toList ++ [t.toList] := by
    rw [← pieces_of_notMem hs, ← pieces_of_notMem ht, ← pieces_append, ← pieces_append]
    simpa using congrArg (fun text => pieces '_' text.toList) h
  obtain rfl : s = t := String.toList_inj.mp (List.append_singleton_inj.mp hpieces).2
  rw [String.append_left_inj, String.append_left_inj] at h
  exact ⟨h, rfl⟩

/-- The identifier of a triangle tells both the supertype and the position. -/
theorem triangleId_inj {supertype supertype' : String} {i j : Nat}
    (h : triangleId supertype i = triangleId supertype' j) : supertype = supertype' ∧ i = j := by
  have hisa : "_ISA_" = "_ISA" ++ "_" := rfl
  have hcut : ∀ name n, triangleId name n = name ++ "_ISA" ++ "_" ++ toString n := by
    intro name n
    simp only [triangleId_eq, hisa, String.append_assoc]
  rw [hcut, hcut] at h
  obtain ⟨hfront, hposition⟩ := append_underscore_inj_last (underscore_notMem_toString i)
    (underscore_notMem_toString j) h
  exact ⟨(String.append_left_inj _).mp hfront, toString_inj hposition⟩

/-- Texts are read back from between the quotes, so no two of them are quoted alike. -/
theorem quoted_inj {s t : String} (h : quoted s = quoted t) : s = t := by
  have hread := congrArg (fun cs => quotedText (cs ++ [])) h
  simp only [quotedText_quoted, Option.some.injEq, Prod.mk.injEq, and_true] at hread
  exact hread

/-! ## Triangles in a drawing -/

/-- The node of a group. -/
def triangle (x : Generalization) (position : Nat) : Statement :=
  .node (triangleId x.supertype position) [.shape .triangle, .label "ISA"]

theorem filter_ofGeneralization (x : Generalization) (position : Nat) :
    (ofGeneralization x position).filter (hasShape .triangle) = [triangle x position] := by
  have hsubtypes : ∀ s ∈ x.subtypes.map fun sub =>
      Statement.connector (triangleId x.supertype position) sub [],
      ¬ hasShape .triangle s = true := by
    simp [hasShape]
  rw [ofGeneralization, List.filter_append, List.filter_eq_nil_iff.mpr hsubtypes, List.append_nil]
  rfl

/-- The triangles of a drawing are those of its groups, one for each position. -/
theorem filter_triangle (d : Diagram) : (statements d).filter (drawnAs .triangle) =
    d.generalizations.zipIdx.map fun (x, position) => triangle x position := by
  have hentities : (d.entities.values.map (ofEntity d.theme)).filter (hasShape .triangle) = [] := by
    simp [ofEntity, hasShape]
  have hrelationships :
      (d.relationships.values.map (ofRelationship d.theme)).filter (hasShape .triangle) = [] := by
    simp [ofRelationship, hasShape]
  have hellipses : (ellipseStatements d).filter (hasShape .triangle) = [] :=
    List.filter_eq_nil_iff.mpr fun s hs => Bool.eq_false_iff.mp
      (hasShape_of_hung (hung_ellipseStatements d s hs) (by decide))
  have hedges : (d.edges.flatMap ofEdge).filter (hasShape .triangle) = [] :=
    List.filter_eq_nil_iff.mpr fun s hs => Bool.eq_false_iff.mp (hasShape_edges d.edges _ s hs)
  rw [filter_drawnAs_statements, statements_eq_append, lateStatements]
  simp only [List.filter_append, hentities, hrelationships, hellipses, hedges, List.nil_append,
    List.append_nil]
  rw [generalizationStatements, List.filter_flatMap, List.map_eq_flatMap]
  exact congrArg (List.flatMap · _) (funext fun p => filter_ofGeneralization p.1 p.2)

/-- Every statement is printed somewhere in the drawing. -/
theorem exists_print {d : Diagram} {s : Statement} (h : s ∈ statements d) (direction : Direction) :
    ∃ before after, (render d direction).toList = before ++ s.print ++ after := by
  obtain ⟨before, after, hs⟩ := List.append_of_mem h
  refine ⟨heading direction ++ before.flatMap Statement.print,
    after.flatMap Statement.print ++ closing, ?_⟩
  rw [render, document, Document.print, String.toList_ofList, hs]
  simp only [List.flatMap_append, List.flatMap_cons, List.append_assoc]

/-- A triangle has a line of its own, which starts with the quoted identifier. -/
theorem print_triangle (x : Generalization) (position : Nat) : (triangle x position).print =
    "  ".toList ++ quoted (triangleId x.supertype position) ++
      " [shape=triangle, label=\"ISA\"];\n".toList := by
  have hattrs : ' ' :: spellAttrs [.shape .triangle, .label "ISA"] ++ ";\n".toList =
      " [shape=triangle, label=\"ISA\"];\n".toList := rfl
  rw [triangle, Statement.print, Statement.spell, ← hattrs]
  simp only [List.append_assoc]

/-- Every group has a triangle of its own. The triangles of a drawing are one for each group, in
order, and the text has their identifiers in quotes. The identifiers of groups at two positions
differ, whatever the supertypes hold and also if they are equal, and so do the quoted ones. -/
theorem groups_have_own_triangles (d : Diagram) (direction : Direction) :
    (∃ doc, Document.read? (render d direction) = some doc ∧
      doc.statements.filter (drawnAs .triangle) =
        d.generalizations.zipIdx.map fun (x, position) => triangle x position) ∧
    (∀ i x, d.generalizations[i]? = some x → ∃ before after, (render d direction).toList =
      before ++ quoted (triangleId x.supertype i) ++
        " [shape=triangle, label=\"ISA\"];\n".toList ++ after) ∧
    ∀ i j x y, i ≠ j → d.generalizations[i]? = some x → d.generalizations[j]? = some y →
      triangleId x.supertype i ≠ triangleId y.supertype j ∧
      quoted (triangleId x.supertype i) ≠ quoted (triangleId y.supertype j) := by
  refine ⟨⟨_, read?_print _, filter_triangle d⟩, fun i x hx => ?_, fun i j x y hij hx hy => ?_⟩
  · have hmem : triangle x i ∈ (statements d).filter (drawnAs .triangle) := by
      rw [filter_triangle]
      exact List.mem_map.mpr ⟨(x, i), List.mem_zipIdx_iff_getElem?.mpr hx, rfl⟩
    obtain ⟨before, after, htext⟩ := exists_print (List.mem_filter.mp hmem).1 direction
    refine ⟨before ++ "  ".toList, after, ?_⟩
    rw [htext, print_triangle]
    simp only [List.append_assoc]
  · have hid : triangleId x.supertype i ≠ triangleId y.supertype j :=
      fun h => hij (triangleId_inj h).2
    exact ⟨hid, fun h => hid (quoted_inj h)⟩

/-- Two groups have one supertype, and that of another looks like the identifier of the first. -/
theorem groups_have_own_triangles_lookalike :
    let d : Diagram := { generalizations := [⟨"P", ["A"]⟩, ⟨"P_ISA_0", ["B"]⟩, ⟨"P", ["C"]⟩] }
    d.generalizations[0]? = some ⟨"P", ["A"]⟩ ∧ d.generalizations[1]? = some ⟨"P_ISA_0", ["B"]⟩ ∧
    d.generalizations[2]? = some ⟨"P", ["C"]⟩ ∧
    (triangleId "P" 0 ≠ triangleId "P_ISA_0" 1 ∧
      quoted (triangleId "P" 0) ≠ quoted (triangleId "P_ISA_0" 1)) ∧
    triangleId "P" 0 ≠ triangleId "P" 2 ∧
      quoted (triangleId "P" 0) ≠ quoted (triangleId "P" 2) := by
  intro d
  obtain ⟨-, -, hdiffer⟩ := groups_have_own_triangles d .leftRight
  exact ⟨rfl, rfl, rfl, hdiffer 0 1 ⟨"P", ["A"]⟩ ⟨"P_ISA_0", ["B"]⟩ (by decide) rfl rfl,
    hdiffer 0 2 ⟨"P", ["A"]⟩ ⟨"P", ["C"]⟩ (by decide) rfl rfl⟩

end ChenDiagram.Dot
