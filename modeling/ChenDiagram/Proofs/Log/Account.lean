import ChenDiagram.Log.Event
import ChenDiagram.Proofs.Model.Replay
import ChenDiagram.Proofs.Source.Invariant
import ChenDiagram.Proofs.Source.Numbering
import Mathlib.Data.Set.Card

/-! Every line of a text is accounted for exactly once: in the diagram or in the list of ignored
lines, and in the log. `Account` says what that means of a text, its ignored lines, the events of
its lines and the summary at their end; it speaks of where lines stand and how they are classified,
not of how a text is cut and read. -/

namespace ChenDiagram

/-- The name that a declaration of an entity or of a relationship is about. -/
def Declaration.name? : Declaration → Option String
  | .entity e => some e.name
  | .relationship r => some r.name
  | _ => none

namespace Log
open Text Source
variable {g : EdgeGrammar} {text : String} {n : Nat} {raw : List Char}

/-! ## Accounts -/

/-- What can become of a line. -/
inductive Fate where
  | blank
  | comment
  | accepted
  | ignored

/-- This became of line `n`, which is `line` when trimmed. -/
def Fate.Befell (g : EdgeGrammar) (ignored : List Ignored) (n : Nat) (line : List Char) :
    Fate → Prop
  | .blank => line = []
  | .comment => line.head? = some '#'
  | .accepted => (classify g line).isSome
  | .ignored => ⟨n, String.ofList line⟩ ∈ ignored

namespace Event

/-- The rule of the line that was accepted. -/
def rule? : Event → Option Rule
  | .classified _ r => some r
  | _ => none

/-- The number of the line that an event is about. -/
def line? : Event → Option Nat
  | .classified n _ | .passedOver n _ | .ignored n _ => some n
  | .parsed _ | .compiled _ => none

end Event

/-- A line under one of these rules declares this name. -/
def Declares (g : EdgeGrammar) (text : String) (rules : List Rule) (name : String) : Prop :=
  ∃ n raw r d, LineAt text n raw ∧ classify g (trim raw) = some (r, d) ∧ r ∈ rules ∧
    d.name? = some name

/-- The ignored lines, the events and the summary together account for the lines of a text. -/
structure Account (g : EdgeGrammar) (text : String) (ignored : List Ignored)
    (events : List Event) (summary : Summary) : Prop where
  one_fate : ∀ n raw, LineAt text n raw → ∃! fate : Fate, fate.Befell g ignored n (trim raw)
  mem_ignored : ∀ i, i ∈ ignored ↔
    ∃ raw, LineAt text i.line raw ∧ Stray g (trim raw) ∧ i.text = String.ofList (trim raw)
  ignored_increasing : ignored.Pairwise fun i j => i.line < j.line
  -- one event for an accepted line and one for a stray line, since numbers increase
  mem_events : ∀ e, e ∈ events ↔
    (∃ n raw r d, LineAt text n raw ∧ classify g (trim raw) = some (r, d) ∧
      e = .classified n r) ∨
    ∃ n raw, LineAt text n raw ∧ Stray g (trim raw) ∧ e = .passedOver n (String.ofList (trim raw))
  level : ∀ e ∈ events, e.level = if e.rule?.isSome then .trace else .debug
  -- what is shown of an event tells the line and, by its name, the rule
  line_shown : ∀ e ∈ events, ∀ n, ("line_number", .number n) ∈ e.fields ↔ e.line? = some n
  rule_shown : ∀ e ∈ events, ∀ r, ("rule", .quoted (Rule.label r)) ∈ e.fields ↔ e.rule? = some r
  events_increasing : (events.filterMap Event.line?).Pairwise (· < ·)
  -- a name that is declared again counts once
  entities : summary.entities = {name | Declares g text [.weakEntity, .entity] name}.ncard
  relationships : summary.relationships =
    {name | Declares g text [.identifyingRelationship, .relationship] name}.ncard
  attributes : summary.attributes = events.countP fun e => e.rule? = some .attribute
  composites : summary.composites = events.countP fun e => e.rule? = some .composite
  generalizations : summary.generalizations = events.countP fun e => e.rule? = some .isa
  edges : summary.edges =
    events.countP fun e => e.rule? = some .edge ∨ e.rule? = some .simplifiedEdge
  ignored_count : summary.ignored = events.countP fun e => e.level = .debug

/-! ## Fates -/

/-- How a line was read settles its fate. -/
def Fate.of : Line → Fate
  | .blank => .blank
  | .comment => .comment
  | .declared .. => .accepted
  | .unrecognized _ => .ignored

theorem befell_iff (hline : LineAt text n raw) (f : Fate) :
    f.Befell g (parse g text).ignored n (trim raw) ↔ f = .of (Line.read g raw) := by
  cases f with
  | blank =>
    show trim raw = [] ↔ _
    rw [← read_eq_blank_iff (g := g)]
    cases Line.read g raw <;> simp [Fate.of]
  | comment =>
    show (trim raw).head? = some '#' ↔ _
    rw [← read_eq_comment_iff (g := g)]
    cases Line.read g raw <;> simp [Fate.of]
  | accepted =>
    show (classify g (trim raw)).isSome ↔ _
    simp only [Option.isSome_iff_exists, Prod.exists, ← read_eq_declared_iff]
    cases Line.read g raw <;> simp [Fate.of]
  | ignored =>
    have hstray : (⟨n, String.ofList (trim raw)⟩ : Ignored) ∈ (parse g text).ignored ↔
        ∃ t, Line.read g raw = .unrecognized t := by
      simp only [mem_ignored_parse, read_eq_unrecognized_iff, exists_eq_right]
      refine ⟨fun h => ?_, fun h => ⟨raw, hline, h, rfl⟩⟩
      obtain ⟨raw', hline', hstray, -⟩ := h
      rwa [hline.unique hline']
    show _ ∈ _ ↔ _
    rw [hstray]
    cases Line.read g raw <;> simp [Fate.of]

/-! ## Events -/

/-- What reading reports about one line. -/
def ofLine : Nat × Line → Option Event
  | (n, .declared rule _) => some (.classified n rule)
  | (n, .unrecognized text) => some (.passedOver n text)
  | _ => none

theorem ofText_eq (g : EdgeGrammar) (text : String) : ofText g text =
    (readLines g text).filterMap ofLine ++ [.parsed (.of (parse g text))] := rfl

theorem mem_filterMap_ofLine {lines : List (Nat × Line)} {e : Event} :
    e ∈ lines.filterMap ofLine ↔
      (∃ n r d, (n, .declared r d) ∈ lines ∧ e = .classified n r) ∨
      ∃ n t, (n, .unrecognized t) ∈ lines ∧ e = .passedOver n t := by
  rw [List.mem_filterMap]
  refine ⟨fun h => ?_, fun h => ?_⟩
  · obtain ⟨⟨n, line⟩, hmem, he⟩ := h
    cases line with
    | declared r d => cases he; exact .inl ⟨n, r, d, hmem, rfl⟩
    | unrecognized t => cases he; exact .inr ⟨n, t, hmem, rfl⟩
    | _ => cases he
  · rcases h with ⟨n, r, d, hmem, rfl⟩ | ⟨n, t, hmem, rfl⟩
    · exact ⟨_, hmem, rfl⟩
    · exact ⟨_, hmem, rfl⟩

theorem mem_events_iff (e : Event) : e ∈ (readLines g text).filterMap ofLine ↔
    (∃ n raw r d, LineAt text n raw ∧ classify g (trim raw) = some (r, d) ∧
      e = .classified n r) ∨
    ∃ n raw, LineAt text n raw ∧ Stray g (trim raw) ∧
      e = .passedOver n (String.ofList (trim raw)) := by
  rw [mem_filterMap_ofLine]
  simp only [mem_readLines, read_eq_declared_iff, read_eq_unrecognized_iff]
  refine or_congr ⟨fun h => ?_, fun h => ?_⟩ ⟨fun h => ?_, fun h => ?_⟩
  · obtain ⟨n, r, d, ⟨raw, hline, hfound⟩, rfl⟩ := h
    exact ⟨n, raw, r, d, hline, hfound, rfl⟩
  · obtain ⟨n, raw, r, d, hline, hfound, rfl⟩ := h
    exact ⟨n, r, d, ⟨raw, hline, hfound⟩, rfl⟩
  · obtain ⟨n, t, ⟨raw, hline, hstray, rfl⟩, rfl⟩ := h
    exact ⟨n, raw, hline, hstray, rfl⟩
  · obtain ⟨n, raw, hline, hstray, rfl⟩ := h
    exact ⟨n, _, ⟨raw, hline, hstray, rfl⟩, rfl⟩

theorem level_of_mem {lines : List (Nat × Line)} {e : Event} (h : e ∈ lines.filterMap ofLine) :
    e.level = if e.rule?.isSome then .trace else .debug := by
  rcases mem_filterMap_ofLine.mp h with ⟨n, r, d, -, rfl⟩ | ⟨n, t, -, rfl⟩
  · rfl
  · rfl

theorem line_shown_of_mem {lines : List (Nat × Line)} {e : Event}
    (h : e ∈ lines.filterMap ofLine) (n : Nat) :
    ("line_number", .number n) ∈ e.fields ↔ e.line? = some n := by
  rcases mem_filterMap_ofLine.mp h with ⟨m, r, d, -, rfl⟩ | ⟨m, t, -, rfl⟩
  · simp [Event.fields, Event.line?, eq_comm]
  · simp [Event.fields, Event.line?, eq_comm]

/-- No two rules have one name. -/
theorem label_injective : Function.Injective Rule.label := by
  intro r r' h
  have hall : ∀ r, r ∈ Rule.active .full ++ [Rule.simplifiedEdge] := by
    intro r
    cases r <;> decide
  have hlabels : ((Rule.active .full ++ [Rule.simplifiedEdge]).map Rule.label).Nodup := by decide
  exact List.inj_on_of_nodup_map hlabels (hall r) (hall r') h

theorem rule_shown_iff (e : Event) (r : Rule) :
    ("rule", .quoted r.label) ∈ e.fields ↔ e.rule? = some r := by
  cases e with
  | classified n rule =>
    simp [Event.fields, Event.rule?, label_injective.eq_iff, eq_comm]
  | _ => simp [Event.fields, Event.rule?]

theorem line?_ofLine {l : Nat × Line} {m : Nat} (h : (ofLine l).bind Event.line? = some m) :
    m = l.1 := by
  obtain ⟨n, line⟩ := l
  cases line <;> cases h
  · rfl
  · rfl

theorem events_increasing (g : EdgeGrammar) (text : String) :
    (((readLines g text).filterMap ofLine).filterMap Event.line?).Pairwise (· < ·) := by
  rw [List.filterMap_filterMap]
  refine (readLines_increasing g text).filterMap _ fun l l' hlt m hm m' hm' => ?_
  rw [line?_ofLine hm, line?_ofLine hm']
  exact hlt

/-! ## Counts -/

/-- A list of a diagram that declarations of one kind make is as long as there are events of the
rules for that kind. -/
theorem length_parse {α : Type} {view : Diagram → List α} {pick : Declaration → Option α}
    {p : Event → Bool} (hview : ∀ xs, view (.ofDeclarations xs) = xs.filterMap pick)
    (haccepted : ∀ n r line d, Denotes r line d → (pick d).isSome = p (.classified n r))
    (hstray : ∀ n t, p (.passedOver n t) = false) :
    (view (parse g text).diagram).length = ((readLines g text).filterMap ofLine).countP p := by
  show (view (.ofDeclarations (declarations (readLines g text)))).length = _
  rw [hview, declarations, List.filterMap_filterMap, List.length_filterMap_eq_countP,
    List.countP_filterMap]
  refine List.countP_congr fun l hl => ?_
  obtain ⟨n, line⟩ := l
  cases line with
  | blank => exact Iff.rfl
  | comment => exact Iff.rfl
  | declared r d =>
    obtain ⟨line, hline⟩ := denotes_of_mem_readLines hl
    show (pick d).isSome = true ↔ p (.classified n r) = true
    rw [haccepted n r line d hline]
  | unrecognized t =>
    show false = true ↔ p (.passedOver n t) = true
    rw [hstray]

theorem length_ignoredLines (lines : List (Nat × Line)) :
    (ignoredLines lines).length =
      (lines.filterMap ofLine).countP fun e => e.level = .debug := by
  unfold ignoredLines
  rw [List.length_filterMap_eq_countP, List.countP_filterMap]
  refine List.countP_congr fun l _ => ?_
  obtain ⟨n, line⟩ := l
  cases line <;> exact Iff.rfl

theorem mem_names_iff {α : Type} {pick : Declaration → Option α} {key : α → String}
    {rules : List Rule}
    (h : ∀ r line d, Denotes r line d →
      ∀ name, (∃ x, pick d = some x ∧ key x = name) ↔ r ∈ rules ∧ d.name? = some name)
    (name : String) :
    name ∈ ((declarations (readLines g text)).filterMap pick).map key ↔
      Declares g text rules name := by
  simp only [List.mem_map, List.mem_filterMap, mem_declarations_parse, mem_pieces_iff_lineAt]
  refine ⟨fun hname => ?_, fun hname => ?_⟩
  · obtain ⟨x, ⟨d, ⟨raw, ⟨n, hline⟩, r, hfound⟩, hpick⟩, hx⟩ := hname
    have hrule := (h r _ d (denotes_of_classify hfound).2 name).mp ⟨x, hpick, hx⟩
    exact ⟨n, raw, r, d, hline, hfound, hrule.1, hrule.2⟩
  · obtain ⟨n, raw, r, d, hline, hfound, hr, hd⟩ := hname
    obtain ⟨x, hpick, hx⟩ := (h r _ d (denotes_of_classify hfound).2 name).mpr ⟨hr, hd⟩
    exact ⟨x, ⟨d, ⟨raw, ⟨n, hline⟩, r, hfound⟩, hpick⟩, hx⟩

/-- A table of declarations has an entry for every name that was declared. -/
theorem size_eq_ncard {α : Type} {t : Table String α} {xs : List α} {key : α → String}
    {P : String → Prop} (ht : t = xs.foldl (fun t x => t.insert (key x) x) {})
    (hkeys : t.keys.Nodup) (h : ∀ name, name ∈ xs.map key ↔ P name) :
    t.size = {name | P name}.ncard := by
  have hmem : {name | P name} = (t.keys.toFinset : Set String) := by
    ext name
    show P name ↔ _
    rw [Finset.mem_coe, List.mem_toFinset, ← h, ht, Table.foldl_insert_eq_insertAll,
      Table.mem_keys_insertAll, List.map_map]
    exact (or_iff_right List.not_mem_nil).symm
  rw [hmem, Set.ncard_coe_finset, List.toFinset_card_of_nodup hkeys]
  exact (List.length_map _).symm

theorem size_entities (g : EdgeGrammar) (text : String) :
    (parse g text).diagram.entities.size =
      {name | Declares g text [.weakEntity, .entity] name}.ncard := by
  refine size_eq_ncard (Diagram.entities_addAll {} _) (wellFormed_parse g text).entityKeys
    (mem_names_iff fun r line d hd name => ?_)
  cases hd <;> simp [Declaration.entity?, Declaration.name?]

theorem size_relationships (g : EdgeGrammar) (text : String) :
    (parse g text).diagram.relationships.size =
      {name | Declares g text [.identifyingRelationship, .relationship] name}.ncard := by
  refine size_eq_ncard (Diagram.relationships_addAll {} _)
    (wellFormed_parse g text).relationshipKeys (mem_names_iff fun r line d hd name => ?_)
  cases hd <;> simp [Declaration.relationship?, Declaration.name?]

/-- Reading accounts for every line of a text, and the log ends with the one summary of it. -/
theorem account_ofText (g : EdgeGrammar) (text : String) :
    ∃ events summary, ofText g text = events ++ [.parsed summary] ∧
      Account g text (parse g text).ignored events summary := by
  refine ⟨_, _, ofText_eq g text, ?_⟩
  exact
    { one_fate := fun n raw hline =>
        ⟨.of (Line.read g raw), (befell_iff hline _).mpr rfl, fun f => (befell_iff hline f).mp⟩
      mem_ignored := mem_ignored_parse
      ignored_increasing := ignored_parse_increasing g text
      mem_events := mem_events_iff
      level := fun e => level_of_mem
      line_shown := fun e => line_shown_of_mem
      rule_shown := fun e _ => rule_shown_iff e
      events_increasing := events_increasing g text
      entities := size_entities g text
      relationships := size_relationships g text
      attributes := length_parse (Diagram.attributes_addAll {})
        (fun n r line d hd => by cases hd <;> rfl) fun n t => rfl
      composites := length_parse (Diagram.composites_addAll {})
        (fun n r line d hd => by cases hd <;> rfl) fun n t => rfl
      generalizations := length_parse (Diagram.generalizations_addAll {})
        (fun n r line d hd => by cases hd <;> rfl) fun n t => rfl
      edges := length_parse (Diagram.edges_addAll {})
        (fun n r line d hd => by cases hd <;> rfl) fun n t => rfl
      ignored_count := length_ignoredLines _ }

end Log
end ChenDiagram
