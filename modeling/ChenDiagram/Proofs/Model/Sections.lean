import ChenDiagram.Model.Diagram

/-! A diagram by sections. Each section of a diagram is fed by declarations of one kind alone, so
what a list of declarations makes of it can be said without the others. -/

namespace ChenDiagram

attribute [ext] Diagram

namespace Declaration

def color? : Declaration → Option (Channel × String)
  | .color channel text => some (channel, text)
  | _ => none

def generalization? : Declaration → Option Generalization
  | .generalization i => some i
  | _ => none

def entity? : Declaration → Option Entity
  | .entity e => some e
  | _ => none

def relationship? : Declaration → Option Relationship
  | .relationship r => some r
  | _ => none

def composite? : Declaration → Option Composite
  | .composite c => some c
  | _ => none

def attribute? : Declaration → Option Attribute
  | .attribute a => some a
  | _ => none

def edge? : Declaration → Option Edge
  | .edge e => some e
  | _ => none

end Declaration

/-! ## Tables -/

namespace Table
variable {κ α : Type}

theorem map_values {t : Table κ α} {name : α → κ} (hnames : ∀ e ∈ t.entries, e.1 = name e.2) :
    t.values.map (fun v => (name v, v)) = t.entries := by
  rw [values, List.map_map]
  refine (List.map_congr_left fun e he => ?_).trans (List.map_id _)
  exact Prod.ext (hnames e he).symm rfl

theorem map_name_values {t : Table κ α} {name : α → κ}
    (hnames : ∀ e ∈ t.entries, e.1 = name e.2) : t.values.map name = t.keys := by
  rw [values, List.map_map]
  exact List.map_congr_left fun e he => (hnames e he).symm

/-- A table whose keys are the names of its values is known from the values. -/
theorem eq_of_values_eq {t t' : Table κ α} {name : α → κ}
    (hnames : ∀ e ∈ t.entries, e.1 = name e.2) (hnames' : ∀ e ∈ t'.entries, e.1 = name e.2)
    (h : t.values = t'.values) : t = t' := by
  have hentries : t.entries = t'.entries := by
    rw [← map_values hnames, ← map_values hnames', h]
  obtain ⟨es⟩ := t
  obtain ⟨es'⟩ := t'
  rw [Table.mk.injEq]
  exact hentries

variable [DecidableEq κ]

theorem insertEntry_of_notMem {key : κ} {value : α} {es : List (κ × α)}
    (h : key ∉ es.map Prod.fst) : insertEntry key value es = es ++ [(key, value)] := by
  induction es with
  | nil => rfl
  | cons e es ih =>
    simp only [List.map_cons, List.mem_cons, not_or] at h
    rw [insertEntry, if_neg (Ne.symm h.1), ih h.2, List.cons_append]

theorem insertEntry_of_mem {key : κ} {es : List (κ × α)} (h : key ∈ es.map Prod.fst) (value : α) :
    ∃ before old after, es = before ++ (key, old) :: after ∧
      insertEntry key value es = before ++ (key, value) :: after := by
  induction es with
  | nil => cases h
  | cons e es ih =>
    obtain ⟨k, v⟩ := e
    by_cases hk : k = key
    · subst hk
      exact ⟨[], v, es, rfl, by simp [insertEntry]⟩
    · obtain ⟨before, old, after, hes, hinsert⟩ :=
        ih ((List.mem_cons.mp h).resolve_left (Ne.symm hk))
      refine ⟨(k, v) :: before, old, after, by rw [hes, List.cons_append], ?_⟩
      rw [insertEntry, if_neg hk, hinsert, List.cons_append]

theorem values_insert_of_notMem {t : Table κ α} {key : κ} {value : α} (h : key ∉ t.keys) :
    (t.insert key value).values = t.values ++ [value] := by
  rw [insert, insertEntry_of_notMem h, values, List.map_append]
  rfl

/-- In a table of named things, one more thing of a known name takes the place of the only other. -/
theorem values_insert_of_mem {t : Table κ α} {name : α → κ} {x : α} (hkeys : t.keys.Nodup)
    (hnames : ∀ e ∈ t.entries, e.1 = name e.2) (hx : name x ∈ t.keys) :
    ∃ before old after, t.values = before ++ old :: after ∧
      (t.insert (name x) x).values = before ++ x :: after ∧ name old = name x ∧
      ∀ y ∈ before ++ after, name y ≠ name x := by
  obtain ⟨before, old, after, hentries, hinsert⟩ := insertEntry_of_mem hx x
  refine ⟨before.map Prod.snd, old, after.map Prod.snd, ?_, ?_, ?_, fun y hy => ?_⟩
  · rw [values, hentries, List.map_append, List.map_cons]
  · rw [insert, values, hinsert, List.map_append, List.map_cons]
  · exact (hnames (name x, old) (by simp [hentries])).symm
  · rw [← List.map_append] at hy
    obtain ⟨⟨k, y⟩, hmem, rfl⟩ := List.mem_map.mp hy
    have hk : k = name y :=
      hnames (k, y) (by simp [hentries, or_left_comm, List.mem_append.mp hmem])
    have hperm : t.keys.Perm (name x :: (before ++ after).map Prod.fst) := by
      rw [keys, hentries]
      exact List.perm_middle.map Prod.fst
    have hnew := (List.nodup_cons.mp (hperm.nodup_iff.mp hkeys)).1
    intro hname
    have hkey : k = name x := hk.trans hname
    exact hnew (hkey ▸ List.mem_map_of_mem hmem)

theorem mem_insertEntry {key : κ} {value : α} {es : List (κ × α)} {e : κ × α}
    (h : e ∈ insertEntry key value es) : e = (key, value) ∨ e ∈ es := by
  induction es with
  | nil => simpa [insertEntry] using h
  | cons e' es ih =>
    rw [insertEntry] at h
    split at h
    · rcases List.mem_cons.mp h with h | h
      · exact .inl h
      · exact .inr (List.mem_cons_of_mem _ h)
    · rcases List.mem_cons.mp h with h | h
      · exact .inr (h ▸ List.mem_cons_self)
      · exact (ih h).imp_right (List.mem_cons_of_mem _)

theorem keys_insert_nodup {t : Table κ α} (h : t.keys.Nodup) (key : κ) (value : α) :
    (t.insert key value).keys.Nodup := by
  rw [keys_insert]
  split
  · exact h
  · next hnew =>
    refine List.nodup_append.mpr ⟨h, by simp, ?_⟩
    intro k hk k' hk' he
    rw [List.mem_singleton] at hk'
    exact hnew (hk' ▸ he ▸ hk)

/-- Distinct new keys are appended in their order. -/
theorem insertAll_of_nodup {t : Table κ α} {es : List (κ × α)}
    (h : (t.keys ++ es.map Prod.fst).Nodup) : t.insertAll es = ⟨t.entries ++ es⟩ := by
  induction es generalizing t with
  | nil => simp [insertAll]
  | cons e es ih =>
    obtain ⟨hkeys, hes, hdisjoint⟩ := List.nodup_append.mp h
    have hnew : e.1 ∉ t.keys := fun hk => hdisjoint _ hk _ (by simp) rfl
    have hinsert : t.insert e.1 e.2 = ⟨t.entries ++ [e]⟩ := by
      rw [insert, insertEntry_of_notMem hnew]
    have hstep : t.insertAll (e :: es) = (t.insert e.1 e.2).insertAll es := rfl
    rw [hstep, hinsert, ih (by simpa [keys] using h)]
    simp

theorem foldl_insert_eq_insertAll (name : α → κ) (t : Table κ α) (xs : List α) :
    xs.foldl (fun t x => t.insert (name x) x) t = t.insertAll (xs.map fun x => (name x, x)) := by
  rw [insertAll, List.foldl_map]

/-- Such a table is also what inserting its values in order makes. -/
theorem foldl_insert_values {t : Table κ α} {name : α → κ} (hkeys : t.keys.Nodup)
    (hnames : ∀ e ∈ t.entries, e.1 = name e.2) :
    t.values.foldl (fun t v => t.insert (name v) v) {} = t := by
  calc t.values.foldl (fun t v => t.insert (name v) v) {}
      = insertAll {} (t.values.map fun v => (name v, v)) := foldl_insert_eq_insertAll name {} _
    _ = insertAll {} t.entries := by rw [map_values hnames]
    _ = t := insertAll_of_nodup hkeys

end Table

/-! ## Sections -/

namespace Diagram

/-- A view that only declarations of one kind can change follows those alone. -/
theorem view_addAll {σ α : Type} {view : Diagram → σ} {pick : Declaration → Option α}
    {step : σ → α → σ}
    (h : ∀ d x, view (d.add x) = ((pick x).map (step (view d))).getD (view d))
    (d : Diagram) (xs : List Declaration) :
    view (d.addAll xs) = (xs.filterMap pick).foldl step (view d) := by
  induction xs generalizing d with
  | nil => rfl
  | cons x xs ih =>
    have hstep : d.addAll (x :: xs) = (d.add x).addAll xs := rfl
    rw [hstep, ih (d.add x), h d x, List.filterMap_cons]
    cases pick x <;> rfl

theorem foldl_concat {α : Type} (l xs : List α) : xs.foldl (fun l x => l ++ [x]) l = l ++ xs := by
  rw [List.foldl_append_eq_append, ← List.flatMap_def, List.flatMap_singleton']

variable (d : Diagram) (xs : List Declaration)

theorem attributes_addAll :
    (d.addAll xs).attributes = d.attributes ++ xs.filterMap Declaration.attribute? := by
  rw [← foldl_concat]
  exact view_addAll (fun d x => by cases x <;> rfl) d xs

theorem composites_addAll :
    (d.addAll xs).composites = d.composites ++ xs.filterMap Declaration.composite? := by
  rw [← foldl_concat]
  exact view_addAll (fun d x => by cases x <;> rfl) d xs

theorem generalizations_addAll :
    (d.addAll xs).generalizations =
      d.generalizations ++ xs.filterMap Declaration.generalization? := by
  rw [← foldl_concat]
  exact view_addAll (fun d x => by cases x <;> rfl) d xs

theorem edges_addAll : (d.addAll xs).edges = d.edges ++ xs.filterMap Declaration.edge? := by
  rw [← foldl_concat]
  exact view_addAll (fun d x => by cases x <;> rfl) d xs

theorem entities_addAll : (d.addAll xs).entities =
    (xs.filterMap Declaration.entity?).foldl (fun t e => t.insert e.name e) d.entities :=
  view_addAll (fun d x => by cases x <;> rfl) d xs

theorem relationships_addAll : (d.addAll xs).relationships =
    (xs.filterMap Declaration.relationship?).foldl (fun t r => t.insert r.name r)
      d.relationships :=
  view_addAll (fun d x => by cases x <;> rfl) d xs

theorem theme_addAll : (d.addAll xs).theme =
    (xs.filterMap Declaration.color?).foldl
      (fun theme x => some ((theme.getD {}).set x.1 x.2)) d.theme :=
  view_addAll (fun d x => by cases x <;> rfl) d xs

end Diagram
end ChenDiagram
