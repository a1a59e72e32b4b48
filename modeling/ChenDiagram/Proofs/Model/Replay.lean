import ChenDiagram.Proofs.Model.Sections

/-! What tables and themes remember of the declarations that made them. A table keeps for each key
the place of its first insertion and the value of its last, so its entries can stand for all the
insertions it was made of, whatever table they are replayed on. A theme keeps for each channel the
last colour it was given, so directives of different channels may be replayed in any order. -/

namespace ChenDiagram

/-! ## Tables -/

namespace Table
variable {κ α : Type} [DecidableEq κ] {t u : Table κ α} {key other : κ} {value value' : α}
  {es : List (κ × α)}

theorem insertAll_cons (t : Table κ α) (e : κ × α) (es : List (κ × α)) :
    t.insertAll (e :: es) = (t.insert e.1 e.2).insertAll es := rfl

theorem insertEntry_insertEntry (key : κ) (value value' : α) (es : List (κ × α)) :
    insertEntry key value' (insertEntry key value es) = insertEntry key value' es := by
  induction es with
  | nil => simp [insertEntry]
  | cons e es ih =>
    by_cases he : e.1 = key
    · simp [insertEntry, he]
    · simp [insertEntry, he, ih]

/-- A key that has its place already can take its value before or after another key. -/
theorem insertEntry_comm (hkey : key ∈ es.map Prod.fst) (hne : other ≠ key) :
    insertEntry other value' (insertEntry key value es) =
      insertEntry key value (insertEntry other value' es) := by
  induction es with
  | nil => simp at hkey
  | cons e es ih =>
    by_cases he : e.1 = key
    · simp [insertEntry, he, Ne.symm hne]
    · have htail : key ∈ es.map Prod.fst := by
        rw [List.map_cons, List.mem_cons] at hkey
        exact hkey.resolve_left (Ne.symm he)
      by_cases ho : e.1 = other
      · simp [insertEntry, ho, hne]
      · simp [insertEntry, he, ho, ih htail]

theorem mem_keys_insert (t : Table κ α) (key : κ) (value : α) :
    other ∈ (t.insert key value).keys ↔ other = key ∨ other ∈ t.keys := by
  rw [keys_insert]
  split
  · next hkey =>
    refine ⟨.inr, fun h => ?_⟩
    rcases h with rfl | h
    · exact hkey
    · exact h
  · rw [List.mem_append, List.mem_singleton, or_comm]

/-- The keys of a table are those that were ever inserted. -/
theorem mem_keys_insertAll (t : Table κ α) (es : List (κ × α)) :
    key ∈ (t.insertAll es).keys ↔ key ∈ t.keys ∨ key ∈ es.map Prod.fst := by
  induction es generalizing t with
  | nil => simp [insertAll]
  | cons e es ih =>
    rw [insertAll_cons, ih, mem_keys_insert, List.map_cons, List.mem_cons, or_assoc, or_left_comm]

/-- An insertion under a known key can be moved in front of insertions under other keys. -/
theorem insert_insertAll (hkey : key ∈ t.keys) (hes : key ∉ es.map Prod.fst) :
    (t.insertAll es).insert key value = (t.insert key value).insertAll es := by
  induction es generalizing t with
  | nil => rfl
  | cons e es ih =>
    rw [List.map_cons, List.mem_cons, not_or] at hes
    obtain ⟨hne, hes⟩ := hes
    have hswap : (t.insert e.1 e.2).insert key value = (t.insert key value).insert e.1 e.2 :=
      congrArg Table.mk (insertEntry_comm hkey (Ne.symm hne)).symm
    rw [insertAll_cons, insertAll_cons, ← hswap]
    exact ih ((mem_keys_insert t e.1 e.2).mpr (.inr hkey)) hes

/-- Replaying entries into which one more was inserted is replaying them and inserting it then. -/
theorem insertAll_insertEntry (t : Table κ α) (hes : (es.map Prod.fst).Nodup) :
    t.insertAll (insertEntry key value es) = (t.insertAll es).insert key value := by
  induction es generalizing t with
  | nil => rfl
  | cons e es ih =>
    rw [List.map_cons, List.nodup_cons] at hes
    obtain ⟨hnew, hes⟩ := hes
    by_cases he : e.1 = key
    · subst he
      have hlast : (t.insert e.1 e.2).insert e.1 value = t.insert e.1 value :=
        congrArg Table.mk (insertEntry_insertEntry e.1 e.2 value t.entries)
      rw [insertEntry, if_pos rfl, insertAll_cons, insertAll_cons,
        insert_insertAll ((mem_keys_insert t e.1 e.2).mpr (.inl rfl)) hnew, hlast]
    · rw [insertEntry, if_neg he, insertAll_cons, insertAll_cons]
      exact ih (t.insert e.1 e.2) hes

theorem insertAll_entries_insertAll (t : Table κ α) (hu : u.keys.Nodup) (es : List (κ × α)) :
    t.insertAll (u.insertAll es).entries = (t.insertAll u.entries).insertAll es := by
  induction es generalizing u with
  | nil => rfl
  | cons e es ih =>
    rw [insertAll_cons, ih (keys_insert_nodup hu e.1 e.2), insertAll_cons]
    exact congrArg (insertAll · es) (insertAll_insertEntry t hu)

/-- The final entries of a table can be replayed in the place of all insertions that made it. -/
theorem insertAll_entries_ofEntries (t : Table κ α) (es : List (κ × α)) :
    t.insertAll (ofEntries es).entries = t.insertAll es :=
  insertAll_entries_insertAll (u := empty) t List.nodup_nil es

/-- New keys stand behind the known ones, in the order of their first insertions. -/
theorem keys_insertAll (t : Table κ α) (es : List (κ × α)) :
    (t.insertAll es).keys = t.keys ++ ((es.map Prod.fst).removeAll t.keys).eraseDups := by
  induction es generalizing t with
  | nil => simp [insertAll, List.removeAll]
  | cons e es ih =>
    rw [insertAll_cons, ih, keys_insert, List.map_cons]
    by_cases hkey : e.1 ∈ t.keys
    · simp [List.removeAll, hkey]
    · have hfirst : (e.1 :: es.map Prod.fst).removeAll t.keys =
          e.1 :: (es.map Prod.fst).removeAll t.keys := by
        simp [List.removeAll, hkey]
      have hrest : (es.map Prod.fst).removeAll (t.keys ++ [e.1]) =
          ((es.map Prod.fst).removeAll t.keys).filter fun key => !key == e.1 := by
        unfold List.removeAll
        rw [List.filter_filter]
        refine List.filter_congr fun key _ => ?_
        rw [Bool.eq_iff_iff]
        simp [and_comm]
      rw [if_neg hkey, hfirst, hrest, List.eraseDups_cons, List.append_assoc,
        List.singleton_append]

theorem keys_insertAll_nodup (ht : t.keys.Nodup) (es : List (κ × α)) :
    (t.insertAll es).keys.Nodup := by
  induction es generalizing t with
  | nil => exact ht
  | cons e es ih => exact ih (keys_insert_nodup ht e.1 e.2)

/-- A key has the value of the last entry under it, and its old value if there is none. -/
theorem get?_insertAll (t : Table κ α) (es : List (κ × α)) (key : κ) :
    (t.insertAll es).get? key =
      ((es.filter (·.1 = key)).getLast?.map Prod.snd).or (t.get? key) := by
  induction es generalizing t with
  | nil => rfl
  | cons e es ih =>
    rw [insertAll_cons, ih, get?_insert]
    by_cases he : e.1 = key
    · rw [if_pos he.symm, List.filter_cons_of_pos (by simpa using he), List.getLast?_cons]
      cases (es.filter (·.1 = key)).getLast? <;> rfl
    · rw [if_neg (Ne.symm he), List.filter_cons_of_neg (by simpa using he)]

theorem find?_of_nodup {e : κ × α} (hkeys : (es.map Prod.fst).Nodup) (he : e ∈ es) :
    es.find? (·.1 = e.1) = some e := by
  induction es with
  | nil => cases he
  | cons e' es ih =>
    rw [List.map_cons, List.nodup_cons] at hkeys
    rcases List.mem_cons.mp he with rfl | he
    · simp
    · have hne : e'.1 ≠ e.1 := fun h => hkeys.1 (h ▸ List.mem_map_of_mem he)
      rw [List.find?_cons_of_neg (by simpa using hne), ih hkeys.2 he]

/-- Under distinct keys the values of a table can be looked up key by key. -/
theorem map_get?_keys (h : t.keys.Nodup) : t.keys.map t.get? = t.values.map some := by
  rw [keys, values, List.map_map, List.map_map]
  refine List.map_congr_left fun e he => ?_
  show (t.entries.find? (·.1 = e.1)).map Prod.snd = some e.2
  rw [find?_of_nodup h he]
  rfl

/-- What a table of named things keeps of their history: for each name, in the order of first
appearances, the last thing of that name. -/
theorem map_some_values (name : α → κ) (xs : List α) :
    (xs.foldl (fun t x => t.insert (name x) x) empty).values.map some =
      (xs.map name).eraseDups.map fun key => (xs.filter (name · = key)).getLast? := by
  have hnodup : (empty.insertAll (xs.map fun x => (name x, x))).keys.Nodup :=
    keys_insertAll_nodup (t := empty) List.nodup_nil _
  have hkeys : (empty.insertAll (xs.map fun x => (name x, x))).keys =
      (xs.map name).eraseDups := by
    have hnew : (xs.map name).removeAll [] = xs.map name :=
      List.filter_eq_self.mpr fun _ _ => rfl
    rw [keys_insertAll, List.map_map]
    exact congrArg List.eraseDups hnew
  rw [foldl_insert_eq_insertAll, ← map_get?_keys hnodup, hkeys]
  refine List.map_congr_left fun key _ => ?_
  rw [get?_insertAll, List.filter_map, List.getLast?_map, Option.map_map]
  show (Option.map id (xs.filter (name · = key)).getLast?).or none = _
  rw [Option.map_id, Option.or_none]
  rfl

end Table

/-! ## Themes -/

namespace Theme
variable {theme : Option Theme} {xs ys : List (Channel × String)}

/-- A theme with directives replayed on it in order. Where there is no theme they start from the
defaults; where there are no directives nothing changes. -/
def replay (theme : Option Theme) (directives : List (Channel × String)) : Option Theme :=
  if directives = [] then theme
  else some (directives.foldl (fun t x => t.set x.1 x.2) (theme.getD {}))

theorem foldl_some_set (t : Theme) (xs : List (Channel × String)) :
    xs.foldl (fun theme x => some ((theme.getD {}).set x.1 x.2)) (some t) =
      some (xs.foldl (fun t x => t.set x.1 x.2) t) := by
  induction xs generalizing t with
  | nil => rfl
  | cons x xs ih => exact ih (t.set x.1 x.2)

theorem foldl_set_eq_replay (theme : Option Theme) (xs : List (Channel × String)) :
    xs.foldl (fun theme x => some ((theme.getD {}).set x.1 x.2)) theme = replay theme xs := by
  cases xs with
  | nil => rfl
  | cons x xs => exact foldl_some_set ((theme.getD {}).set x.1 x.2) xs

theorem replay_eq_none_iff : replay theme xs = none ↔ theme = none ∧ xs = [] := by
  unfold replay
  split
  · next hnil => simp [hnil]
  · next hcons => simp [hcons]

/-- The colours that directives give to one channel. -/
def colorsOf (channel : Channel) (directives : List (Channel × String)) : List String :=
  directives.filterMap fun x => if x.1 = channel then some x.2 else none

theorem colorsOf_cons (channel : Channel) (x : Channel × String) (xs : List (Channel × String)) :
    colorsOf channel (x :: xs) =
      if x.1 = channel then x.2 :: colorsOf channel xs else colorsOf channel xs := by
  unfold colorsOf
  rw [List.filterMap_cons]
  split <;> simp_all

theorem eq_nil_of_colorsOf (h : ∀ channel, colorsOf channel xs = []) : xs = [] := by
  cases xs with
  | nil => rfl
  | cons x xs =>
    have hx := h x.1
    rw [colorsOf_cons, if_pos rfl] at hx
    cases hx

/-- Each channel ends with the last colour that it was given. -/
theorem color_foldl_set (t : Theme) (xs : List (Channel × String)) (channel : Channel) :
    (xs.foldl (fun t x => t.set x.1 x.2) t).color channel =
      (colorsOf channel xs).getLastD (t.color channel) := by
  induction xs generalizing t with
  | nil => rfl
  | cons x xs ih =>
    rw [List.foldl_cons, ih, color_set, colorsOf_cons]
    by_cases hx : x.1 = channel
    · rw [if_pos hx.symm, if_pos hx, List.getLastD_cons]
    · rw [if_neg (Ne.symm hx), if_neg hx]

theorem eq_of_color_eq {t t' : Theme} (h : ∀ channel, t.color channel = t'.color channel) :
    t = t' := by
  obtain ⟨entity, weakEntity, relationship⟩ := t
  obtain ⟨entity', weakEntity', relationship'⟩ := t'
  have hentity : entity = entity' := h .entities
  have hweak : weakEntity = weakEntity' := h .weakEntities
  have hrelationship : relationship = relationship' := h .relationships
  rw [hentity, hweak, hrelationship]

/-- How directives of different channels are interleaved makes no difference. -/
theorem replay_congr (h : ∀ channel, colorsOf channel xs = colorsOf channel ys) :
    replay theme xs = replay theme ys := by
  have hnil : xs = [] ↔ ys = [] := by
    refine ⟨fun hxs => eq_nil_of_colorsOf fun channel => ?_,
      fun hys => eq_nil_of_colorsOf fun channel => ?_⟩
    · rw [← h channel, hxs]; rfl
    · rw [h channel, hys]; rfl
  unfold replay
  by_cases hxs : xs = []
  · rw [if_pos hxs, if_pos (hnil.mp hxs)]
  · rw [if_neg hxs, if_neg (mt hnil.mpr hxs)]
    refine congrArg some (eq_of_color_eq fun channel => ?_)
    rw [color_foldl_set, color_foldl_set, h channel]

end Theme

/-! ## Diagrams -/

namespace Diagram

theorem addAll_append (d : Diagram) (xs ys : List Declaration) :
    d.addAll (xs ++ ys) = (d.addAll xs).addAll ys :=
  List.foldl_append

/-- Declarations change a diagram as the diagram they make by themselves would, but for the theme.
That takes the directives, since a theme does not tell a default from a colour asked for. -/
theorem addAll_eq (d : Diagram) (xs : List Declaration) :
    d.addAll xs =
      { entities := d.entities.insertAll (ofDeclarations xs).entities.entries
        relationships := d.relationships.insertAll (ofDeclarations xs).relationships.entries
        attributes := d.attributes ++ (ofDeclarations xs).attributes
        composites := d.composites ++ (ofDeclarations xs).composites
        generalizations := d.generalizations ++ (ofDeclarations xs).generalizations
        edges := d.edges ++ (ofDeclarations xs).edges
        theme := Theme.replay d.theme (xs.filterMap Declaration.color?) } := by
  unfold ofDeclarations
  refine Diagram.ext ?_ ?_ ?_ ?_ ?_ ?_ ?_
  · rw [entities_addAll, entities_addAll, Table.foldl_insert_eq_insertAll,
      Table.foldl_insert_eq_insertAll]
    exact (Table.insertAll_entries_ofEntries _ _).symm
  · rw [relationships_addAll, relationships_addAll, Table.foldl_insert_eq_insertAll,
      Table.foldl_insert_eq_insertAll]
    exact (Table.insertAll_entries_ofEntries _ _).symm
  · rw [attributes_addAll, attributes_addAll, List.nil_append]
  · rw [composites_addAll, composites_addAll, List.nil_append]
  · rw [generalizations_addAll, generalizations_addAll, List.nil_append]
  · rw [edges_addAll, edges_addAll, List.nil_append]
  · rw [theme_addAll, Theme.foldl_set_eq_replay]

end Diagram

/-- Declarations sorted by kind, each kind in its own order. Colours are kept by channel. -/
structure Streams where
  entities : List Entity
  relationships : List Relationship
  attributes : List Attribute
  composites : List Composite
  generalizations : List Generalization
  edges : List Edge
  colors : Channel → List String

def Streams.of (xs : List Declaration) : Streams where
  entities := xs.filterMap Declaration.entity?
  relationships := xs.filterMap Declaration.relationship?
  attributes := xs.filterMap Declaration.attribute?
  composites := xs.filterMap Declaration.composite?
  generalizations := xs.filterMap Declaration.generalization?
  edges := xs.filterMap Declaration.edge?
  colors channel := Theme.colorsOf channel (xs.filterMap Declaration.color?)

/-- How declarations of different kinds are interleaved makes no difference. -/
theorem Diagram.addAll_congr (d : Diagram) {xs ys : List Declaration}
    (h : Streams.of xs = Streams.of ys) : d.addAll xs = d.addAll ys := by
  simp only [Streams.of, Streams.mk.injEq] at h
  obtain ⟨hentities, hrelationships, hattributes, hcomposites, hgeneralizations, hedges,
    hcolors⟩ := h
  refine Diagram.ext ?_ ?_ ?_ ?_ ?_ ?_ ?_
  · rw [entities_addAll, entities_addAll, hentities]
  · rw [relationships_addAll, relationships_addAll, hrelationships]
  · rw [attributes_addAll, attributes_addAll, hattributes]
  · rw [composites_addAll, composites_addAll, hcomposites]
  · rw [generalizations_addAll, generalizations_addAll, hgeneralizations]
  · rw [edges_addAll, edges_addAll, hedges]
  · rw [theme_addAll, theme_addAll, Theme.foldl_set_eq_replay, Theme.foldl_set_eq_replay]
    exact Theme.replay_congr (congrFun hcolors)

end ChenDiagram
