import ChenDiagram.Command.FileSystem
import ChenDiagram.Proofs.Model.Replay

/-! What writing a file may do. A store of files is held to one thing only: a write fails and
changes nothing, or it replaces the content of one file as a whole (`FileSystem.ReplacesWhole`).
Trees do so. A path is followed through directories alone, so where it ends everything above is
there already (`Rooted`); hence a new file makes no new directories, and no path that could be
followed is cut off by it. -/

namespace ChenDiagram.Command

namespace FileSystem
variable {σ : Type} [FileSystem σ]

/-- The path leads to a file with this content. -/
def Holds (t : σ) (path : String) (content : ByteArray) : Prop :=
  ∃ file, find? t path = some file ∧ content? t file = some content

/-- From `t` to `t'` the file that the path leads to has got this content, in place of all that it
held if it was there before. Other files are as they were, whatever paths lead to them. -/
def Replaced (t t' : σ) (path : String) (content : ByteArray) : Prop :=
  ∃ file, (∀ before, find? t path = some before → before = file) ∧
    find? t' path = some file ∧ content? t' file = some content ∧
    ∀ other ≠ file, content? t' other = content? t other

/-- A write under this path is done in full or not at all. -/
structure ReplacesWhole (t : σ) (path : String) : Prop where
  failed : ∀ content fault, (write t path content).1 = .error fault → (write t path content).2 = t
  done : ∀ content, (write t path content).1 = .ok () →
    Replaced t (write t path content).2 path content

end FileSystem

namespace FileTree
variable {t t' : FileTree} {here there : Location} {content : ByteArray} {name path : String}
  {names : List String}

/-! ## Where paths lead -/

/-- Everything above this location is there. -/
def Rooted (t : FileTree) (here : Location) : Prop :=
  ∀ above, above <+: here → above ≠ here → t.isOccupied above = true

theorem rooted_root (t : FileTree) : Rooted t [] := by
  intro above habove hne
  exact absurd (List.prefix_nil.mp habove) hne

theorem rooted_workingDirectory (t : FileTree) : Rooted t t.workingDirectory := by
  intro above habove _
  unfold isOccupied
  rw [List.isPrefixOf_iff_prefix.mpr habove, Bool.true_or, Bool.true_or]

theorem Rooted.up (h : Rooted t here) : Rooted t here.dropLast := by
  intro above habove hne
  refine h above (habove.trans here.dropLast_prefix) fun he => ?_
  -- only the root is above itself, and there is nothing else above it
  have hlength := habove.length_le
  rw [he, List.length_dropLast] at hlength
  have hroot : here = [] := List.length_eq_zero_iff.mp (by omega)
  subst hroot
  exact hne he

theorem entry_eq_directory_iff : t.entry here = .directory ↔
    t.files.get? here = none ∧ t.isOccupied here = true := by
  unfold entry
  split
  · next hfile => simp [hfile]
  · next hnone => split <;> simp_all

theorem Rooted.down (h : Rooted t here) (hdirectory : t.entry here = .directory) (name : String) :
    Rooted t (here ++ [name]) := by
  intro above habove hne
  rcases List.prefix_concat_iff.mp habove with he | habove
  · exact absurd he hne
  · by_cases he : above = here
    · rw [he]; exact (entry_eq_directory_iff.mp hdirectory).2
    · exact h above habove he

/-- A step is made from a directory, to itself, to the one above or to what it holds. -/
theorem step_eq_ok (h : t.step here name = .ok there) : t.entry here = .directory ∧
    (there = here ∨ there = here.dropLast ∨ there = here ++ [name]) := by
  unfold step at h
  split at h
  · cases h
  · cases h
  · next hdirectory =>
    refine ⟨hdirectory, ?_⟩
    split at h
    · exact .inl (Except.ok.inj h).symm
    · split at h
      · exact .inr (.inl (Except.ok.inj h).symm)
      · exact .inr (.inr (Except.ok.inj h).symm)

theorem Rooted.step (hrooted : Rooted t here) (h : t.step here name = .ok there) :
    Rooted t there := by
  obtain ⟨hdirectory, rfl | rfl | rfl⟩ := step_eq_ok h
  · exact hrooted
  · exact hrooted.up
  · exact hrooted.down hdirectory name

theorem foldlM_cons_eq_ok {ε α β : Type} {f : β → α → Except ε β} {a : α} {as : List α} {b c : β} :
    (a :: as).foldlM f b = .ok c ↔ ∃ b', f b a = .ok b' ∧ as.foldlM f b' = .ok c := by
  rw [List.foldlM_cons]
  cases f b a <;> simp [bind, Except.bind]

theorem Rooted.foldlM (hrooted : Rooted t here) (h : names.foldlM t.step here = .ok there) :
    Rooted t there := by
  induction names generalizing here with
  | nil => rwa [← Except.ok.inj h]
  | cons name names ih =>
    obtain ⟨next, hstep, hrest⟩ := foldlM_cons_eq_ok.mp h
    exact ih (hrooted.step hstep) hrest

/-- A path starts from the root or from the working directory, whatever else the tree holds. -/
theorem exists_walk_eq (start : Location) (names : List String) :
    ∃ (first : Location) (rest : List String), ∀ t : FileTree, t.workingDirectory = start →
      Rooted t first ∧ t.walk names = rest.foldlM t.step first := by
  by_cases hslash : ∃ name rest, names = "" :: name :: rest
  · obtain ⟨name, rest, rfl⟩ := hslash
    exact ⟨[], name :: rest, fun t _ => ⟨rooted_root t, rfl⟩⟩
  · refine ⟨start, names, fun t hstart => ?_⟩
    subst hstart
    refine ⟨rooted_workingDirectory t, ?_⟩
    unfold walk
    split
    · next name rest => exact absurd ⟨name, rest, rfl⟩ hslash
    · rfl

theorem rooted_walk (h : t.walk names = .ok there) : Rooted t there := by
  obtain ⟨first, rest, hwalk⟩ := exists_walk_eq t.workingDirectory names
  obtain ⟨hrooted, hwalk⟩ := hwalk t rfl
  rw [hwalk] at h
  exact hrooted.foldlM h

/-! ## A new file -/

/-- The tree with this content at a location, in place of a file that stood there. -/
def put (t : FileTree) (here : Location) (content : ByteArray) : FileTree :=
  { t with files := t.files.insert here content }

theorem get?_put : (t.put here content).files.get? there =
    if there = here then some content else t.files.get? there := Table.get?_insert ..

theorem isOccupied_put : (t.put here content).isOccupied there =
    (t.isOccupied there || there.isPrefixOf here) := by
  unfold isOccupied put
  simp only [Table.keys_insert]
  split
  · next hkey =>
    -- a file that was there already shows in what lies above it
    have hshown : there.isPrefixOf here = true → t.files.keys.any there.isPrefixOf = true :=
      fun h => List.any_eq_true.mpr ⟨here, hkey, h⟩
    cases hprefix : there.isPrefixOf here with
    | true => rw [hshown hprefix, Bool.or_true, Bool.or_true]
    | false => rw [Bool.or_false]
  · rw [List.any_append, List.any_cons, List.any_nil, Bool.or_false, Bool.or_assoc, Bool.or_assoc,
      Bool.or_assoc]

/-- Everything else stands as it stood. -/
theorem entry_put (hrooted : Rooted t here) (hne : there ≠ here) :
    (t.put here content).entry there = t.entry there := by
  have hoccupied : (t.put here content).isOccupied there = t.isOccupied there := by
    rw [isOccupied_put]
    cases habove : there.isPrefixOf here with
    | false => exact Bool.or_false _
    | true => rw [hrooted there (List.isPrefixOf_iff_prefix.mp habove) hne, Bool.true_or]
  unfold entry
  rw [get?_put, if_neg hne, hoccupied]

/-- A way that could be followed does not lead through the new file, since that was no directory. -/
theorem foldlM_put (hrooted : Rooted t here) (hfile : t.entry here ≠ .directory)
    {first last : Location} (h : names.foldlM t.step first = .ok last) :
    names.foldlM (t.put here content).step first = .ok last := by
  induction names generalizing first with
  | nil => exact h
  | cons name names ih =>
    obtain ⟨next, hstep, hrest⟩ := foldlM_cons_eq_ok.mp h
    refine foldlM_cons_eq_ok.mpr ⟨next, ?_, ih hrest⟩
    have hne : first ≠ here := by
      rintro rfl
      exact hfile (step_eq_ok hstep).1
    unfold step at hstep ⊢
    rwa [entry_put hrooted hne]

theorem walk_put (hrooted : Rooted t here) (hfile : t.entry here ≠ .directory)
    (h : t.walk names = .ok there) : (t.put here content).walk names = .ok there := by
  obtain ⟨first, rest, hwalk⟩ := exists_walk_eq t.workingDirectory names
  rw [(hwalk t rfl).2] at h
  rw [(hwalk (t.put here content) rfl).2]
  exact foldlM_put hrooted hfile h

/-! ## Writing -/

/-- Names of which none is dropped at the end are all there. -/
theorem reverse_dropWhile_eq {names : List String}
    (h : ¬ ((names.reverse.dropWhile (· = "")).reverse).length < names.length) :
    (names.reverse.dropWhile (· = "")).reverse = names := by
  have hsuffix : names.reverse.dropWhile (· = "") <:+ names.reverse := List.dropWhile_suffix _
  rw [List.length_reverse] at h
  rw [hsuffix.eq_of_length_le (by rw [List.length_reverse]; omega), List.reverse_reverse]

/-- A path that is written does not end in a slash and leads to a location where there is no
directory. -/
theorem write_eq_ok (h : t.write path content = .ok t') :
    ∃ here, t.walk (pathNames path) = .ok here ∧ t.entry here ≠ .directory ∧
      t' = t.put here content := by
  simp only [write] at h
  generalize hbare : ((pathNames path).reverse.dropWhile (· = "")).reverse = bare at h
  cases hwalk : t.walk bare with
  | error fault => rw [hwalk] at h; cases h
  | ok here =>
    rw [hwalk] at h
    simp only [bind, Except.bind] at h
    split at h
    · cases h
    · next hfile =>
      split at h
      · cases h
      · next hlength =>
        split at h
        · cases h
        · subst hbare
          rw [reverse_dropWhile_eq hlength] at hwalk
          exact ⟨here, hwalk, hfile, (Except.ok.inj h).symm⟩

theorem replaced_of_write (h : t.write path content = .ok t') :
    FileSystem.Replaced t t' path content := by
  obtain ⟨here, hwalk, hfile, rfl⟩ := write_eq_ok h
  refine ⟨here, fun before hbefore => ?_, ?_, ?_, fun other hother => ?_⟩
  · have hfind : (t.walk (pathNames path)).toOption = some before := hbefore
    rw [hwalk] at hfind
    exact (Option.some.inj hfind).symm
  · show ((t.put here content).walk (pathNames path)).toOption = some here
    rw [walk_put (rooted_walk hwalk) hfile hwalk]
    rfl
  · exact get?_put.trans (if_pos rfl)
  · exact get?_put.trans (if_neg hother)

/-- Every tree does as it should under every path. -/
theorem replacesWhole (t : FileTree) (path : String) : FileSystem.ReplacesWhole t path where
  failed content fault h := by
    simp only [FileSystem.write] at h ⊢
    split at h
    · cases h
    · rfl
  done content h := by
    simp only [FileSystem.write] at h ⊢
    split at h
    · next hwrite => exact replaced_of_write hwrite
    · cases h

end FileTree
end ChenDiagram.Command
