import ChenDiagram.Proofs.Source.Lines
import Mathlib.Data.List.Forall2

/-! The width of blanks. Two texts are `Respaced` if one becomes the other by writing other blanks in
the place of its runs of blanks. The tokens of a line are free of blanks, so they stay whole and
the runs between them stay runs: a respaced line has the rule it had before and declares the same.
Only the parts of a composite may hold blanks, and those are respaced themselves. -/

namespace ChenDiagram.Source
open Text

/-- The texts differ only in how wide their runs of blanks are and what they are made of. The runs
are maximal: what follows a run does not go on with a blank. -/
inductive Respaced : List Char → List Char → Prop where
  | nil : Respaced [] []
  | solid {c : Char} {cs cs' : List Char} : isBlank c = false → Respaced cs cs' →
      Respaced (c :: cs) (c :: cs')
  | run {b b' cs cs' : List Char} : IsBreak b → IsBreak b' → Stops isBlank cs →
      Stops isBlank cs' → Respaced cs cs' → Respaced (b ++ cs) (b' ++ cs')

theorem IsBreak.not_stops {b : List Char} (hb : IsBreak b) (rest : List Char) :
    ¬ Stops isBlank (b ++ rest) := by
  obtain ⟨hne, hgap⟩ := hb
  obtain ⟨c, b, rfl⟩ := List.exists_cons_of_ne_nil hne
  intro hstops
  exact Bool.false_ne_true ((stops_cons.mp hstops).symm.trans (hgap c List.mem_cons_self))

theorem IsBreak.reverse {b : List Char} (hb : IsBreak b) : IsBreak b.reverse :=
  ⟨by simpa using hb.1, fun c hc => hb.2 c (List.mem_reverse.mp hc)⟩

theorem IsName.isBlank_eq_false {w : List Char} (hw : IsName w) : ∀ c ∈ w, isBlank c = false :=
  fun c hc => isBlank_eq_false_of_isWordChar (hw.2 c hc)

namespace Respaced
variable {c : Char} {cs cs' ds es u u' v v' w b z : List Char}

theorem symm (h : Respaced cs ds) : Respaced ds cs := by
  induction h with
  | nil => exact .nil
  | solid hc _ ih => exact .solid hc ih
  | run hb hb' hstop hstop' _ ih => exact .run hb' hb hstop' hstop ih

theorem stops (h : Respaced cs ds) (hcs : Stops isBlank cs) : Stops isBlank ds := by
  cases h with
  | nil => exact stops_nil
  | solid hc _ => exact stops_cons.mpr hc
  | run hb => exact absurd hcs (hb.not_stops _)

/-- Whatever is no blank is kept. -/
theorem mem (h : Respaced cs ds) (hc : isBlank c = false) (hmem : c ∈ cs) : c ∈ ds := by
  induction h with
  | nil => exact hmem
  | solid _ _ ih =>
    rcases List.mem_cons.mp hmem with rfl | hmem
    · exact List.mem_cons_self
    · exact List.mem_cons_of_mem _ (ih hmem)
  | run hb _ _ _ _ ih =>
    rcases List.mem_append.mp hmem with hmem | hmem
    · rw [hb.2 c hmem] at hc
      cases hc
    · exact List.mem_append_right _ (ih hmem)

/-! ## Taking respaced texts apart -/

theorem eq_nil (h : Respaced [] ds) : ds = [] := by
  generalize hnil : ([] : List Char) = cs at h
  cases h with
  | nil => rfl
  | solid => cases hnil
  | run hb => exact absurd (List.append_eq_nil_iff.mp hnil.symm).1 hb.1

theorem cons_inv (hc : isBlank c = false) (h : Respaced (c :: cs) ds) :
    ∃ cs', ds = c :: cs' ∧ Respaced cs cs' := by
  generalize hcons : c :: cs = l at h
  cases h with
  | nil => cases hcons
  | solid _ h =>
    cases hcons
    exact ⟨_, rfl, h⟩
  | run hb => exact absurd (stops_cons.mpr hc) (hcons ▸ hb.not_stops _)

theorem break_inv (hb : IsBreak b) (hcs : Stops isBlank cs) (h : Respaced (b ++ cs) ds) :
    ∃ b' cs', ds = b' ++ cs' ∧ IsBreak b' ∧ Respaced cs cs' := by
  generalize hrun : b ++ cs = l at h
  cases h with
  | nil => exact absurd (List.append_eq_nil_iff.mp hrun).1 hb.1
  | solid hx => exact absurd (stops_cons.mpr hx) (hrun ▸ hb.not_stops cs)
  | run hb₁ hb' hstop _ h =>
    obtain ⟨rfl, rfl⟩ := append_inj_of_stops hb.2 hb₁.2 hcs hstop hrun
    exact ⟨_, _, rfl, hb', h⟩

theorem gap_inv (hz : IsGap z) (hcs : Stops isBlank cs) (h : Respaced (z ++ cs) ds) :
    ∃ z' cs', ds = z' ++ cs' ∧ IsGap z' ∧ Respaced cs cs' := by
  by_cases hne : z = []
  · subst hne
    exact ⟨[], ds, rfl, hz, h⟩
  · obtain ⟨z', cs', hds, hz', h⟩ := break_inv ⟨hne, hz⟩ hcs h
    exact ⟨z', cs', hds, hz'.2, h⟩

theorem isGap (hz : IsGap z) (h : Respaced z ds) : IsGap ds := by
  rw [← List.append_nil z] at h
  obtain ⟨z', cs', rfl, hz', hnil⟩ := h.gap_inv hz stops_nil
  rwa [hnil.eq_nil, List.append_nil]

theorem solid_inv (hw : ∀ c ∈ w, isBlank c = false) (h : Respaced (w ++ cs) ds) :
    ∃ cs', ds = w ++ cs' ∧ Respaced cs cs' := by
  induction w generalizing ds with
  | nil => exact ⟨ds, rfl, h⟩
  | cons x w ih =>
    obtain ⟨hx, hw⟩ := List.forall_mem_cons.mp hw
    obtain ⟨ds', rfl, htail⟩ := h.cons_inv hx
    obtain ⟨cs', rfl, hcs⟩ := ih hw htail
    exact ⟨cs', rfl, hcs⟩

theorem eq_of_solid (hw : ∀ c ∈ w, isBlank c = false) (h : Respaced w ds) : ds = w := by
  rw [← List.append_nil w] at h
  obtain ⟨cs', rfl, hnil⟩ := h.solid_inv hw
  rw [hnil.eq_nil, List.append_nil]

theorem token_break_inv (hw : ∀ c ∈ w, isBlank c = false) (hb : IsBreak b)
    (hcs : Stops isBlank cs) (h : Respaced (w ++ (b ++ cs)) ds) :
    ∃ b' cs', ds = w ++ (b' ++ cs') ∧ IsBreak b' ∧ Respaced cs cs' := by
  obtain ⟨_, rfl, hrest⟩ := h.solid_inv hw
  obtain ⟨b', cs', rfl, hb', hcs'⟩ := hrest.break_inv hb hcs
  exact ⟨b', cs', rfl, hb', hcs'⟩

theorem token_gap_inv (hw : ∀ c ∈ w, isBlank c = false) (hz : IsGap z)
    (hcs : Stops isBlank cs) (h : Respaced (w ++ (z ++ cs)) ds) :
    ∃ z' cs', ds = w ++ (z' ++ cs') ∧ IsGap z' ∧ Respaced cs cs' := by
  obtain ⟨_, rfl, hrest⟩ := h.solid_inv hw
  obtain ⟨z', cs', rfl, hz', hcs'⟩ := hrest.gap_inv hz hcs
  exact ⟨z', cs', rfl, hz', hcs'⟩

/-- A character that is no blank cuts both texts. -/
theorem split_inv (hc : isBlank c = false) (h : Respaced (u ++ c :: v) ds) :
    ∃ u' v', ds = u' ++ c :: v' ∧ Respaced u u' ∧ Respaced v v' := by
  generalize hcut : u ++ c :: v = l at h
  induction h generalizing u with
  | nil => exact absurd hcut (by simp)
  | @solid x cs cs' hx h ih =>
    cases u with
    | nil =>
      cases hcut
      exact ⟨[], cs', rfl, .nil, h⟩
    | cons y u =>
      obtain ⟨rfl, htail⟩ := List.cons.inj hcut
      obtain ⟨u', v', rfl, hu, hv⟩ := ih htail
      exact ⟨y :: u', v', rfl, .solid hx hu, hv⟩
  | @run b b' cs cs' hb hb' hstop hstop' h ih =>
    -- the run lies in front of the cut, since `c` is no blank
    have hfront : ∃ s, u = b ++ s ∧ s ++ c :: v = cs := by
      rcases List.append_eq_append_iff.mp hcut with ⟨s, rfl, hs⟩ | ⟨s, rfl, hs⟩
      · cases s with
        | nil => exact ⟨[], by simp, hs⟩
        | cons x s =>
          rw [(List.cons.inj hs).1, hb.2 x (by simp)] at hc
          cases hc
      · exact ⟨s, rfl, hs.symm⟩
    obtain ⟨s, rfl, hs⟩ := hfront
    obtain ⟨s', v', rfl, hs', hv⟩ := ih hs
    have hstops : Stops isBlank s := (hs ▸ hstop).of_append
    refine ⟨b' ++ s', v', by simp, ?_, hv⟩
    exact .run hb hb' hstops (hs'.stops hstops) hs'

/-- A keyword, an owner and a name at the start of a line. -/
theorem owner_name_inv {key owner name b₁ b₂ : List Char} (hkey : IsName key) (hb₁ : IsBreak b₁)
    (howner : IsName owner) (hb₂ : IsBreak b₂) (hname : IsName name)
    (h : Respaced (key ++ (b₁ ++ (owner ++ (b₂ ++ (name ++ cs))))) ds) :
    ∃ b₁' b₂' cs', ds = key ++ (b₁' ++ (owner ++ (b₂' ++ (name ++ cs')))) ∧
      IsBreak b₁' ∧ IsBreak b₂' ∧ Respaced cs cs' := by
  obtain ⟨b₁', _, rfl, hb₁', h₁⟩ := h.token_break_inv hkey.isBlank_eq_false hb₁
    (howner.stops_isBlank _)
  obtain ⟨b₂', _, rfl, hb₂', h₂⟩ := h₁.token_break_inv howner.isBlank_eq_false hb₂
    (hname.stops_isBlank _)
  obtain ⟨cs', rfl, hcs'⟩ := h₂.solid_inv hname.isBlank_eq_false
  exact ⟨b₁', b₂', cs', rfl, hb₁', hb₂', hcs'⟩

/-- A token and a name at the end of a line. -/
theorem token_name_inv (hw : ∀ c ∈ w, isBlank c = false) (hb : IsBreak b) (hv : IsName v)
    (h : Respaced (w ++ (b ++ v)) ds) : ∃ b', ds = w ++ (b' ++ v) ∧ IsBreak b' := by
  obtain ⟨b', _, rfl, hb', hend⟩ := h.token_break_inv hw hb hv.stops_isBlank_self
  rw [hend.eq_of_solid hv.isBlank_eq_false]
  exact ⟨b', rfl, hb'⟩

/-- A list in braces at the end of a line. -/
theorem braced_inv (h : Respaced ('\x7b' :: (cs ++ ['\x7d'])) ds) :
    ∃ cs', ds = '\x7b' :: (cs' ++ ['\x7d']) ∧ Respaced cs cs' := by
  obtain ⟨_, rfl, hrest⟩ := h.cons_inv (by decide)
  obtain ⟨cs', _, rfl, hcs', hend⟩ := hrest.split_inv (by decide)
  rw [hend.eq_nil]
  exact ⟨cs', rfl, hcs'⟩

/-! ## Stripping respaced texts -/

/-- Two runs of blanks must not meet where texts are put together. -/
theorem append (hu : Respaced u u') (hv : Respaced v v')
    (h : Stops isBlank u.reverse ∨ Stops isBlank v) : Respaced (u ++ v) (u' ++ v') := by
  induction hu with
  | nil => exact hv
  | @solid c cs cs' hc _ ih =>
    rw [List.reverse_cons] at h
    exact .solid hc (ih (h.imp_left Stops.of_append))
  | @run b b' cs cs' hb hb' hstop _ _ ih =>
    rw [List.reverse_append] at h
    have hmore := ih (h.imp_left Stops.of_append)
    have hstops : Stops isBlank (cs ++ v) := by
      by_cases hcs : cs = []
      · subst hcs
        exact h.resolve_left (by simpa using hb.reverse.not_stops [])
      · exact hstop.append hcs
    rw [List.append_assoc, List.append_assoc]
    exact .run hb hb' hstops (hmore.stops hstops) hmore

theorem reverse (h : Respaced cs ds) : Respaced cs.reverse ds.reverse := by
  induction h with
  | nil => exact .nil
  | @solid c cs cs' hc _ ih =>
    rw [List.reverse_cons, List.reverse_cons]
    exact ih.append (.solid hc .nil) (.inr (stops_cons.mpr hc))
  | @run b b' cs cs' hb hb' hstop _ _ ih =>
    rw [List.reverse_append, List.reverse_append]
    refine ih.append ?_ (.inl (by rwa [List.reverse_reverse]))
    simpa using Respaced.run hb.reverse hb'.reverse stops_nil stops_nil .nil

theorem dropWhile {p : Char → Bool} (hp : ∀ c, isBlank c = true → p c = true)
    (h : Respaced cs ds) : Respaced (cs.dropWhile p) (ds.dropWhile p) := by
  induction h with
  | nil => exact .nil
  | @solid c cs cs' hc hcs ih =>
    cases hpc : p c with
    | true => simpa [hpc] using ih
    | false => simpa [hpc] using Respaced.solid hc hcs
  | run hb hb' _ _ _ ih =>
    rw [List.dropWhile_append_of_pos fun c hc => hp c (hb.2 c hc),
      List.dropWhile_append_of_pos fun c hc => hp c (hb'.2 c hc)]
    exact ih

theorem trim (h : Respaced cs ds) : Respaced (trim cs) (trim ds) := by
  have hspace : ∀ c, isBlank c = true → isSpace c = true := fun _ => isSpace_of_isBlank
  exact ((h.dropWhile hspace).reverse.dropWhile hspace).reverse

/-! ## Deciding -/

theorem trans (h : Respaced cs ds) (h' : Respaced ds es) : Respaced cs es := by
  induction h generalizing es with
  | nil => exact h'
  | solid hc _ ih =>
    obtain ⟨es, rfl, htail⟩ := h'.cons_inv hc
    exact .solid hc (ih htail)
  | run hb hb' hstop hstop' _ ih =>
    obtain ⟨b'', es, rfl, hb'', htail⟩ := h'.break_inv hb' hstop'
    exact .run hb hb'' hstop ((ih htail).stops hstop) (ih htail)

end Respaced

/-- Every run of blanks written as one space. -/
def squeeze (cs : List Char) : List Char :=
  cs.foldr (fun c rest => if isBlank c then ' ' :: rest.dropWhile isBlank else c :: rest) []

theorem squeeze_solid {c : Char} (hc : isBlank c = false) (cs : List Char) :
    squeeze (c :: cs) = c :: squeeze cs := by
  simp [squeeze, hc]

theorem squeeze_blank {c : Char} (hc : isBlank c = true) (cs : List Char) :
    squeeze (c :: cs) = ' ' :: (squeeze cs).dropWhile isBlank := by
  simp [squeeze, hc]

theorem squeeze_break {b : List Char} (hb : IsBreak b) (cs : List Char) :
    squeeze (b ++ cs) = ' ' :: (squeeze cs).dropWhile isBlank := by
  obtain ⟨hne, hgap⟩ := hb
  induction b with
  | nil => exact absurd rfl hne
  | cons c b ih =>
    obtain ⟨hc, hb⟩ := List.forall_mem_cons.mp hgap
    rw [List.cons_append, squeeze_blank hc]
    by_cases hnil : b = []
    · rw [hnil, List.nil_append]
    · have hspace : isBlank ' ' = true := by decide
      rw [ih hnil hb, List.dropWhile_cons_of_pos hspace,
        dropWhile_eq_self_of_stops (stops_dropWhile _ _)]

theorem respaced_squeeze (cs : List Char) : Respaced cs (squeeze cs) := by
  induction cs with
  | nil => exact .nil
  | cons c cs ih =>
    cases hc : isBlank c with
    | false =>
      rw [squeeze_solid hc]
      exact .solid hc ih
    | true =>
      -- the run goes on as far as `cs` starts with blanks
      have hrun : IsBreak (c :: cs.takeWhile isBlank) := by
        refine ⟨List.cons_ne_nil _ _, List.forall_mem_cons.mpr ⟨hc, ?_⟩⟩
        exact fun x hx => List.all_eq_true.mp List.all_takeWhile x hx
      have hrest := ih.dropWhile fun _ hblank => hblank
      have h := Respaced.run hrun isBreak_blank (stops_dropWhile _ _) (stops_dropWhile _ _) hrest
      rwa [List.cons_append, List.takeWhile_append_dropWhile, List.singleton_append,
        ← squeeze_blank hc] at h

theorem respaced_iff {cs ds : List Char} : Respaced cs ds ↔ squeeze cs = squeeze ds := by
  constructor
  · intro h
    induction h with
    | nil => rfl
    | solid hc _ ih => rw [squeeze_solid hc, squeeze_solid hc, ih]
    | run hb hb' _ _ _ ih => rw [squeeze_break hb, squeeze_break hb', ih]
  · intro h
    exact (respaced_squeeze cs).trans (h ▸ (respaced_squeeze ds).symm)

instance (cs ds : List Char) : Decidable (Respaced cs ds) := decidable_of_iff' _ respaced_iff

/-! ## Lists -/

section
variable {body body' p p' : List Char} {name part : String} {values : List String}

theorem NameItem.respaced (h : NameItem p name) (hp : Respaced p p') : NameItem p' name := by
  obtain ⟨a, w, b, rfl, ha, hw, hb, rfl⟩ := h
  rw [List.append_assoc] at hp
  obtain ⟨a', _, rfl, ha', hrest⟩ := hp.gap_inv ha (hw.stops_isBlank _)
  obtain ⟨b', rfl, hend⟩ := hrest.solid_inv hw.isBlank_eq_false
  exact ⟨a', w, b', by simp, ha', hw, hend.isGap hb, rfl⟩

theorem PartItem.respaced (h : PartItem p part) (hp : Respaced p p') :
    ∃ part', PartItem p' part' ∧ Respaced part.toList part'.toList := by
  obtain ⟨⟨hfree, c, hc, hspace⟩, rfl⟩ := h
  have hblank : isBlank c = false := by
    cases hb : isBlank c with
    | false => rfl
    | true => rw [isSpace_of_isBlank hb] at hspace; cases hspace
  refine ⟨String.ofList (trim p'), ⟨⟨fun x hx => ⟨fun he => ?_, fun he => ?_⟩, c,
    hp.mem hblank hc, hspace⟩, rfl⟩, ?_⟩
  · exact (hfree x (hp.symm.mem (he ▸ by decide) hx)).1 he
  · exact (hfree x (hp.symm.mem (he ▸ by decide) hx)).2 he
  · simpa using hp.trim

/-- Items that keep their values up to `R` make lists that do. -/
theorem CommaList.respaced {item : List Char → String → Prop} {R : String → String → Prop}
    (hitem : ∀ p value p', item p value → Respaced p p' → ∃ value', item p' value' ∧ R value value')
    (h : CommaList item body values) (hbody : Respaced body body') :
    ∃ values', CommaList item body' values' ∧ List.Forall₂ R values values' := by
  induction h generalizing body' with
  | last hp =>
    obtain ⟨value', hp', hR⟩ := hitem _ _ _ hp hbody
    exact ⟨[value'], .last hp', .cons hR .nil⟩
  | more hp _ ih =>
    obtain ⟨p', rest', rfl, hfirst, hrest⟩ := hbody.split_inv (by decide)
    obtain ⟨value', hp', hR⟩ := hitem _ _ _ hp hfirst
    obtain ⟨values', hlist, hRs⟩ := ih hrest
    exact ⟨value' :: values', .more hp' hlist, .cons hR hRs⟩

end

/-! ## Lines -/

/-- The same declaration, up to the blanks inside the parts of a composite. -/
def Alike : Declaration → Declaration → Prop
  | .composite c, .composite c' => c.owner = c'.owner ∧ c.name = c'.name ∧
      List.Forall₂ (fun part part' => Respaced part.toList part'.toList) c.parts c'.parts
  | d, d' => d = d'

theorem isBlank_cardinalityMark (c : Cardinality) :
    ∀ x ∈ (cardinalityMark c).toList, isBlank x = false := by
  cases c <;> simp [cardinalityMark, isBlank]

theorem isBlank_dashes : ∀ x ∈ "--".toList, isBlank x = false := by simp [isBlank]

/-- A rule keeps a line that is respaced. -/
theorem Denotes.respaced {r : Rule} {line line' : List Char} {d : Declaration}
    (h : Denotes r line d) (hline : Respaced line line') :
    ∃ d', Denotes r line' d' ∧ Alike d d' := by
  cases h with
  | @color channel z₁ z₂ digits hz₁ hz₂ hdigits hlen =>
    have hsolid : ∀ c ∈ '#' :: digits, isBlank c = false := by
      refine List.forall_mem_cons.mpr ⟨by decide, fun c hc => ?_⟩
      exact isBlank_eq_false_of_isWordChar (isWordChar_of_isHexDigit (hdigits c hc))
    simp only [List.append_assoc, List.cons_append] at hline
    obtain ⟨z₁', _, rfl, hz₁', h₁⟩ := hline.token_gap_inv
      (isName_channelWord channel).isBlank_eq_false hz₁ (stops_cons.mpr (by decide))
    obtain ⟨z₂', _, rfl, hz₂', h₂⟩ := h₁.token_gap_inv (w := [':'])
      (List.forall_mem_singleton.mpr (by decide)) hz₂ (stops_cons.mpr (by decide))
    obtain rfl := h₂.eq_of_solid hsolid
    exact ⟨_, by simpa using Denotes.color hz₁' hz₂' hdigits hlen, rfl⟩
  | isa hb hw hz hbody =>
    simp only [List.append_assoc, List.cons_append] at hline
    obtain ⟨b', _, rfl, hb', h₁⟩ := hline.token_break_inv isName_isa.isBlank_eq_false hb
      (hw.stops_isBlank _)
    obtain ⟨z', _, rfl, hz', h₂⟩ := h₁.token_gap_inv hw.isBlank_eq_false hz
      (stops_cons.mpr (by decide))
    obtain ⟨body', rfl, hrespaced⟩ := h₂.braced_inv
    obtain ⟨names, hnames, hsame⟩ := hbody.respaced (R := Eq)
      (fun p name p' hp hp' => ⟨name, hp.respaced hp', rfl⟩) hrespaced
    obtain rfl := List.forall₂_eq_eq_eq ▸ hsame
    exact ⟨_, by simpa using Denotes.isa hb' hw hz' hnames, rfl⟩
  | weakEntity hb₁ hb₂ hw =>
    simp only [List.append_assoc] at hline
    obtain ⟨b₁', _, rfl, hb₁', h₁⟩ := hline.token_break_inv isName_weak.isBlank_eq_false hb₁
      (isName_entity.stops_isBlank _)
    obtain ⟨b₂', rfl, hb₂'⟩ := h₁.token_name_inv isName_entity.isBlank_eq_false hb₂ hw
    exact ⟨_, by simpa using Denotes.weakEntity hb₁' hb₂' hw, rfl⟩
  | entity hb hw =>
    rw [List.append_assoc] at hline
    obtain ⟨b', rfl, hb'⟩ := hline.token_name_inv isName_entity.isBlank_eq_false hb hw
    exact ⟨_, by simpa using Denotes.entity hb' hw, rfl⟩
  | identifyingRelationship hb₁ hb₂ hw =>
    simp only [List.append_assoc] at hline
    obtain ⟨b₁', _, rfl, hb₁', h₁⟩ := hline.token_break_inv isName_identifying.isBlank_eq_false
      hb₁ (isName_relationship.stops_isBlank _)
    obtain ⟨b₂', rfl, hb₂'⟩ := h₁.token_name_inv isName_relationship.isBlank_eq_false hb₂ hw
    exact ⟨_, by simpa using Denotes.identifyingRelationship hb₁' hb₂' hw, rfl⟩
  | relationship hb hw =>
    rw [List.append_assoc] at hline
    obtain ⟨b', rfl, hb'⟩ := hline.token_name_inv isName_relationship.isBlank_eq_false hb hw
    exact ⟨_, by simpa using Denotes.relationship hb' hw, rfl⟩
  | composite hb₁ howner hb₂ hname hz hbody =>
    simp only [List.append_assoc, List.cons_append] at hline
    obtain ⟨b₁', b₂', _, rfl, hb₁', hb₂', h₂⟩ :=
      hline.owner_name_inv isName_composite hb₁ howner hb₂ hname
    obtain ⟨z', _, rfl, hz', h₃⟩ := h₂.gap_inv hz (stops_cons.mpr (by decide))
    obtain ⟨body', rfl, hrespaced⟩ := h₃.braced_inv
    obtain ⟨parts, hparts, halike⟩ :=
      hbody.respaced (fun p part p' hp hp' => hp.respaced hp') hrespaced
    refine ⟨_, by simpa using Denotes.composite hb₁' howner hb₂' hname hz' hparts, ?_⟩
    exact ⟨rfl, rfl, halike⟩
  | @plainAttribute b₁ owner b₂ name hb₁ howner hb₂ hname =>
    rw [← List.append_nil name] at hline
    simp only [List.append_assoc] at hline
    obtain ⟨b₁', b₂', _, rfl, hb₁', hb₂', h₂⟩ :=
      hline.owner_name_inv isName_attribute hb₁ howner hb₂ hname
    rw [h₂.eq_nil]
    exact ⟨_, by simpa using Denotes.plainAttribute hb₁' howner hb₂' hname, rfl⟩
  | markedAttribute hb₁ howner hb₂ hname hb₃ hmark =>
    have hkey := isName_kindMark hmark
    simp only [List.append_assoc] at hline
    obtain ⟨b₁', b₂', _, rfl, hb₁', hb₂', h₂⟩ :=
      hline.owner_name_inv isName_attribute hb₁ howner hb₂ hname
    obtain ⟨b₃', _, rfl, hb₃', h₃⟩ := h₂.break_inv hb₃ hkey.stops_isBlank_self
    rw [h₃.eq_of_solid hkey.isBlank_eq_false]
    exact ⟨_, by simpa using Denotes.markedAttribute hb₁' howner hb₂' hname hb₃' hmark, rfl⟩
  | edge hr hb₁ hv hb₂ hb₃ hb₄ hb₅ hb₆ hb₇ hw =>
    simp only [List.append_assoc] at hline
    obtain ⟨b₁', _, rfl, hb₁', h₁⟩ := hline.token_break_inv hr.isBlank_eq_false hb₁
      (hv.stops_isBlank _)
    obtain ⟨b₂', _, rfl, hb₂', h₂⟩ := h₁.token_break_inv hv.isBlank_eq_false hb₂
      (stops_cardinality _ _)
    obtain ⟨b₃', _, rfl, hb₃', h₃⟩ := h₂.token_break_inv (isBlank_cardinalityMark _) hb₃
      ((isName_keyword _).stops_isBlank _)
    obtain ⟨b₄', _, rfl, hb₄', h₄⟩ := h₃.token_break_inv (isName_keyword _).isBlank_eq_false hb₄
      (stops_dashes _)
    obtain ⟨b₅', _, rfl, hb₅', h₅⟩ := h₄.token_break_inv isBlank_dashes hb₅
      (stops_cardinality _ _)
    obtain ⟨b₆', _, rfl, hb₆', h₆⟩ := h₅.token_break_inv (isBlank_cardinalityMark _) hb₆
      ((isName_keyword _).stops_isBlank _)
    obtain ⟨b₇', rfl, hb₇'⟩ := h₆.token_name_inv (isName_keyword _).isBlank_eq_false hb₇ hw
    exact ⟨_, by simpa using Denotes.edge hr hb₁' hv hb₂' hb₃' hb₄' hb₅' hb₆' hb₇' hw, rfl⟩
  | simplifiedEdge hv hb₁ hb₂ hb₃ hb₄ hw =>
    simp only [List.append_assoc] at hline
    obtain ⟨b₁', _, rfl, hb₁', h₁⟩ := hline.token_break_inv hv.isBlank_eq_false hb₁
      (stops_cardinality _ _)
    obtain ⟨b₂', _, rfl, hb₂', h₂⟩ := h₁.token_break_inv (isBlank_cardinalityMark _) hb₂
      (stops_dashes _)
    obtain ⟨b₃', _, rfl, hb₃', h₃⟩ := h₂.token_break_inv isBlank_dashes hb₃
      (stops_cardinality _ _)
    obtain ⟨b₄', rfl, hb₄'⟩ := h₃.token_name_inv (isBlank_cardinalityMark _) hb₄ hw
    exact ⟨_, by simpa using Denotes.simplifiedEdge hv hb₁' hb₂' hb₃' hb₄' hw, rfl⟩

/-- How wide the blanks of a line are, and whether they are spaces or tabs, makes no difference.
Lines that differ in nothing else are both refused, or both accepted by the same rule with the same
declaration; the parts of a composite keep the blanks inside them, and differ in nothing else. -/
theorem classify_respaced (g : EdgeGrammar) {line line' : List Char} (h : Respaced line line') :
    Option.Rel (fun found found' => found.1 = found'.1 ∧ Alike found.2 found'.2)
      (classify g line) (classify g line') := by
  have hkeeps : ∀ {l l' : List Char} {r : Rule} {d : Declaration}, Respaced l l' →
      classify g l = some (r, d) → ∃ d', classify g l' = some (r, d') ∧ Alike d d' := by
    intro l l' r d hl hfound
    obtain ⟨hr, hd⟩ := denotes_of_classify hfound
    obtain ⟨d', hd', halike⟩ := hd.respaced hl
    exact ⟨d', classify_eq_some_iff.mpr ⟨hr, hd'⟩, halike⟩
  rcases hfound : classify g line with _ | ⟨r, d⟩
  · rcases hfound' : classify g line' with _ | ⟨r', d'⟩
    · exact .none
    · obtain ⟨d, hd, -⟩ := hkeeps h.symm hfound'
      cases hfound.symm.trans hd
  · obtain ⟨d', hd', halike⟩ := hkeeps h hfound
    rw [hd']
    exact .some ⟨rfl, halike⟩

theorem classify_respaced_composite :
    let line := "composite A  n \x7b a b,c \x7d".toList
    let line' := "composite\tA n\t\x7b  a\t b,c\t\x7d".toList
    Respaced line line' ∧
      Option.Rel (fun found found' => found.1 = found'.1 ∧ Alike found.2 found'.2)
        (classify .full line) (classify .full line') ∧
      classify .full line = some (.composite, .composite ⟨"A", "n", ["a b", "c"]⟩) ∧
      classify .full line' = some (.composite, .composite ⟨"A", "n", ["a\t b", "c"]⟩) := by
  intro line line'
  have h : Respaced line line' := by decide +kernel
  exact ⟨h, classify_respaced .full h, by decide +kernel, by decide +kernel⟩

end ChenDiagram.Source
