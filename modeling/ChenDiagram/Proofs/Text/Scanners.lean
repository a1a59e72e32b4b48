import ChenDiagram.Text.Scanner

/-! More laws of scanners: choices from a table, choices that go back, and repetition. A table whose
texts do not begin one another is read without regard to its order. -/

namespace ChenDiagram.Text.Scanner
variable {α β : Type}

/-- No text of the table begins another one, so at most one of them stands at the front. -/
def PrefixFree (options : List (String × α)) : Prop :=
  options.Pairwise fun x y => ¬ x.1.toList <+: y.1.toList ∧ ¬ y.1.toList <+: x.1.toList

instance (options : List (String × α)) : Decidable (PrefixFree options) :=
  inferInstanceAs (Decidable (options.Pairwise _))

theorem oneOf_eq_some {options : List (String × α)} (h : PrefixFree options)
    {cs rest : List Char} {a : α} :
    oneOf options cs = some (a, rest) ↔ ∃ t, (t, a) ∈ options ∧ cs = t.toList ++ rest := by
  induction options with
  | nil => simp [oneOf]
  | cons x options ih =>
    obtain ⟨hx, htail⟩ := List.pairwise_cons.mp h
    have hcons : oneOf (x :: options) cs =
        ((after? x.1.toList cs).map fun rest => (x.2, rest)).or (oneOf options cs) := by
      simp only [oneOf, List.findSome?_cons]
      cases (after? x.1.toList cs).map fun rest => (x.2, rest) <;> rfl
    rw [hcons]
    cases hfront : after? x.1.toList cs with
    | none =>
      rw [Option.map_none, Option.none_or, ih htail]
      constructor
      · intro hs
        obtain ⟨t, ht, hcs⟩ := hs
        exact ⟨t, List.mem_cons_of_mem _ ht, hcs⟩
      · intro hs
        obtain ⟨t, ht, hcs⟩ := hs
        rcases List.mem_cons.mp ht with rfl | ht
        · rw [after?_eq_some.mpr hcs] at hfront
          cases hfront
        · exact ⟨t, ht, hcs⟩
    | some mid =>
      have hmid := after?_eq_some.mp hfront
      simp only [Option.map_some, Option.some_or, Option.some.injEq, Prod.mk.injEq]
      constructor
      · intro hs
        obtain ⟨rfl, rfl⟩ := hs
        exact ⟨x.1, List.mem_cons_self, hmid⟩
      · intro hs
        obtain ⟨t, ht, hcs⟩ := hs
        rcases List.mem_cons.mp ht with rfl | ht
        · exact ⟨rfl, List.append_cancel_left (hmid.symm.trans hcs)⟩
        · -- two texts in front of `cs` are comparable, which the table rules out
          have hpre : x.1.toList <+: cs := ⟨mid, hmid.symm⟩
          have hpre' : t.toList <+: cs := ⟨rest, hcs.symm⟩
          rcases List.prefix_or_prefix_of_prefix hpre hpre' with hp | hp
          · exact absurd hp (hx _ ht).1
          · exact absurd hp (hx _ ht).2

theorem oneOf_append {options : List (String × α)} (h : PrefixFree options) {t : String} {a : α}
    (ht : (t, a) ∈ options) (rest : List Char) :
    oneOf options (t.toList ++ rest) = some (a, rest) :=
  (oneOf_eq_some h).mpr ⟨t, ht, rfl⟩

theorem literal_append (text : String) (rest : List Char) :
    literal text (text.toList ++ rest) = some ((), rest) :=
  literal_eq_some.mpr rfl

theorem bind_of_eq_some {s : Scanner α} {f : α → Scanner β} {cs mid : List Char} {a : α}
    (h : s cs = some (a, mid)) : (s >>= f) cs = f a mid := by
  change (s cs).bind (fun r => f r.1 r.2) = f a mid
  rw [h, Option.bind_some]

theorem orElse_eq_some {s t : Scanner α} {cs rest : List Char} {a : α} :
    (s <|> t) cs = some (a, rest) ↔
      s cs = some (a, rest) ∨ s cs = none ∧ t cs = some (a, rest) := by
  change (s cs <|> t cs) = some (a, rest) ↔ _
  cases s cs <;> simp

theorem orElse_of_eq_none {s : Scanner α} {cs : List Char} (h : s cs = none) (t : Scanner α) :
    (s <|> t) cs = t cs := by
  change (s cs <|> t cs) = t cs
  rw [h]
  rfl

theorem orElse_of_eq_some {s : Scanner α} {cs rest : List Char} {a : α}
    (h : s cs = some (a, rest)) (t : Scanner α) : (s <|> t) cs = some (a, rest) :=
  orElse_eq_some.mpr (.inl h)

/-! ## Repetition -/

/-- Readings one after another, up to where there is none. -/
inductive Repeated (s : Scanner α) : List Char → List α → List Char → Prop where
  | stop {cs : List Char} : s cs = none → Repeated s cs [] cs
  | next {cs mid rest : List Char} {a : α} {items : List α} : s cs = some (a, mid) →
      Repeated s mid items rest → Repeated s cs (a :: items) rest

section
variable {s : Scanner α} {cs rest : List Char} {items : List α}

theorem Repeated.upTo_eq (h : Repeated s cs items rest) :
    ∀ n, items.length ≤ n → upTo s n cs = some (items, rest) := by
  induction h with
  | stop hnone =>
    intro n _
    cases n with
    | zero => rfl
    | succ n => simp [upTo, hnone]
  | next hread _ ih =>
    intro n hn
    cases n with
    | zero => simp at hn
    | succ n => simp [upTo, hread, ih n (by simpa using hn)]

/-- Every reading takes at least one character. -/
def Advances (s : Scanner α) : Prop :=
  ∀ cs a rest, s cs = some (a, rest) → rest.length < cs.length

theorem Repeated.length_le (hs : Advances s) (h : Repeated s cs items rest) :
    items.length ≤ cs.length := by
  induction h with
  | stop _ => exact Nat.zero_le _
  | next hread _ ih =>
    have hshorter := hs _ _ _ hread
    rw [List.length_cons]
    omega

theorem repeated_of_upTo (hs : Advances s) :
    ∀ n cs items, cs.length ≤ n → upTo s n cs = some (items, rest) → Repeated s cs items rest := by
  intro n
  induction n with
  | zero =>
    intro cs items hlength h
    obtain rfl := List.length_eq_zero_iff.mp (Nat.le_zero.mp hlength)
    cases h
    refine .stop (Option.eq_none_iff_forall_ne_some.mpr fun r hread => ?_)
    exact absurd (hs _ _ _ hread) (Nat.not_lt_zero _)
  | succ n ih =>
    intro cs items hlength h
    cases hread : s cs with
    | none =>
      simp only [upTo, hread] at h
      cases h
      exact .stop hread
    | some r =>
      simp only [upTo, hread, Option.map_eq_some_iff] at h
      obtain ⟨others, hothers, h⟩ := h
      cases h
      have hshorter := hs _ _ _ hread
      exact .next hread (ih _ _ (by omega) hothers)

theorem many_eq_some (hs : Advances s) :
    many s cs = some (items, rest) ↔ Repeated s cs items rest :=
  ⟨repeated_of_upTo hs _ _ _ (Nat.le_refl _), fun h => h.upTo_eq _ (h.length_le hs)⟩

theorem separated_eq_some {separator : Scanner Unit} (hs : Advances (do separator; s)) :
    separated s separator cs = some (items, rest) ↔
      ∃ a mid others, items = a :: others ∧ s cs = some (a, mid) ∧
        Repeated (do separator; s) mid others rest := by
  simp only [separated, bind_eq_some, pure_eq_some, many_eq_some hs]
  constructor
  · intro h
    obtain ⟨a, mid, hread, others, _, hothers, rfl, rfl⟩ := h
    exact ⟨a, mid, others, rfl, hread, hothers⟩
  · intro h
    obtain ⟨a, mid, others, rfl, hread, hothers⟩ := h
    exact ⟨a, mid, hread, others, rest, hothers, rfl, rfl⟩

end

section
variable {s : Scanner α} {print : α → List Char} (Follows : List Char → Prop)

theorem repeated_flatMap (hread : ∀ a rest, Follows rest → s (print a ++ rest) = some (a, rest))
    (hprint : ∀ a rest, Follows rest → Follows (print a ++ rest)) {rest : List Char}
    (hrest : Follows rest) (hstop : s rest = none) (items : List α) :
    Follows (items.flatMap print ++ rest) ∧
      Repeated s (items.flatMap print ++ rest) items rest := by
  induction items with
  | nil => exact ⟨hrest, .stop hstop⟩
  | cons a items ih =>
    rw [List.flatMap_cons, List.append_assoc]
    exact ⟨hprint a _ ih.1, .next (hread a _ ih.1) ih.2⟩

/-- Printed items are read back one by one, if each is read back in front of whatever may follow
it and nothing is read at the end of them. -/
theorem many_flatMap (hread : ∀ a rest, Follows rest → s (print a ++ rest) = some (a, rest))
    (hprint : ∀ a rest, Follows rest → Follows (print a ++ rest)) (hne : ∀ a, print a ≠ [])
    {rest : List Char} (hrest : Follows rest) (hstop : s rest = none) (items : List α) :
    many s (items.flatMap print ++ rest) = some (items, rest) := by
  refine (repeated_flatMap Follows hread hprint hrest hstop items).2.upTo_eq _ ?_
  induction items with
  | nil => simp
  | cons a items ih =>
    have hpos : 0 < (print a).length := List.length_pos_iff.mpr (hne a)
    simp only [List.flatMap_cons, List.length_append, List.length_cons] at ih ⊢
    omega

end

end ChenDiagram.Text.Scanner
