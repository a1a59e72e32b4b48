/-! Two ways to take a text apart. It is cut at all separators at once, or read from the front by a
scanner, which fails or gives a value together with the characters it left over. Runs are taken
greedily, and only a choice goes back. The lemmas say which texts a scanner succeeds on and how it
cuts them. -/

namespace ChenDiagram.Text

/-! ## Pieces

Lines are cut at line feeds, list items at commas, paths at slashes. -/

/-- The stretches between separators, in order and empty ones included. -/
def pieces (sep : Char) (cs : List Char) : List (List Char) :=
  cs.foldr (fun c ps => if c = sep then [] :: ps else ps.modifyHead (c :: ·)) [[]]

@[simp]
theorem pieces_nil (sep : Char) : pieces sep [] = [[]] := rfl

theorem pieces_cons (sep c : Char) (cs : List Char) :
    pieces sep (c :: cs) =
      if c = sep then [] :: pieces sep cs else (pieces sep cs).modifyHead (c :: ·) := rfl

/-- There is one piece more than there are separators. -/
theorem length_pieces (sep : Char) (cs : List Char) :
    (pieces sep cs).length = cs.count sep + 1 := by
  induction cs with
  | nil => rfl
  | cons c cs ih =>
    rw [pieces_cons, List.count_cons]
    split <;> simp_all

/-! ## Scanners -/

abbrev Scanner := StateT (List Char) Option

namespace Scanner
variable {α β : Type}

/-- What a text leaves over after the given front. -/
def after? : List Char → List Char → Option (List Char)
  | [], cs => some cs
  | a :: front, c :: cs => if a = c then after? front cs else none
  | _ :: _, [] => none

/-- Exactly this text. -/
def literal (text : String) : Scanner Unit := fun cs =>
  (after? text.toList cs).map fun rest => ((), rest)

/-- The longest run of `p`, which may be empty. -/
def span (p : Char → Bool) : Scanner (List Char) := fun cs =>
  some (cs.takeWhile p, cs.dropWhile p)

/-- The longest run of `p`, which must not be empty. -/
def span1 (p : Char → Bool) : Scanner (List Char) := do
  let run ← span p
  if run.isEmpty then failure else return run

/-- One character of the class `p`. -/
def satisfy (p : Char → Bool) : Scanner Char
  | c :: rest => if p c then some (c, rest) else none
  | [] => none

/-- The value of the first of these texts that stands at the front. -/
def oneOf (options : List (String × α)) : Scanner α := fun cs =>
  options.findSome? fun option =>
    (after? option.1.toList cs).map fun rest => (option.2, rest)

/-- As many readings as there are, up to a bound. -/
def upTo (s : Scanner α) : Nat → Scanner (List α)
  | 0, cs => some ([], cs)
  | n + 1, cs =>
    match s cs with
    | none => some ([], cs)
    | some (a, rest) => (upTo s n rest).map fun r => (a :: r.1, r.2)

/-- As many readings as there are. A reading that takes at least one character can succeed no more
often than there are characters. -/
def many (s : Scanner α) : Scanner (List α) := fun cs => upTo s cs.length cs

/-- At least one reading, with separators between them. A separator is taken only together with the
reading behind it. -/
def separated (item : Scanner α) (separator : Scanner Unit) : Scanner (List α) := do
  let first ← item
  let others ← many do separator; item
  return first :: others

/-- The reading of a text that is used up to its end. -/
def readAll (s : Scanner α) (text : List Char) : Option α :=
  match s text with
  | some (a, []) => some a
  | _ => none

theorem bind_eq_some {s : Scanner α} {f : α → Scanner β} {cs rest : List Char} {b : β} :
    (s >>= f) cs = some (b, rest) ↔
      ∃ a mid, s cs = some (a, mid) ∧ f a mid = some (b, rest) := by
  change (s cs).bind (fun r => f r.1 r.2) = some (b, rest) ↔ _
  simp [Option.bind_eq_some_iff]

theorem pure_eq_some {a b : α} {cs rest : List Char} :
    (pure a : Scanner α) cs = some (b, rest) ↔ b = a ∧ rest = cs := by
  change some (a, cs) = some (b, rest) ↔ _
  simp [eq_comm]

theorem after?_eq_some {front cs rest : List Char} :
    after? front cs = some rest ↔ cs = front ++ rest := by
  induction front generalizing cs with
  | nil => simp [after?]
  | cons a front ih =>
    cases cs with
    | nil => simp [after?]
    | cons c cs =>
      by_cases h : a = c
      · simp [after?, h, ih]
      · simp [after?, h, Ne.symm h]

theorem literal_eq_some {text : String} {cs rest : List Char} {u : Unit} :
    literal text cs = some (u, rest) ↔ cs = text.toList ++ rest := by
  rw [literal, Option.map_eq_some_iff]
  constructor
  · rintro ⟨r, h, hr⟩
    cases hr
    exact after?_eq_some.mp h
  · intro h
    exact ⟨rest, after?_eq_some.mpr h, rfl⟩

/-- A run is cut where `p` first fails. -/
theorem span_eq_some {p : Char → Bool} {cs run rest : List Char} :
    span p cs = some (run, rest) ↔
      cs = run ++ rest ∧ (∀ c ∈ run, p c = true) ∧ ∀ c ∈ rest.head?, p c = false := by
  simp only [span, Option.some.injEq, Prod.mk.injEq]
  constructor
  · rintro ⟨rfl, rfl⟩
    refine ⟨List.takeWhile_append_dropWhile.symm, fun c hc => ?_, fun c hc => ?_⟩
    · exact List.all_eq_true.mp List.all_takeWhile c hc
    · have h := List.head?_dropWhile_not p cs
      rw [Option.mem_def.mp hc] at h
      simpa using h
  · rintro ⟨rfl, hrun, hrest⟩
    have htake : rest.takeWhile p = [] := by
      cases rest with
      | nil => rfl
      | cons c cs => simp [hrest c rfl]
    have hdrop : rest.dropWhile p = rest := by
      cases rest with
      | nil => rfl
      | cons c cs => simp [hrest c rfl]
    rw [List.takeWhile_append_of_pos hrun, List.dropWhile_append_of_pos hrun, htake, hdrop]
    simp

theorem span1_eq_some {p : Char → Bool} {cs run rest : List Char} :
    span1 p cs = some (run, rest) ↔ run ≠ [] ∧ span p cs = some (run, rest) := by
  rw [span1, bind_eq_some]
  constructor
  · rintro ⟨r, mid, hs, h⟩
    cases r with
    | nil => cases h
    | cons c cs =>
      obtain ⟨rfl, rfl⟩ := pure_eq_some.mp h
      exact ⟨List.cons_ne_nil c cs, hs⟩
  · rintro ⟨hne, hs⟩
    refine ⟨run, rest, hs, ?_⟩
    cases run with
    | nil => exact absurd rfl hne
    | cons c cs => rfl

theorem readAll_eq_some {s : Scanner α} {text : List Char} {a : α} :
    readAll s text = some a ↔ s text = some (a, []) := by
  unfold readAll
  split
  · next h => simp [h]
  · next h => exact ⟨nofun, fun h' => (h a h').elim⟩

end Scanner
end ChenDiagram.Text
