import ChenDiagram.Command.Arguments

/-! What an accepted command line says. Items are taken one by one, and what has been collected
tells at any time which of them were taken (`Given.Tells`); a request settles the rest from the
environment (`Request.Tells`). A line is refused for help only if it asks for help. Requests for
more output in front of a line change nothing but the verbosity. -/

namespace ChenDiagram.Command
open Source Dot

/-! ## Items one by one -/

namespace Given
variable {given given' : Given} {item : Item} {taken its : List Item}

/-- How an item can be taken: into a place of its own that is still free, or as one more request for
output. -/
inductive Takes (given : Given) : Item → Given → Prop where
  | file {path : String} : given.file = none →
      Takes given (.file path) { given with file := some path }
  | output {path : String} : given.output = none →
      Takes given (.value .output path) { given with output := some path }
  | grammar {name : String} {g : EdgeGrammar} : given.grammar = none →
      EdgeGrammar.ofName name = .ok g →
      Takes given (.value .edgeGrammar name) { given with grammar := some g }
  | direction {name : String} {d : Direction} : given.direction = none →
      Direction.ofName name = .ok d →
      Takes given (.value .direction name) { given with direction := some d }
  | strict : given.strict = false → Takes given .strict { given with strict := true }
  | verbose : Takes given .verbose { given with verbosity := given.verbosity + 1 }

theorem takes_of_take (h : given.take item = .ok given') : Takes given item given' := by
  match item with
  | .file path =>
    simp only [take] at h
    split at h
    · cases h
    · next hfree => cases h; exact .file (by simp_all)
  | .value .output path =>
    simp only [take] at h
    split at h
    · cases h
    · next hfree => cases h; exact .output (by simp_all)
  | .value .edgeGrammar name =>
    simp only [take] at h
    split at h
    · next g hname hfree => cases h; exact .grammar hfree hname
    · cases h
  | .value .direction name =>
    simp only [take] at h
    split at h
    · next d hname hfree => cases h; exact .direction hfree hname
    · cases h
  | .strict =>
    simp only [take] at h
    split at h
    · cases h
    · next hfree => cases h; exact .strict (by simpa using hfree)
  | .verbose => cases h; exact .verbose
  | .help => cases h
  | .invalid => cases h

/-- This is what the items of one kind say, each of which carries a text. -/
def Collects {ε α : Type} (taken : List Item) (make : String → Item)
    (read : String → Except ε α) : Option α → Prop
  | none => ∀ name, make name ∉ taken
  | some a => (∃ name, make name ∈ taken) ∧ ∀ name, make name ∈ taken → read name = .ok a

/-- What has been collected is what these items say. -/
structure Tells (given : Given) (taken : List Item) : Prop where
  file : Collects taken .file (@Except.ok Refusal String) given.file
  output : Collects taken (.value .output) (@Except.ok Refusal String) given.output
  grammar : Collects taken (.value .edgeGrammar) EdgeGrammar.ofName given.grammar
  direction : Collects taken (.value .direction) Direction.ofName given.direction
  strict : given.strict = true ↔ .strict ∈ taken
  verbosity : given.verbosity = taken.count .verbose

section Collects
variable {ε α : Type} {make : String → Item} {read : String → Except ε α} {a : α} {name : String}

theorem Collects.keep {a : Option α} (h : Collects taken make read a)
    (hother : ∀ name, item ≠ make name) : Collects (taken ++ [item]) make read a := by
  have hmem : ∀ name, make name ∈ taken ++ [item] ↔ make name ∈ taken := by
    intro name
    rw [List.mem_append, List.mem_singleton]
    exact or_iff_left fun he => hother name he.symm
  cases a with
  | none => exact fun name => mt (hmem name).mp (h name)
  | some a =>
    obtain ⟨⟨name, hname⟩, hread⟩ := h
    exact ⟨⟨name, (hmem name).mpr hname⟩, fun name hname => hread name ((hmem name).mp hname)⟩

theorem Collects.fill (h : Collects taken make read none) (hread : read name = .ok a)
    (hmake : ∀ name', make name' = make name → name' = name) :
    Collects (taken ++ [make name]) make read (some a) := by
  refine ⟨⟨name, List.mem_append_right _ List.mem_cons_self⟩, fun name' hname' => ?_⟩
  rcases List.mem_append.mp hname' with hname' | hname'
  · exact absurd hname' (h name')
  · rw [hmake name' (List.mem_singleton.mp hname'), hread]

theorem Collects.eq_some_iff {a : Option String} (h : Collects taken make (@Except.ok ε String) a) :
    a = some name ↔ make name ∈ taken := by
  cases a with
  | none => exact ⟨nofun, fun hname => absurd hname (h name)⟩
  | some a =>
    obtain ⟨⟨name', hname'⟩, hread⟩ := h
    rw [Option.some.injEq]
    refine ⟨fun he => ?_, fun hname => (Except.ok.inj (hread name hname)).symm⟩
    rwa [← he, ← Except.ok.inj (hread name' hname')]

theorem Collects.eq_none_iff {a : Option α} (h : Collects taken make read a) :
    a = none ↔ ∀ name, make name ∉ taken := by
  cases a with
  | none => exact ⟨fun _ => h, fun _ => rfl⟩
  | some a =>
    obtain ⟨⟨name, hname⟩, -⟩ := h
    exact ⟨nofun, fun hnone => absurd hname (hnone name)⟩

end Collects

theorem tells_nil : Tells {} [] where
  file := fun _ => List.not_mem_nil
  output := fun _ => List.not_mem_nil
  grammar := fun _ => List.not_mem_nil
  direction := fun _ => List.not_mem_nil
  strict := by simp
  verbosity := rfl

/-- The place that is filled had no item before, and the other places keep theirs. -/
theorem Tells.take (h : given.Tells taken) (htake : given.take item = .ok given') :
    given'.Tells (taken ++ [item]) := by
  obtain ⟨hfile, houtput, hgrammar, hdirection, hstrict, hverbosity⟩ := h
  cases takes_of_take htake with
  | file hfree =>
    rw [hfree] at hfile
    exact ⟨hfile.fill rfl fun _ => Item.file.inj, houtput.keep nofun, hgrammar.keep nofun,
      hdirection.keep nofun, by simpa using hstrict, by simpa using hverbosity⟩
  | output hfree =>
    rw [hfree] at houtput
    exact ⟨hfile.keep nofun, houtput.fill rfl fun _ he => (Item.value.inj he).2,
      hgrammar.keep nofun, hdirection.keep nofun, by simpa using hstrict, by simpa using hverbosity⟩
  | grammar hfree hname =>
    rw [hfree] at hgrammar
    exact ⟨hfile.keep nofun, houtput.keep nofun,
      hgrammar.fill hname fun _ he => (Item.value.inj he).2, hdirection.keep nofun,
      by simpa using hstrict, by simpa using hverbosity⟩
  | direction hfree hname =>
    rw [hfree] at hdirection
    exact ⟨hfile.keep nofun, houtput.keep nofun, hgrammar.keep nofun,
      hdirection.fill hname fun _ he => (Item.value.inj he).2, by simpa using hstrict,
      by simpa using hverbosity⟩
  | strict hfree =>
    exact ⟨hfile.keep nofun, houtput.keep nofun, hgrammar.keep nofun, hdirection.keep nofun,
      by simp, by simpa using hverbosity⟩
  | verbose =>
    exact ⟨hfile.keep nofun, houtput.keep nofun, hgrammar.keep nofun, hdirection.keep nofun,
      by simpa using hstrict, by simp [hverbosity]⟩

theorem Tells.foldlM (h : given.Tells taken) (hfold : its.foldlM Given.take given = .ok given') :
    given'.Tells (taken ++ its) := by
  induction its generalizing given taken with
  | nil => rwa [List.append_nil, ← Except.ok.inj hfold]
  | cons item its ih =>
    rw [List.foldlM_cons] at hfold
    cases htake : given.take item with
    | error refusal => rw [htake] at hfold; cases hfold
    | ok next =>
      rw [htake] at hfold
      rw [List.append_cons]
      exact ih (h.take htake) hfold

theorem tells_ofArguments {args : List String} (h : Given.ofArguments args = .ok given) :
    given.Tells (items none args) := by
  exact tells_nil.foldlM h

/-! ## Refusals -/

theorem take_eq_help (h : given.take item = .error .help) : item = .help := by
  cases item with
  | help => rfl
  | file path => simp only [take] at h; split at h <;> cases h
  | value option text => cases option <;> simp only [take] at h <;> split at h <;> cases h
  | strict => simp only [take] at h; split at h <;> cases h
  | verbose => cases h
  | invalid => cases h

theorem help_mem_of_foldlM (h : its.foldlM Given.take given = .error .help) : .help ∈ its := by
  induction its generalizing given with
  | nil => cases h
  | cons item its ih =>
    rw [List.foldlM_cons] at h
    cases htake : given.take item with
    | error refusal =>
      rw [htake] at h
      cases h
      rw [take_eq_help htake]
      exact List.mem_cons_self
    | ok next =>
      rw [htake] at h
      exact List.mem_cons_of_mem _ (ih h)

theorem invalid_notMem_of_foldlM (h : its.foldlM Given.take given = .ok given') : .invalid ∉ its := by
  induction its generalizing given with
  | nil => exact List.not_mem_nil
  | cons item its ih =>
    rw [List.foldlM_cons] at h
    cases htake : given.take item with
    | error refusal => rw [htake] at h; cases h
    | ok next =>
      rw [htake] at h
      intro hinvalid
      rcases List.mem_cons.mp hinvalid with rfl | hinvalid
      · cases htake
      · exact ih h hinvalid

/-! ## More output -/

/-- The same with `n` further requests for output. -/
def louder (n : Nat) (given : Given) : Given := { given with verbosity := given.verbosity + n }

theorem take_louder (n : Nat) (given : Given) (item : Item) :
    (given.louder n).take item = (given.take item).map (louder n) := by
  match item with
  | .file path => simp only [take, apply_ite (Except.map (louder n))]; rfl
  | .value .output path => simp only [take, apply_ite (Except.map (louder n))]; rfl
  | .value .edgeGrammar name => simp only [take, louder]; split <;> rfl
  | .value .direction name => simp only [take, louder]; split <;> rfl
  | .strict => simp only [take, apply_ite (Except.map (louder n))]; rfl
  | .verbose =>
    have hswap : given.verbosity + n + 1 = given.verbosity + 1 + n := Nat.add_right_comm _ _ _
    simp only [take, louder, Except.map, hswap]
  | .help => rfl
  | .invalid => rfl

theorem foldlM_louder (n : Nat) (given : Given) (its : List Item) :
    its.foldlM Given.take (given.louder n) = (its.foldlM Given.take given).map (louder n) := by
  induction its generalizing given with
  | nil => rfl
  | cons item its ih =>
    rw [List.foldlM_cons, List.foldlM_cons, take_louder]
    cases given.take item with
    | error refusal => rfl
    | ok next => exact ih next

theorem foldlM_verbose (n : Nat) (given : Given) :
    (List.replicate n Item.verbose).foldlM Given.take given = .ok (given.louder n) := by
  induction n generalizing given with
  | zero => rfl
  | succ n ih =>
    rw [List.replicate_succ, List.foldlM_cons]
    refine (ih { given with verbosity := given.verbosity + 1 }).trans ?_
    have hswap : given.verbosity + 1 + n = given.verbosity + (n + 1) := by omega
    simp only [louder, hswap]

end Given

theorem items_verbose (n : Nat) (args : List String) :
    items none (List.replicate n "-v" ++ args) = List.replicate n .verbose ++ items none args := by
  induction n with
  | zero => rfl
  | succ n ih =>
    rw [List.replicate_succ, List.cons_append, List.replicate_succ, List.cons_append, ← ih]
    rfl

theorem Given.ofArguments_louder (n : Nat) (args : List String) :
    Given.ofArguments (List.replicate n "-v" ++ args) =
      (Given.ofArguments args).map (louder n) := by
  rw [Given.ofArguments, items_verbose, List.foldlM_append, foldlM_verbose]
  exact foldlM_louder n {} _

/-! ## Requests -/

namespace Request
variable {env : Environment} {args : List String} {r : Request} {refusal : Refusal}

/-- An option has this value: the one it is given, else the one of the environment, else its
default. -/
def Settled {ε α : Type} (asked : List Item) (option : Valued) (setting : Option String)
    (read : String → Except ε α) (default a : α) : Prop :=
  (∃ name, .value option name ∈ asked ∧ read name = .ok a) ∨
    (∀ name, .value option name ∉ asked) ∧
      match setting with
      | some text => read text = .ok a
      | none => a = default

/-- The request is what the items of a command line and the environment ask for. -/
structure Tells (r : Request) (env : Environment) (asked : List Item) : Prop where
  file : ∀ path, r.file = some path ↔ .file path ∈ asked
  output : ∀ path, r.output = some path ↔ .value .output path ∈ asked
  grammar : Settled asked .edgeGrammar env.edgeGrammar EdgeGrammar.ofName .full r.options.grammar
  direction : Settled asked .direction env.direction Direction.ofName .leftRight r.options.direction
  strict : r.options.strict = true ↔ .strict ∈ asked
  verbosity : r.verbosity = asked.count .verbose

theorem resolve_eq_error {ε α : Type} {given : Option α} {setting : Option String}
    {read : String → Except ε α} {default : α}
    (h : resolve given setting read default = .error refusal) : refusal = .usage := by
  unfold resolve at h
  split at h
  · cases h
  · cases h
  · next text =>
    cases hread : read text with
    | error e => rw [hread] at h; cases h; rfl
    | ok a => rw [hread] at h; cases h

theorem settled_of_resolve {ε α : Type} {asked : List Item} {option : Valued} {given : Option α}
    {setting : Option String} {read : String → Except ε α} {default a : α}
    (hgiven : Given.Collects asked (.value option) read given)
    (h : resolve given setting read default = .ok a) :
    Settled asked option setting read default a := by
  unfold resolve at h
  split at h
  · next given =>
    cases h
    obtain ⟨⟨name, hname⟩, hread⟩ := hgiven
    exact .inl ⟨name, hname, hread name hname⟩
  · cases h
    exact .inr ⟨hgiven, rfl⟩
  · next text =>
    refine .inr ⟨hgiven, ?_⟩
    show read text = .ok a
    cases hread : read text with
    | error e => rw [hread] at h; cases h
    | ok a' => rw [hread] at h; cases h; rfl

/-- A request copies what was given and settles what was not; only a name from the environment can
still be refused. -/
theorem ofGiven_cases (env : Environment) (given : Given) :
    Request.ofGiven env given = .error .usage ∨
    ∃ grammar direction,
      resolve given.grammar env.edgeGrammar EdgeGrammar.ofName .full = .ok grammar ∧
      resolve given.direction env.direction Direction.ofName .leftRight = .ok direction ∧
      Request.ofGiven env given =
        .ok ⟨given.file, given.output, ⟨grammar, direction, given.strict⟩, given.verbosity⟩ := by
  unfold Request.ofGiven
  cases hgrammar : resolve given.grammar env.edgeGrammar EdgeGrammar.ofName .full with
  | error refusal => rw [resolve_eq_error hgrammar]; exact .inl rfl
  | ok grammar =>
    cases hdirection : resolve given.direction env.direction Direction.ofName .leftRight with
    | error refusal => rw [resolve_eq_error hdirection]; exact .inl rfl
    | ok direction => exact .inr ⟨grammar, direction, rfl, rfl, rfl⟩

theorem tells_ofArguments (h : Request.ofArguments env args = .ok r) :
    r.Tells env (items none args) := by
  unfold Request.ofArguments at h
  cases hgiven : Given.ofArguments args with
  | error refusal => rw [hgiven] at h; cases h
  | ok given =>
    rw [hgiven] at h
    have htells := Given.tells_ofArguments hgiven
    rcases ofGiven_cases env given with hrefused | ⟨grammar, direction, hgrammar, hdirection, hr⟩
    · cases hrefused.symm.trans h
    · cases hr.symm.trans h
      exact
        { file := fun path => htells.file.eq_some_iff
          output := fun path => htells.output.eq_some_iff
          grammar := settled_of_resolve htells.grammar hgrammar
          direction := settled_of_resolve htells.direction hdirection
          strict := htells.strict
          verbosity := htells.verbosity }

theorem help_mem_of_ofArguments (h : Request.ofArguments env args = .error .help) :
    .help ∈ items none args := by
  unfold Request.ofArguments at h
  cases hgiven : Given.ofArguments args with
  | error refusal =>
    rw [hgiven] at h
    cases h
    exact Given.help_mem_of_foldlM hgiven
  | ok given =>
    rw [hgiven] at h
    rcases ofGiven_cases env given with hrefused | ⟨grammar, direction, -, -, hr⟩
    · cases hrefused.symm.trans h
    · cases hr.symm.trans h

/-! ## Louder requests -/

/-- The same request with `n` further requests for output. -/
def louder (n : Nat) (r : Request) : Request := { r with verbosity := r.verbosity + n }

theorem ofGiven_louder (env : Environment) (n : Nat) (given : Given) :
    Request.ofGiven env (given.louder n) = (Request.ofGiven env given).map (louder n) := by
  unfold Request.ofGiven
  cases hgrammar : resolve given.grammar env.edgeGrammar EdgeGrammar.ofName .full with
  | error refusal => simp only [Given.louder, hgrammar]; rfl
  | ok grammar =>
    cases hdirection : resolve given.direction env.direction Direction.ofName .leftRight with
    | error refusal => simp only [Given.louder, hgrammar, hdirection]; rfl
    | ok direction => simp only [Given.louder, hgrammar, hdirection]; rfl

theorem ofArguments_louder (env : Environment) (n : Nat) (args : List String) :
    Request.ofArguments env (List.replicate n "-v" ++ args) =
      (Request.ofArguments env args).map (louder n) := by
  unfold Request.ofArguments
  rw [Given.ofArguments_louder]
  cases Given.ofArguments args with
  | error refusal => rfl
  | ok given => exact ofGiven_louder env n given

end Request
end ChenDiagram.Command
