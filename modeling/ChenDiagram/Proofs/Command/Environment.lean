import ChenDiagram.Proofs.Command.Run
import Mathlib.Logic.Function.Basic

/-! Options and the environment. The environment has a say only where an option is not given, and
then it is as good as the option: a value may be given before all other arguments or after them,
and what a variable says counts as one that is given after them. -/

namespace ChenDiagram.Command
open Source Dot

/-! ## Settings -/

/-- What the environment can set. -/
inductive Setting where
  | edgeGrammar
  | direction

namespace Setting

/-- The option that a setting stands in for. -/
def option : Setting → Valued
  | .edgeGrammar => .edgeGrammar
  | .direction => .direction

/-- The variable that holds it. -/
def name : Setting → String
  | .edgeGrammar => "ERDOT_EDGE_GRAMMAR"
  | .direction => "ERDOT_DIRECTION"

/-- Single arguments that give the option a value. -/
def spellings (text : String) : Setting → List String
  | .edgeGrammar => ["--edge-grammar=" ++ text]
  | .direction => ["--direction=" ++ text, "-d=" ++ text]

/-- The option has not been given. -/
def Free : Setting → Given → Prop
  | .edgeGrammar, given => given.grammar = none
  | .direction, given => given.direction = none

end Setting

namespace Environment

/-- The environment that these variables make. -/
def ofVariables (vars : String → Option String) : Environment :=
  Id.run (lookup (m := Id) vars)

def set (env : Environment) (text : Option String) : Setting → Environment
  | .edgeGrammar => { env with edgeGrammar := text }
  | .direction => { env with direction := text }

theorem ofVariables_eq (vars : String → Option String) : ofVariables vars =
    ⟨vars Setting.edgeGrammar.name, vars Setting.direction.name⟩ := rfl

theorem ofVariables_update (vars : String → Option String) (k : Setting)
    (text : Option String) :
    ofVariables (Function.update vars k.name text) = (ofVariables vars).set text k := by
  cases k <;> simp [ofVariables_eq, set, Setting.name]

end Environment

/-! ## Items -/

theorem ofArgument_spelling {k : Setting} {text arg : String} (h : arg ∈ k.spellings text) :
    ofArgument arg = ([.value k.option text], none) := by
  cases k with
  | edgeGrammar =>
    obtain rfl := List.mem_singleton.mp h
    simp [ofArgument, ofLong, Setting.option]
  | direction =>
    simp only [Setting.spellings, List.mem_cons, List.not_mem_nil, or_false] at h
    rcases h with rfl | rfl
    · simp [ofArgument, ofLong, Setting.option]
    · simp [ofArgument, ofCluster, attached, Setting.option]

theorem items_spelling {k : Setting} {text arg : String} (h : arg ∈ k.spellings text)
    (args : List String) : items none (arg :: args) = .value k.option text :: items none args := by
  have hdashes : arg ≠ "--" := by
    rintro rfl
    cases (ofArgument_spelling h)
  simp [items, hdashes, ofArgument_spelling h]

namespace Given
variable {given : Given} {item : Item} {its : List Item} {k : Setting}

/-- An option with a value can be given before or after an argument of another kind. If both are
refused it does not matter which is refused first. -/
theorem take_comm (given : Given) (text : String) (hhelp : item ≠ .help)
    (hother : ∀ text, item ≠ .value k.option text) :
    (given.take item >>= fun next => next.take (.value k.option text)) =
      given.take (.value k.option text) >>= fun next => next.take item := by
  match item with
  | .help => exact absurd rfl hhelp
  | .verbose =>
    refine (take_louder 1 given _).trans ?_
    cases given.take (.value k.option text) <;> rfl
  | .value .edgeGrammar name =>
    cases k with
    | edgeGrammar => exact absurd rfl (hother name)
    | direction => simp only [take, Setting.option, bind, Except.bind]; grind
  | .value .direction name =>
    cases k with
    | edgeGrammar => simp only [take, Setting.option, bind, Except.bind]; grind
    | direction => exact absurd rfl (hother name)
  | .file _ | .value .output _ | .strict | .invalid =>
    cases k <;> simp only [take, Setting.option, bind, Except.bind] <;> grind

theorem foldlM_comm (text : String) (hhelp : .help ∉ its)
    (hother : ∀ text, .value k.option text ∉ its) :
    (its.foldlM take given >>= fun last => last.take (.value k.option text)) =
      given.take (.value k.option text) >>= fun next => its.foldlM take next := by
  induction its generalizing given with
  | nil => simp only [List.foldlM_nil, pure_bind, bind_pure]
  | cons item its ih =>
    simp only [List.mem_cons, not_or] at hhelp hother
    have hstep := take_comm given text (Ne.symm hhelp.1) fun t => Ne.symm (hother t).1
    simp only [List.foldlM_cons, bind_assoc, ih hhelp.2 fun t => (hother t).2]
    rw [← bind_assoc, hstep, bind_assoc]

theorem Tells.free_iff (h : given.Tells its) :
    k.Free given ↔ ∀ text, .value k.option text ∉ its := by
  cases k with
  | edgeGrammar => exact h.grammar.eq_none_iff
  | direction => exact h.direction.eq_none_iff

end Given

namespace Request
variable {env : Environment} {given : Given} {k : Setting}

theorem resolve_text {ε α : Type} (text : String) (read : String → Except ε α) (default : α) :
    resolve none (some text) read default = (read text).mapError fun _ => .usage := rfl

/-- An option that is given settles the matter. -/
theorem ofGiven_of_not_free (h : ¬ k.Free given) (a b : Option String) :
    Request.ofGiven (env.set a k) given = Request.ofGiven (env.set b k) given := by
  cases k with
  | edgeGrammar =>
    obtain ⟨g, hg⟩ := Option.ne_none_iff_exists'.mp h
    simp only [Request.ofGiven, Environment.set, hg, resolve]
  | direction =>
    obtain ⟨d, hd⟩ := Option.ne_none_iff_exists'.mp h
    simp only [Request.ofGiven, Environment.set, hd, resolve]

/-- A variable counts as an option that is given after all arguments. -/
theorem ofGiven_of_free (h : k.Free given) (text : String) :
    Request.ofGiven (env.set (some text) k) given =
      given.take (.value k.option text) >>= Request.ofGiven (env.set none k) := by
  cases k with
  | edgeGrammar =>
    have hfree : given.grammar = none := h
    simp only [Request.ofGiven, Environment.set, Given.take, Setting.option, hfree, resolve_text]
    cases EdgeGrammar.ofName text <;> rfl
  | direction =>
    have hfree : given.direction = none := h
    simp only [Request.ofGiven, Environment.set, Given.take, Setting.option, hfree, resolve_text]
    cases Direction.ofName text with
    | ok d => rfl
    | error e =>
      -- The grammar is settled before the direction, and a bad one is refused in the same way.
      cases hgrammar : resolve given.grammar env.edgeGrammar EdgeGrammar.ofName .full with
      | ok g => rfl
      | error refusal => rw [resolve_eq_error hgrammar]; rfl

/-! ## Command lines -/

variable {args : List String}

theorem ofArguments_of_given (h : ∃ text, .value k.option text ∈ items none args)
    (a b : Option String) :
    Request.ofArguments (env.set a k) args = Request.ofArguments (env.set b k) args := by
  unfold Request.ofArguments
  cases hgiven : Given.ofArguments args with
  | error refusal => rfl
  | ok given =>
    obtain ⟨text, htext⟩ := h
    refine ofGiven_of_not_free (fun hfree => ?_) a b
    exact (Given.tells_ofArguments hgiven).free_iff.mp hfree text htext

theorem ofArguments_of_invalid (h : .invalid ∈ items none args) (env env' : Environment) :
    Request.ofArguments env args = Request.ofArguments env' args := by
  unfold Request.ofArguments
  cases hgiven : Given.ofArguments args with
  | error refusal => rfl
  | ok given => exact absurd h (Given.invalid_notMem_of_foldlM hgiven)

theorem ofArguments_spelling {text arg : String} (harg : arg ∈ k.spellings text)
    (hhelp : .help ∉ items none args) (hother : ∀ text, .value k.option text ∉ items none args) :
    Request.ofArguments (env.set (some text) k) args =
      Request.ofArguments (env.set none k) (arg :: args) := by
  unfold Request.ofArguments Given.ofArguments
  rw [items_spelling harg, List.foldlM_cons, ← Given.foldlM_comm text hhelp hother, bind_assoc]
  cases hgiven : (items none args).foldlM Given.take {} with
  | error refusal => rfl
  | ok given => exact ofGiven_of_free ((Given.tells_ofArguments hgiven).free_iff.mpr hother) text

end Request

/-! ## Runs -/

variable {σ : Type} [FileSystem σ]

/-- Variables have no other way into a run than through the request. -/
theorem run_congr {s : Surroundings σ} {env env' : Environment} {args args' : List String}
    (h : Request.ofArguments env args = Request.ofArguments env' args') :
    run { s with environment := env } args = run { s with environment := env' } args' := by
  unfold run command
  rw [h]
  rfl

/-- If an option is given, or the arguments are no command line at all, the variable does not
matter. If the option is not given, a value of the variable does what the option would do. -/
theorem option_wins_over_environment (k : Setting) (s : Surroundings σ)
    (vars : String → Option String) (args : List String) (hhelp : .help ∉ items none args) :
    let outcome (value : Option String) (args : List String) : Outcome σ :=
      run { s with environment := .ofVariables (Function.update vars k.name value) } args
    ((∃ text, .value k.option text ∈ items none args) ∨ .invalid ∈ items none args →
      ∀ a b, outcome a args = outcome b args) ∧
    ((∀ text, .value k.option text ∉ items none args) →
      ∀ text, ∀ arg ∈ k.spellings text,
        outcome (some text) args = outcome none (arg :: args)) := by
  intro outcome
  have houtcome : ∀ value args, outcome value args =
      run { s with environment := (Environment.ofVariables vars).set value k } args := by
    intro value args
    simp only [outcome, Environment.ofVariables_update]
  refine ⟨fun h a b => ?_, fun hother text arg harg => ?_⟩
  · rw [houtcome, houtcome]
    rcases h with hgiven | hinvalid
    · exact run_congr (Request.ofArguments_of_given hgiven a b)
    · exact run_congr (Request.ofArguments_of_invalid hinvalid _ _)
  · rw [houtcome, houtcome]
    exact run_congr (Request.ofArguments_spelling harg hhelp hother)

/-- A bad direction is ignored next to a good one, also one inside a cluster of letters, and is
refused like the option if it stands alone. -/
theorem option_wins_over_environment_in_cluster :
    let s : Surroundings FileTree := { stdin := .ok "entity A".toUTF8, files := {} }
    let vars (_ : String) : Option String := some "simplified"
    let outcome (value : Option String) (args : List String) : Outcome FileTree :=
      run { s with
        environment := .ofVariables (Function.update vars "ERDOT_DIRECTION" value) } args
    (.help ∉ items none ["-vdTB"] ∧ .value .direction "TB" ∈ items none ["-vdTB"] ∧
      outcome (some "up") ["-vdTB"] = outcome none ["-vdTB"]) ∧
    (.help ∉ items none ["-v"] ∧ (∀ text, .value .direction text ∉ items none ["-v"]) ∧
      outcome (some "up") ["-v"] = outcome none ["-d=up", "-v"] ∧
      (outcome (some "up") ["-v"]).exitCode = 2) := by
  intro s vars outcome
  have hhelp : .help ∉ items none ["-vdTB"] := by decide
  have hgiven : .value .direction "TB" ∈ items none ["-vdTB"] := by decide
  have hhelp' : .help ∉ items none ["-v"] := by decide
  have hother : ∀ text, .value .direction text ∉ items none ["-v"] := by
    intro text h
    cases List.mem_singleton.mp h
  have hsame := (option_wins_over_environment .direction s vars _ hhelp').2 hother "up" "-d=up"
    (List.mem_cons_of_mem _ List.mem_cons_self)
  refine ⟨⟨hhelp, hgiven, ?_⟩, hhelp', hother, hsame, ?_⟩
  · exact (option_wins_over_environment .direction s vars _ hhelp).1 (.inl ⟨"TB", hgiven⟩) _ _
  · have hupper : "up".toUpper = "UP" := by decide +kernel
    have htake : Given.take {} (.value .direction "up") = .error .usage := by
      simp [Given.take, Direction.ofName, hupper]
    have hrefusal : Request.ofArguments ⟨some "simplified", none⟩ ["-d=up", "-v"] =
        .error .usage := by
      show (Given.take {} (.value .direction "up") >>= _) >>= _ = _
      rw [htake]
      rfl
    have hrun := run_eq_of_refusal
      (s := { s with environment := ⟨some "simplified", none⟩ }) hrefusal
    exact (congrArg Outcome.exitCode hsame).trans (congrArg Outcome.exitCode hrun)

end ChenDiagram.Command
