import ChenDiagram.Proofs.Command.Run
import ChenDiagram.Proofs.Log.Account

/-! Requests for more output change the log and nothing else. All runs of one command line take the
same course and have the same things to tell; a verbosity selects among them by level, and warnings
are never left out. -/

namespace ChenDiagram
namespace Log

/-! ## Levels -/

/-- The levels that are shown after so many requests for more output. -/
def shown : Nat → List Level
  | 0 => [.warn]
  | 1 => [.warn, .info]
  | 2 => [.warn, .info, .debug]
  | _ => [.warn, .info, .debug, .trace]

theorem severity_ofVerbosity_le_iff (verbosity : Nat) (level : Level) :
    (Level.ofVerbosity verbosity).severity ≤ level.severity ↔ level ∈ shown verbosity := by
  match verbosity with
  | 0 => cases level <;> decide
  | 1 => cases level <;> decide
  | 2 => cases level <;> decide
  | _ + 3 => cases level <;> simp [Level.ofVerbosity, Level.severity, shown]

theorem mem_shown_of_le {verbosity : Nat} (h : 3 ≤ verbosity) (level : Level) :
    level ∈ shown verbosity := by
  match verbosity with
  | _ + 3 => cases level <;> simp [shown]

theorem warn_mem_shown (verbosity : Nat) : .warn ∈ shown verbosity := by
  match verbosity with
  | 0 | 1 | 2 | _ + 3 => exact List.mem_cons_self

theorem filter_ofVerbosity (verbosity : Nat) (events : List Event) :
    filter (.ofVerbosity verbosity) events = events.filter fun e => e.level ∈ shown verbosity := by
  refine List.filter_congr fun e _ => ?_
  exact decide_eq_decide.mpr (severity_ofVerbosity_le_iff verbosity e.level)

theorem filter_ofVerbosity_of_le {verbosity : Nat} (h : 3 ≤ verbosity) (events : List Event) :
    filter (.ofVerbosity verbosity) events = events := by
  rw [filter_ofVerbosity, List.filter_eq_self]
  exact fun e _ => decide_eq_true (mem_shown_of_le h e.level)

/-! ## Warnings -/

def warnings (events : List Event) : List Event := events.filter fun e => e.level = .warn

theorem warnings_filter_ofVerbosity (verbosity : Nat) (events : List Event) :
    warnings (filter (.ofVerbosity verbosity) events) = warnings events := by
  rw [filter_ofVerbosity, warnings, List.filter_filter]
  refine List.filter_congr fun e _ => ?_
  by_cases hwarn : e.level = .warn
  · simp [hwarn, warn_mem_shown]
  · simp [hwarn]

/-- Reading a text gives no warnings. -/
theorem warnings_ofText (g : Source.EdgeGrammar) (text : String) :
    warnings (ofText g text) = [] := by
  refine List.filter_eq_nil_iff.mpr fun e he => ?_
  rw [ofText_eq, List.mem_append, List.mem_singleton] at he
  rcases he with he | rfl
  · rw [level_of_mem he]
    split <;> decide
  · exact Bool.false_ne_true

end Log

namespace Command
open Log (Event warnings shown)

/-! ## Outcomes -/

namespace Outcome
variable {σ : Type} {o : Outcome σ} {v w : Nat}

theorem events_cut_of_le (h : 3 ≤ w) : (o.cut w).events = o.events :=
  Log.filter_ofVerbosity_of_le h o.events

theorem events_cut (h : 3 ≤ w) :
    (o.cut v).events = (o.cut w).events.filter fun e => e.level ∈ shown v := by
  rw [events_cut_of_le h, ← Log.filter_ofVerbosity]
  rfl

theorem warnings_cut : warnings (o.cut v).events = warnings o.events :=
  Log.warnings_filter_ofVerbosity v o.events

/-- The line after the events. -/
def last (o : Outcome σ) : String :=
  (o.failure.map fun e => "ERROR: " ++ e.message ++ "\n").getD ""

end Outcome

variable {σ : Type} [FileSystem σ]

namespace Request
variable {r : Request} {s : Surroundings σ} {o : Outcome σ} {text : String} {c : Compiled}

theorem warnings_told (r : Request) (text : String) (c : Compiled) :
    warnings (r.told text c) = c.ignored.map fun i => .ignored i.line i.text := by
  have hignored : warnings (c.ignored.map fun i => .ignored i.line i.text) =
      c.ignored.map fun i => .ignored i.line i.text := by
    refine List.filter_eq_self.mpr fun e he => ?_
    obtain ⟨i, -, rfl⟩ := List.mem_map.mp he
    rfl
  have hread := Log.warnings_ofText r.options.grammar text
  unfold warnings at hignored hread ⊢
  rw [told, List.filter_append, List.filter_append, hread, hignored]
  exact List.append_nil _

theorem Course.last (h : r.Course s o) :
    if o.exitCode = 1 then ∃ e : Error, o.last = "ERROR: " ++ e.message ++ "\n"
    else o.last = "" := by
  cases h with
  | unreadable _ | refused _ _ | undelivered _ _ _ => exact ⟨_, rfl⟩
  | delivered _ _ _ => rfl

theorem Course.events_of_compiles (h : r.Course s o) (hreads : r.Reads s text)
    (hcompile : compileWith r.options text = .ok c) : o.events = r.told text c := by
  cases h with
  | unreadable hinput => exact absurd hinput (hreads.decode_input_ne _)
  | refused hreads' hrefused =>
    rw [hreads'.unique hreads, hcompile] at hrefused
    cases hrefused
  | undelivered hreads' hcompile' _ | delivered hreads' hcompile' _ =>
    obtain rfl := hreads'.unique hreads
    obtain rfl := Except.ok.inj (hcompile'.symm.trans hcompile)
    rfl

theorem Course.events_of_refused {e : Error} (h : r.Course s o) (hreads : r.Reads s text)
    (hrefused : compileWith r.options text = .error e) :
    o.events = Log.ofText r.options.grammar text := by
  cases h with
  | unreadable hinput => exact absurd hinput (hreads.decode_input_ne _)
  | refused hreads' _ => rw [hreads'.unique hreads]
  | undelivered hreads' hcompile _ | delivered hreads' hcompile _ =>
    rw [hreads'.unique hreads, hrefused] at hcompile
    cases hcompile

theorem Course.events_of_unread (h : r.Course s o) (hunread : ¬ ∃ text, r.Reads s text) :
    o.events = [] := by
  cases h with
  | unreadable _ => rfl
  | refused hreads _ | undelivered hreads _ _ | delivered hreads _ _ =>
    exact absurd ⟨_, hreads⟩ hunread

end Request

/-- Further requests for output cut the same outcome at another level. -/
theorem run_louder {s : Surroundings σ} {args : List String} {r : Request}
    (h : Request.ofArguments s.environment args = .ok r) (n : Nat) :
    run s (List.replicate n "-v" ++ args) = (r.whole s).cut (r.verbosity + n) := by
  have hlouder : Request.ofArguments s.environment (List.replicate n "-v" ++ args) =
      .ok (r.louder n) := by
    rw [Request.ofArguments_louder, h]
    rfl
  rw [run_eq_of_ofArguments hlouder, Request.whole_louder]
  rfl

/-- However often more output is asked for, the same is done; what is logged is selected by level
from what is logged at most, the line of a failure comes last, and the warnings are the lines that
compilation ignored. What is logged at most is all that there is to tell: nothing of an input that
cannot be read, how the lines were read of a text that is refused, and of any other text the
ignored lines and the size of the document besides. -/
theorem verbosity_changes_log_only (s : Surroundings σ) (args : List String) (r : Request)
    (h : Request.ofArguments s.environment args = .ok r) :
    let louder n := run s (List.replicate n "-v" ++ args)
    let verbosity n := (items none args).count .verbose + n
    (∀ n, (louder n).exitCode = (run s args).exitCode ∧ (louder n).stdout = (run s args).stdout ∧
      (louder n).files = (run s args).files) ∧
    (∀ n m, 3 ≤ verbosity m →
      (louder n).events = (louder m).events.filter fun e => e.level ∈ shown (verbosity n)) ∧
    (∃ last, (∀ n, (louder n).stderr =
        String.join ((louder n).events.map fun e => e.text ++ "\n") ++ last) ∧
      if (run s args).exitCode = 1 then ∃ e : Error, last = "ERROR: " ++ e.message ++ "\n"
      else last = "") ∧
    (∀ n,
      (∀ text c, r.Reads s text → compileWith r.options text = .ok c →
        warnings (louder n).events = c.ignored.map fun i => .ignored i.line i.text) ∧
      ((¬ ∃ text, r.Reads s text) ∨
          (∃ text e, r.Reads s text ∧ compileWith r.options text = .error e) →
        warnings (louder n).events = [])) ∧
    ∀ m, 3 ≤ verbosity m →
      (∀ text c, r.Reads s text → compileWith r.options text = .ok c →
        (louder m).events = r.told text c) ∧
      (∀ text e, r.Reads s text → compileWith r.options text = .error e →
        (louder m).events = Log.ofText r.options.grammar text) ∧
      ((¬ ∃ text, r.Reads s text) → (louder m).events = []) := by
  have hcourse := r.course_whole s
  have hrun := run_eq_of_ofArguments h
  have hverbosity := (Request.tells_ofArguments h).verbosity
  simp only [run_louder h, hrun, ← hverbosity]
  refine ⟨fun n => ⟨rfl, rfl, rfl⟩, fun n m hm => Outcome.events_cut hm,
    ⟨(r.whole s).last, fun n => rfl, hcourse.last⟩,
    fun n => ⟨fun text c hreads hcompile => ?_, fun hnone => ?_⟩, fun m hm => ?_⟩
  · rw [Outcome.warnings_cut, hcourse.events_of_compiles hreads hcompile]
    exact Request.warnings_told ..
  · rw [Outcome.warnings_cut]
    rcases hnone with hunread | ⟨text, e, hreads, hrefused⟩
    · rw [hcourse.events_of_unread hunread]
      rfl
    · rw [hcourse.events_of_refused hreads hrefused]
      exact Log.warnings_ofText _ _
  · rw [Outcome.events_cut_of_le hm]
    exact ⟨fun _ _ => hcourse.events_of_compiles, fun _ _ => hcourse.events_of_refused,
      hcourse.events_of_unread⟩

theorem verbosity_changes_log_only_stray_line :
    let s : Surroundings FileTree := { stdin := .ok "entity A\noops".toUTF8, files := {} }
    Request.ofArguments {} ["-v"] = .ok ⟨none, none, {}, 1⟩ ∧
      (run s ["-v", "-v", "-v"]).stdout = (run s ["-v"]).stdout ∧
      (run s ["-v"]).events =
        (run s ["-v", "-v", "-v"]).events.filter (fun e => e.level ∈ [.warn, .info]) ∧
      warnings (run s ["-v"]).events = [.ignored 2 "oops"] := by
  intro s
  have hr : Request.ofArguments {} ["-v"] = .ok ⟨none, none, {}, 1⟩ := rfl
  obtain ⟨hsame, hevents, -, hwarnings, -⟩ := verbosity_changes_log_only s ["-v"] _ hr
  refine ⟨hr, (hsame 2).2.1, hevents 0 2 (by decide), ?_⟩
  exact (hwarnings 0).1 "entity A\noops" _ rfl rfl

end Command
end ChenDiagram
