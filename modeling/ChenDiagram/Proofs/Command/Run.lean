import ChenDiagram.Command.Run
import ChenDiagram.Proofs.Command.Arguments
import ChenDiagram.Proofs.Command.FileSystem
import ChenDiagram.Proofs.Strictness

/-! The courses that a run can take, and what each leaves behind. There are four: the input cannot
be read, the text is refused, the document cannot be written, or all goes well (`Request.Course`).
No more than one write is made, and only after the text has compiled; so if that write is done in
full or not at all, the same holds of the run. -/

namespace ChenDiagram.Command
open Text Source
open Log (Event)
variable {σ : Type}

/-! ## Input and output -/

theorem decode_eq_ok_iff {bytes : ByteArray} {text : String} :
    decode bytes = .ok text ↔ bytes = text.toUTF8 := by
  unfold decode String.fromUTF8?
  split
  · next found hfound =>
    obtain ⟨hvalid, hfound⟩ := Option.dite_none_right_eq_some.mp hfound
    rw [Option.some.injEq] at hfound
    subst hfound
    rw [Except.ok.injEq, ← String.toByteArray_inj]
    rfl
  · next hnone =>
    refine ⟨nofun, fun h => ?_⟩
    subst h
    rw [String.toUTF8_eq_toByteArray, dif_pos text.isValidUTF8] at hnone
    cases hnone

/-- The stream has room for these bytes. -/
def Sink.Takes (sink : Sink) (bytes : ByteArray) : Prop :=
  ∀ room fault, sink = .failing room fault → bytes.size ≤ room

theorem Sink.write_of_takes {sink : Sink} {bytes : ByteArray} (h : sink.Takes bytes) :
    sink.write .empty bytes = (.ok (), bytes) := by
  unfold write
  rw [ByteArray.empty_append]
  split
  · rfl
  · next room fault => rw [if_pos (h room fault rfl)]

theorem Sink.write_of_lt {sink : Sink} {bytes : ByteArray} {room : Nat} {fault : Fault}
    (h : sink = .failing room fault) (hroom : room < bytes.size) :
    sink.write .empty bytes = (.error fault, bytes.extract 0 room) := by
  subst h
  simp only [write, ByteArray.empty_append]
  rw [if_neg (Nat.not_le.mpr hroom)]

/-- What the one write of a run comes to: whether it is done, what then stands on standard output,
and the files as they then are. -/
structure Delivery (σ : Type) where
  result : Except Fault Unit
  stdout : ByteArray
  files : σ

/-- An outcome as it is told after so many requests for more output. -/
def Outcome.cut (o : Outcome σ) (verbosity : Nat) : Outcome σ :=
  { o with events := Log.filter (.ofVerbosity verbosity) o.events }

variable [FileSystem σ]

namespace Request
variable {r : Request} {s : Surroundings σ} {o : Outcome σ} {text text' : String}

/-- The bytes that the request asks to read, as they are before the run. -/
def input (r : Request) (s : Surroundings σ) : Except Fault ByteArray :=
  match r.file with
  | some path => FileSystem.read s.files path
  | none => s.stdin

/-- The input can be read and is the encoding of this text. -/
def Reads (r : Request) (s : Surroundings σ) (text : String) : Prop :=
  r.input s = .ok text.toUTF8

theorem Reads.unique (h : r.Reads s text) (h' : r.Reads s text') : text = text' :=
  String.toByteArray_inj.mp (Except.ok.inj (h.symm.trans h'))

theorem Reads.holds {path : String} (h : r.Reads s text) (hfile : r.file = some path) :
    FileSystem.Holds s.files path text.toUTF8 := by
  unfold Reads input at h
  rw [hfile] at h
  exact FileSystem.holds_of_read h

theorem decode_input_eq_ok_iff : (r.input s).bind decode = .ok text ↔ r.Reads s text := by
  unfold Reads
  cases r.input s with
  | error fault => exact ⟨nofun, nofun⟩
  | ok bytes => rw [Except.ok.injEq]; exact decode_eq_ok_iff

theorem Reads.decode_input_ne (h : r.Reads s text) (fault : Fault) :
    (r.input s).bind decode ≠ .error fault := by
  rw [decode_input_eq_ok_iff.mpr h]
  exact nofun

def delivery (r : Request) (s : Surroundings σ) (dot : String) : Delivery σ :=
  match r.output with
  | some path =>
    let written := FileSystem.write s.files path dot.toUTF8
    ⟨written.1, .empty, written.2⟩
  | none =>
    let written := s.stdout.write .empty dot.toUTF8
    ⟨written.1, written.2, s.files⟩

/-! ## Courses -/

/-- What is told of a text that compiles. -/
def told (r : Request) (text : String) (c : Compiled) : List Event :=
  Log.ofText r.options.grammar text ++ c.ignored.map (fun i => .ignored i.line i.text) ++
    [.compiled c.dot.utf8ByteSize]

/-- The courses of a run, each with what it leaves behind and all that there is to tell of it. -/
inductive Course (r : Request) (s : Surroundings σ) : Outcome σ → Prop where
  | unreadable {fault : Fault} : (r.input s).bind decode = .error fault →
      Course r s { exitCode := 1, failure := some (r.readError fault), files := s.files }
  | refused {text : String} {e : Error} : r.Reads s text → compileWith r.options text = .error e →
      Course r s
        { exitCode := 1, events := Log.ofText r.options.grammar text, failure := some e,
          files := s.files }
  | undelivered {text : String} {c : Compiled} {fault : Fault} : r.Reads s text →
      compileWith r.options text = .ok c → (r.delivery s c.dot).result = .error fault →
      Course r s
        { exitCode := 1, stdout := (r.delivery s c.dot).stdout, events := r.told text c,
          failure := some (r.writeError fault), files := (r.delivery s c.dot).files }
  | delivered {text : String} {c : Compiled} : r.Reads s text →
      compileWith r.options text = .ok c → (r.delivery s c.dot).result = .ok () →
      Course r s
        { exitCode := 0, stdout := (r.delivery s c.dot).stdout, events := r.told text c,
          files := (r.delivery s c.dot).files }

/-- What a run comes to that logs these events and then has this document or failure. -/
def conclude (r : Request) (s : Surroundings σ) (events : List Event) :
    Except Error String → Outcome σ
  | .error e => { exitCode := 1, events, failure := some e, files := s.files }
  | .ok dot =>
    let last := r.delivery s dot
    match last.result with
    | .error fault =>
      { exitCode := 1, stdout := last.stdout, events, failure := some (r.writeError fault),
        files := last.files }
    | .ok () => { exitCode := 0, stdout := last.stdout, events, files := last.files }

/-- The outcome of a run with nothing left out of its log. -/
def whole (r : Request) (s : Surroundings σ) : Outcome σ :=
  r.conclude s (r.work (r.input s)).events (r.work (r.input s)).result

theorem cut_conclude (r : Request) (s : Surroundings σ) (events : List Event)
    (result : Except Error String) (verbosity : Nat) :
    (r.conclude s events result).cut verbosity =
      r.conclude s (Log.filter (.ofVerbosity verbosity) events) result := by
  cases result with
  | error e => rfl
  | ok dot =>
    simp only [conclude]
    split
    · rfl
    · rfl

theorem run_fetch (r : Request) (s : Surroundings σ) :
    (r.fetch s.host).run { files := s.files } = (r.input s, { files := s.files }) := by
  unfold fetch input
  cases r.file with
  | some path => rfl
  | none => rfl

theorem run_deliver (r : Request) (s : Surroundings σ) (events : List Event) (dot : String) :
    (r.deliver s.host dot).run { events, files := s.files } =
      ((r.delivery s dot).result,
        { stdout := (r.delivery s dot).stdout, events, files := (r.delivery s dot).files }) := by
  unfold deliver delivery
  cases r.output with
  | some path => rfl
  | none => rfl

theorem run_finish (r : Request) (s : Surroundings σ) (events : List Event)
    (result : Except Error String) :
    (r.finish s.host result).run { events, files := s.files } =
      ((r.conclude s events result).exitCode, (r.conclude s events result).toProgress) := by
  cases result with
  | error e => rfl
  | ok dot =>
    have hdeliver := run_deliver r s events dot
    simp only [finish, conclude, StateT.run_bind, hdeliver]
    split
    · next hresult => rw [hresult]; rfl
    · next hresult => rw [hresult]; rfl

theorem outcome_perform (r : Request) (s : Surroundings σ) :
    s.outcome (r.perform s.host) = (r.whole s).cut r.verbosity := by
  have hrun : (r.perform s.host).run { files := s.files } =
      (r.finish s.host (r.work (r.input s)).result).run
        { events := Log.filter (.ofVerbosity r.verbosity) (r.work (r.input s)).events,
          files := s.files } := by
    unfold perform
    rw [StateT.run_bind, run_fetch]
    rfl
  unfold Surroundings.outcome
  rw [hrun, run_finish, whole, cut_conclude]

theorem whole_louder (r : Request) (s : Surroundings σ) (n : Nat) :
    (r.louder n).whole s = r.whole s := rfl

theorem course_conclude {c : Compiled} (hreads : r.Reads s text)
    (hcompile : compileWith r.options text = .ok c) :
    r.Course s (r.conclude s (r.told text c) (.ok c.dot)) := by
  simp only [conclude]
  split
  · next hresult => exact .undelivered hreads hcompile hresult
  · next hresult => exact .delivered hreads hcompile hresult

theorem course_whole (r : Request) (s : Surroundings σ) : r.Course s (r.whole s) := by
  unfold whole
  cases hinput : (r.input s).bind decode with
  | error fault =>
    have hwork : r.work (r.input s) = ⟨[], .error (r.readError fault)⟩ := by
      simp only [work, hinput]
    rw [hwork]
    exact .unreadable hinput
  | ok text =>
    have hreads := decode_input_eq_ok_iff.mp hinput
    cases hcompile : compileWith r.options text with
    | error e =>
      have hwork : r.work (r.input s) = ⟨Log.ofText r.options.grammar text, .error e⟩ := by
        simp only [work, hinput, hcompile]
      rw [hwork]
      exact .refused hreads hcompile
    | ok c =>
      have hwork : r.work (r.input s) = ⟨r.told text c, .ok c.dot⟩ := by
        simp only [work, hinput, hcompile, told]
      rw [hwork]
      exact course_conclude hreads hcompile

end Request

/-! ## All or nothing -/

/-- A run that did nothing but fail. -/
structure Outcome.Failed (o : Outcome σ) (s : Surroundings σ) : Prop where
  exitCode : o.exitCode = 1
  stdout : o.stdout = .empty
  files : o.files = s.files

/-- The document went where the request wants it, in full and nowhere else, or it could not go
there and no file has changed. Only a stream that fails may hold a part of it. -/
structure Outcome.Delivers (o : Outcome σ) (r : Request) (s : Surroundings σ) (dot : String) :
    Prop where
  toFile : ∀ path, r.output = some path → (FileSystem.write s.files path dot.toUTF8).1 = .ok () →
    o.exitCode = 0 ∧ o.stdout = .empty ∧ FileSystem.Replaced s.files o.files path dot.toUTF8
  notToFile : ∀ path fault, r.output = some path →
    (FileSystem.write s.files path dot.toUTF8).1 = .error fault → o.Failed s
  toStdout : r.output = none → s.stdout.Takes dot.toUTF8 →
    o.exitCode = 0 ∧ o.stdout = dot.toUTF8 ∧ o.files = s.files
  notToStdout : ∀ room fault, r.output = none → s.stdout = .failing room fault →
    room < dot.toUTF8.size →
    o.exitCode = 1 ∧ o.stdout = dot.toUTF8.extract 0 room ∧ o.files = s.files

/-- Everything is done or nothing: no input or a line that strictness refuses means a failed run,
and any other input is compiled as it was before the run. -/
structure Outcome.AllOrNothing (o : Outcome σ) (r : Request) (s : Surroundings σ) : Prop where
  unreadable : (¬ ∃ text, r.Reads s text) → o.Failed s
  refused : ∀ text, r.Reads s text → r.options.strict = true →
    (∃ n raw, LineAt text n raw ∧ Stray r.options.grammar (trim raw)) → o.Failed s
  delivered : ∀ text, r.Reads s text →
    (r.options.strict = true → ¬ ∃ n raw, LineAt text n raw ∧ Stray r.options.grammar (trim raw)) →
    (∀ path, r.file = some path → FileSystem.Holds s.files path text.toUTF8) ∧
      ∃ c, compileWith r.options text = .ok c ∧ o.Delivers r s c.dot

namespace Request
variable {r : Request} {s : Surroundings σ} {o : Outcome σ} {text dot : String}

theorem delivery_toFile {path : String} (houtput : r.output = some path) : r.delivery s dot =
    ⟨(FileSystem.write s.files path dot.toUTF8).1, .empty,
      (FileSystem.write s.files path dot.toUTF8).2⟩ := by
  rw [delivery, houtput]

theorem delivery_toStdout (houtput : r.output = none) : r.delivery s dot =
    ⟨(s.stdout.write .empty dot.toUTF8).1, (s.stdout.write .empty dot.toUTF8).2, s.files⟩ := by
  rw [delivery, houtput]

/-- What is left behind by the one write of a run, if that is done in full or not at all. -/
theorem delivers_of_delivery
    (hwhole : ∀ path, r.output = some path → FileSystem.ReplacesWhole s.files path)
    (hstdout : o.stdout = (r.delivery s dot).stdout) (hfiles : o.files = (r.delivery s dot).files)
    (hexit : match (r.delivery s dot).result with
      | .ok () => o.exitCode = 0
      | .error _ => o.exitCode = 1) : o.Delivers r s dot where
  toFile path houtput hwrite := by
    rw [delivery_toFile houtput] at hstdout hfiles hexit
    rw [hwrite] at hexit
    rw [hfiles]
    exact ⟨hexit, hstdout, (hwhole path houtput).done _ hwrite⟩
  notToFile path fault houtput hwrite := by
    rw [delivery_toFile houtput] at hstdout hfiles hexit
    rw [hwrite] at hexit
    exact ⟨hexit, hstdout, hfiles.trans ((hwhole path houtput).failed _ fault hwrite)⟩
  toStdout houtput htakes := by
    rw [delivery_toStdout houtput, Sink.write_of_takes htakes] at hstdout hfiles hexit
    exact ⟨hexit, hstdout, hfiles⟩
  notToStdout room fault houtput hsink hroom := by
    rw [delivery_toStdout houtput, Sink.write_of_lt hsink hroom] at hstdout hfiles hexit
    exact ⟨hexit, hstdout, hfiles⟩

/-- A text that compiles is not one to be refused. -/
theorem allOrNothing_of_compiles {c : Compiled} (hreads : r.Reads s text)
    (hcompile : compileWith r.options text = .ok c) (hdelivers : o.Delivers r s c.dot) :
    o.AllOrNothing r s where
  unreadable hunread := absurd ⟨text, hreads⟩ hunread
  refused text' hreads' hstrict hstray := by
    rw [← hreads.unique hreads', ← ignored_ne_nil_iff] at hstray
    exact absurd ((compileWith_eq_ok_iff.mp hcompile).1 hstrict) hstray
  delivered text' hreads' _ := by
    rw [← hreads.unique hreads']
    exact ⟨fun path hfile => hreads.holds hfile, c, hcompile, hdelivers⟩

/-- What is done does not depend on how much of it is told. -/
theorem Course.allOrNothing (h : r.Course s o) (verbosity : Nat)
    (hwhole : ∀ path, r.output = some path → FileSystem.ReplacesWhole s.files path) :
    (o.cut verbosity).AllOrNothing r s := by
  cases h with
  | unreadable hinput =>
    have hunread : ∀ text, ¬ r.Reads s text := fun text hreads => hreads.decode_input_ne _ hinput
    exact
      { unreadable := fun _ => ⟨rfl, rfl, rfl⟩
        refused := fun text hreads => absurd hreads (hunread text)
        delivered := fun text hreads => absurd hreads (hunread text) }
  | refused hreads hcompile =>
    obtain ⟨hstrict, first, rest, hignored, -⟩ := compileWith_eq_error_iff.mp hcompile
    have hstray := ignored_ne_nil_iff.mp (hignored ▸ List.cons_ne_nil first rest)
    exact
      { unreadable := fun hunread => absurd ⟨_, hreads⟩ hunread
        refused := fun _ _ _ _ => ⟨rfl, rfl, rfl⟩
        delivered := fun text hreads' hclean => by
          rw [← hreads.unique hreads'] at hclean
          exact absurd hstray (hclean hstrict) }
  | undelivered hreads hcompile hresult | delivered hreads hcompile hresult =>
    refine allOrNothing_of_compiles hreads hcompile (delivers_of_delivery hwhole rfl rfl ?_)
    rw [hresult]
    rfl

end Request

theorem run_eq_of_ofArguments {s : Surroundings σ} {args : List String} {r : Request}
    (h : Request.ofArguments s.environment args = .ok r) :
    run s args = (r.whole s).cut r.verbosity := by
  rw [run, command, h]
  exact r.outcome_perform s

theorem run_eq_of_refusal {s : Surroundings σ} {args : List String} {refusal : Refusal}
    (h : Request.ofArguments s.environment args = .error refusal) :
    run s args = { exitCode := refusal.exitCode, files := s.files } := by
  rw [run, command, h]
  rfl

/-- A command line that does not ask for help is refused before anything happens, or it is a request
and is carried out in full or not at all. All that is asked of the files is that a write to the
output file, if there is to be one, is itself done in full or not at all. -/
theorem run_all_or_nothing (s : Surroundings σ) (args : List String)
    (hhelp : .help ∉ items none args)
    (hwhole : ∀ path, .value .output path ∈ items none args →
      FileSystem.ReplacesWhole s.files path) :
    (∀ refusal, Request.ofArguments s.environment args = .error refusal →
      (run s args).exitCode = 2 ∧ (run s args).files = s.files) ∧
    ∀ r, Request.ofArguments s.environment args = .ok r →
      r.Tells s.environment (items none args) ∧ (run s args).AllOrNothing r s := by
  refine ⟨fun refusal hrefusal => ?_, fun r hr => ?_⟩
  · cases refusal with
    | help => exact absurd (Request.help_mem_of_ofArguments hrefusal) hhelp
    | usage => rw [run_eq_of_refusal hrefusal]; exact ⟨rfl, rfl⟩
  · have htells := Request.tells_ofArguments hr
    refine ⟨htells, ?_⟩
    rw [run_eq_of_ofArguments hr]
    exact (r.course_whole s).allOrNothing r.verbosity
      fun path houtput => hwhole path ((htells.output path).mp houtput)

/-- Input and output may be one file under two names; the text is read before it is replaced. -/
theorem run_all_or_nothing_in_place :
    let s : Surroundings FileTree :=
      { files := .ofListing ["work"] [] [("a.er", "entity A".toUTF8)] }
    let o := run s ["a.er", "-o", "/work/a.er"]
    .help ∉ items none ["a.er", "-o", "/work/a.er"] ∧
      FileSystem.ReplacesWhole s.files "/work/a.er" ∧
      FileSystem.find? s.files "a.er" = FileSystem.find? s.files "/work/a.er" ∧
      o.exitCode = 0 ∧ o.stdout = .empty ∧
      FileSystem.Replaced s.files o.files "/work/a.er" (compile "entity A").toUTF8 := by
  intro s o
  have hhelp : .help ∉ items none ["a.er", "-o", "/work/a.er"] := by decide
  have hr : Request.ofArguments {} ["a.er", "-o", "/work/a.er"] =
      .ok ⟨some "a.er", some "/work/a.er", {}, 0⟩ := rfl
  have hreads : Request.Reads ⟨some "a.er", some "/work/a.er", {}, 0⟩ s "entity A" := rfl
  have hwhole := s.files.replacesWhole
  have hall := ((run_all_or_nothing s _ hhelp fun path _ => hwhole path).2 _ hr).2
  obtain ⟨-, c, hcompile, hdelivers⟩ := hall.delivered _ hreads nofun
  obtain ⟨-, rfl⟩ := compileWith_eq_ok_iff.mp hcompile
  obtain ⟨hexit, hstdout, hreplaced⟩ := hdelivers.toFile "/work/a.er" rfl rfl
  exact ⟨hhelp, hwhole _, rfl, hexit, hstdout, hreplaced⟩

/-- A file that refuses to be written keeps what it holds. -/
example :
    let files : FileTree :=
      { FileTree.ofListing ["work"] [] [("a.er", "entity A".toUTF8), ("a.dot", "old".toUTF8)] with
        readOnly := .ofEntries [(["work", "a.dot"], .other "Permission denied (os error 13)")] }
    let o := run { files } ["a.er", "-o", "a.dot"]
    o.exitCode = 1 ∧ o.stdout = .empty ∧ o.files.read "a.dot" = .ok "old".toUTF8 :=
  ⟨rfl, rfl, rfl⟩

end ChenDiagram.Command
