import SignalBinding.Proofs.CommandSteps
import SignalBinding.Proofs.LogFiles
import SignalBinding.Proofs.RunRecords

/-!
# The records of a command

The records that a run makes, one after the other, as far as it gets. What a command shows are those
of its records that its threshold lets through, each once, and then its message if it has one. That
is so in any workspace, however often the logger has been set up before.

## Main definitions

- `Session.behind`: the records of what follows a step
- `Session.toldByRun`, `Session.toldByCommand`: the records of a run and of a command
- `CommandLine.endText`, `Generate.ending`: what a command says at its end, and how it ends

## Main statements

- `Session.tells_run`: a run hands each of its records to the logger once
- `Session.shown_generateCommand`: what a command shows
-/

namespace SignalBinding

open CommandLine

/-- What a command says at its end, behind its records. -/
def CommandLine.endText : Except Failure (Config × Report) → String
  | .ok (_, r) => if r.ok then "" else skippedMessage r
  | .error e => (endMessage? e).getD ""

/-- How a command ends. -/
def CommandLine.Generate.ending (g : Generate) :
    Except Failure (Config × Report) → Except Failure CommandResult
  | .ok (c, r) => .ok {
      exitCode := if r.ok then 0 else 1
      output := outputText r (g.targets c).1.isSome (g.targets c).2.isSome }
  | .error e => if (endMessage? e).isSome then .ok { exitCode := 1 } else .error e

/-- The threshold of a command. Its configuration, if it has one, may ask for details, too. -/
def CommandLine.Generate.thresholdIn (g : Generate) (w : Workspace) : Level :=
  let c? := ((Session.loadConfig (g.configPath w.folder w.home)).perform w).1.toOption
  Logger.thresholdOf (g.verbose || (c?.map Config.verbose).getD false)

namespace Workspace

theorem shown_record (w : Workspace) (r : Record) :
    (w.record r).shown = w.shown ++ w.logger.shownOf [r] := by
  rw [record_eq]

theorem shown_show (w : Workspace) (text : String) : (w.show text).shown = w.shown ++ text := rfl

theorem files_show (w : Workspace) (text : String) : (w.show text).files = w.files := rfl

theorem shown_foldl_record (w : Workspace) (rs : List Record) :
    (rs.foldl record w).shown = w.shown ++ w.logger.shownOf rs := by
  induction rs generalizing w with
  | nil => simp [Logger.shownOf_nil]
  | cons r rs ih =>
    rw [List.foldl_cons, ih, shown_record, (w.onlyLogs_record r).logger, String.append_assoc,
      ← Logger.shownOf_append, List.singleton_append]

end Workspace

namespace Session

variable {α β : Type} {x : Session α} {f : α → Session β} {told : Workspace → List Record}
  {next : α → Workspace → List Record}

/-- The records that come behind a step; none if the step fails. -/
def behind (x : Session α) (next : α → Workspace → List Record) (w : Workspace) : List Record :=
  match x.perform w with
  | (.ok a, w') => next a w'
  | (.error _, _) => []

def toldByGenerate (b : Bridge) (c : Config) (ownTemplates? : Option String) (w : Workspace) :
    List Record :=
  (b.generate (some c.table) (w.templatesFor c ownTemplates?)).records

def toldByOutput (target? : Option Path) (text : String) : Workspace → List Record :=
  match target? with
  | none => fun _ => []
  | some p => behind (writeText p text) fun _ _ => [wroteRecord p]

def toldByDescribed (path : Path) (c : Config) (ownTemplates? : Option String) :
    Workspace → List Record :=
  behind (loadBridge path) fun b w =>
    bridgeRecord b :: behind (tell (bridgeRecord b)) (fun _ => toldByGenerate b c ownTemplates?) w

def toldFrom (path : Path) (q : RunRequest) (w : Workspace) : List Record :=
  startRecord path :: behind (tell (startRecord path)) (fun _ =>
    behind (configuration q path) fun c => toldByDescribed path c q.ownTemplates?) w

def toldByPrepare (q : RunRequest) (w : Workspace) : List Record :=
  toldFrom (q.path w) q w

def toldByPublish (q : RunRequest) (c : Config) (r : Report) (w : Workspace) : List Record :=
  toldByOutput (q.headerPath? c) r.header w ++
    behind (output (q.headerPath? c) r.header) (fun _ w =>
      toldByOutput (q.sourcePath? c) r.source w ++
        behind (output (q.sourcePath? c) r.source) (fun _ _ => [endRecord r]) w) w

/-- The records of a run, up to its end or to the step that fails. -/
def toldByRun (q : RunRequest) (w : Workspace) : List Record :=
  toldByPrepare q w ++ behind (prepare q) (fun (c, r) => toldByPublish q c r) w

/-- The records of a command, whose run comes behind loading the configuration and setting up the
log. -/
def toldByCommand (g : Generate) (w : Workspace) : List Record :=
  behind (loadConfig (g.configPath w.folder w.home)) (fun c =>
    behind (setUpLog (g.verbose || c.verbose) c.logFile?) fun _ =>
      toldByRun (g.requestWith w.home c)) w

/-! ### What records are told -/

/-- The step hands the records `told` to the logger, and shows nothing else. -/
structure Tells (x : Session α) (told : Workspace → List Record) : Prop where
  logger : ∀ w, (x.perform w).2.logger = w.logger
  shown : ∀ w, (x.perform w).2.shown = w.shown ++ w.logger.shownOf (told w)

theorem Tells.bind (hx : Tells x told) (hf : ∀ a, Tells (f a) (next a)) :
    Tells (x >>= f) fun w => told w ++ behind x next w := by
  constructor
  · intro w
    have hlog := hx.logger w
    rw [perform_bind]
    rcases hperform : x.perform w with ⟨e | a, w'⟩ <;> rw [hperform] at hlog
    · exact hlog
    · exact ((hf a).logger w').trans hlog
  · intro w
    have hlog := hx.logger w
    have hshown := hx.shown w
    rw [perform_bind, behind]
    rcases hperform : x.perform w with ⟨e | a, w'⟩ <;> rw [hperform] at hlog hshown
    · simpa using hshown
    · dsimp only at hlog hshown ⊢
      rw [(hf a).shown w', hlog, hshown, Logger.shownOf_append, String.append_assoc]

theorem Reads.tells (h : x.Reads) : Tells x fun _ => [] := by
  constructor
  · intro w
    rw [h.perform w]
  · intro w
    rw [h.perform w, Logger.shownOf_nil, String.append_empty]

/-- A step that looks at the workspace first tells what its rest tells. -/
theorem tells_get_bind {f : Workspace → Session α} {told : Workspace → Workspace → List Record}
    (hf : ∀ w, Tells (f w) (told w)) : Tells (get >>= f) fun w => told w w := by
  constructor
  · intro w
    rw [perform_bind_of_ok (perform_get w)]
    exact (hf w).logger w
  · intro w
    rw [perform_bind_of_ok (perform_get w)]
    exact (hf w).shown w

/-- Giving a result back tells nothing more. -/
theorem Tells.bind_pure (hx : Tells x told) (result : α → β) :
    Tells (x >>= fun a => pure (result a)) told := by
  have hnone (w : Workspace) : behind x (fun _ _ => []) w = [] := by
    rw [behind]
    split <;> rfl
  have hbind := hx.bind fun a => (reads_pure (result a)).tells
  simpa only [hnone, List.append_nil] using hbind

theorem tells_tell (r : Record) : Tells (tell r) fun _ => [r] := by
  constructor
  · intro w
    exact (w.onlyLogs_record r).logger
  · intro w
    exact w.shown_record r

theorem tells_generate (b : Bridge) (c : Config) (ownTemplates? : Option String) :
    Tells (generate b c ownTemplates?) (toldByGenerate b c ownTemplates?) := by
  have hlog (w : Workspace) : (w.settle b c ownTemplates?).logger = w.logger := by
    cases ownTemplates? <;> rfl
  have hshown (w : Workspace) : (w.settle b c ownTemplates?).shown = w.shown := by
    cases ownTemplates? <;> rfl
  constructor
  · intro w
    rw [perform_generate, (Workspace.onlyLogs_foldl_record _ _).logger, hlog]
  · intro w
    rw [perform_generate, Workspace.shown_foldl_record, hlog, hshown, toldByGenerate]

theorem tells_writeText (p : Path) (text : String) : Tells (writeText p text) fun _ => [] := by
  constructor
  · intro w
    rw [perform_writeText]
  · intro w
    rw [perform_writeText, Logger.shownOf_nil, String.append_empty]

theorem tells_output (target? : Option Path) (text : String) :
    Tells (output target? text) (toldByOutput target? text) := by
  cases target? with
  | none => exact (reads_pure ()).tells
  | some p => exact (tells_writeText p text).bind fun _ => tells_tell (wroteRecord p)

theorem tells_described (path : Path) (c : Config) (ownTemplates? : Option String) :
    Tells (described path c ownTemplates?) (toldByDescribed path c ownTemplates?) :=
  (reads_loadBridge path).tells.bind fun b =>
    (tells_tell (bridgeRecord b)).bind fun _ => tells_generate b c ownTemplates?

theorem tells_prepare (q : RunRequest) : Tells (prepare q) (toldByPrepare q) := by
  have hfrom (w : Workspace) : Tells (do
      tell (startRecord (q.path w))
      let c ← configuration q (q.path w)
      let r ← described (q.path w) c q.ownTemplates?
      return (c, r)) (toldFrom (q.path w) q) := by
    refine (tells_tell _).bind fun _ => (reads_configuration q (q.path w)).tells.bind fun c => ?_
    exact (tells_described (q.path w) c q.ownTemplates?).bind_pure (c, ·)
  have hprepare := tells_get_bind hfrom
  exact hprepare

theorem tells_publish (q : RunRequest) (c : Config) (r : Report) :
    Tells (publish q c r) (toldByPublish q c r) :=
  (tells_output _ _).bind fun _ => (tells_output _ _).bind fun _ => tells_tell (endRecord r)

/-- A run hands each of its records to the logger once. -/
theorem tells_run (q : RunRequest) : Tells (run q) (toldByRun q) := by
  rw [run_eq]
  exact (tells_prepare q).bind fun (c, r) => (tells_publish q c r).bind_pure fun _ => r

/-! ### The records of a command -/

variable {g : Generate} {w : Workspace} {c : Config}

theorem thresholdIn_of_load
    (h : ((loadConfig (g.configPath w.folder w.home)).perform w).1 = .ok c) :
    g.thresholdIn w = Logger.thresholdOf (g.verbose || c.verbose) := by
  rw [Generate.thresholdIn, h]
  rfl

theorem shown_reported (g : Generate) (w : Workspace) :
    ((reported g).perform w).2.shown =
      w.shown ++ Record.shownFrom (g.thresholdIn w) (toldByCommand g w) := by
  rw [toldByCommand, behind, (reads_loadConfig _).perform w]
  cases hload : ((loadConfig (g.configPath w.folder w.home)).perform w).1 with
  | error e =>
    rw [perform_reported_of_load_error hload]
    exact String.append_empty.symm
  | ok c =>
    obtain ⟨result, files, opened?, hsetUp, -⟩ :=
      setUpLog_spec (g.verbose || c.verbose) c.logFile? w
    rw [perform_reported_of_load hload, thresholdIn_of_load hload]
    dsimp only
    rw [behind, hsetUp]
    rcases result with e | ⟨⟩
    · exact String.append_empty.symm
    · dsimp only
      rw [(tells_run (g.requestWith w.home c)).shown, Logger.shownOf_setUp]

/-- Behind the report, a command does nothing but say how it ends. -/
theorem perform_generateCommand_eq (g : Generate) (w : Workspace) :
    (generateCommand g).perform w =
      (g.ending ((reported g).perform w).1,
        ((reported g).perform w).2.show (endText ((reported g).perform w).1)) := by
  have hsilent (w : Workspace) : w.show "" = w := by rw [Workspace.show, String.append_empty]
  rw [perform_generateCommand]
  rcases (reported g).perform w with ⟨e | ⟨c, r⟩, w'⟩
  · dsimp only
    rw [endedBy, Generate.ending, endText]
    cases endMessage? e with
    | none => exact congrArg (_, ·) (hsilent w').symm
    | some message => rfl
  · dsimp only
    rw [perform_finish, Generate.ending, endText]
    split
    · exact congrArg (_, ·) (hsilent w').symm
    · rfl

/-- What a command shows: its records from its threshold on, and then what it says at its end. -/
theorem shown_generateCommand (g : Generate) (w : Workspace) :
    ((generateCommand g).perform w).2.shown =
      w.shown ++ Record.shownFrom (g.thresholdIn w) (toldByCommand g w) ++
        endText ((reported g).perform w).1 := by
  rw [perform_generateCommand_eq, Workspace.shown_show, shown_reported]

end Session

end SignalBinding
