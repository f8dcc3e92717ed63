import SignalBinding.CommandLine.Command
import SignalBinding.Proofs.RunParts

/-!
# The parts of the command

The command `generate` loads a configuration, sets the logger up, does a run that is given the
configuration, and then tells the user how that went. Each failure on the way has a message, or ends
the command as it is.

## Main definitions

- `Generate.request`: what the command would ask of a run that looks for its configuration itself
- `Session.reported`: the command up to the report
- `CommandLine.endMessage?`: what the user is told about a failure
-/

namespace SignalBinding

namespace CommandLine

/-- The run that the command asks for once it has a configuration. -/
def Generate.requestWith (g : Generate) (home : Path) (c : Config) : RunRequest where
  bridge := g.bridgePath home
  config := .given c
  header? := g.header?.map Path.ofText
  source? := g.source?.map Path.ofText

/-- The run with the same paths that gets its configuration itself. -/
def Generate.request (g : Generate) : RunRequest where
  bridge := Path.ofText g.bridge
  config :=
    match nonempty g.config? with
    | some p => .at (Path.ofText p)
    | none => .besideBridge
  header? := g.header?.map Path.ofText
  source? := g.source?.map Path.ofText

/-- The logger of the command when its configuration names no log file. -/
def Generate.logger (g : Generate) (c : Config) : Logger :=
  .setUp (Logger.thresholdOf (g.verbose || c.verbose)) none

/-- What the user is told about a failure that ends the command, if anything. -/
def endMessage? : Failure → Option String
  | .config e => (Failure.config e).message?.map (· ++ "\n")
  | e => runMessage? e

end CommandLine

namespace Session

open CommandLine

/-- The command `generate` up to the report. -/
def reported (g : Generate) : Session (Config × Report) := do
  let w ← get
  let c ← loadConfig (g.configPath w.folder w.home)
  setUpLog (g.verbose || c.verbose) c.logFile?
  let r ← run (g.requestWith w.home c)
  return (c, r)

/-- The end of a command that the failure `e` keeps from going on. -/
def endedBy (message? : Failure → Option String) (e : Failure) (w : Workspace) :
    Except Failure CommandResult × Workspace :=
  match message? e with
  | some message => (.ok { exitCode := 1 }, w.show message)
  | none => (.error e, w)

variable {α : Type} {g : Generate} {w w' : Workspace} {c : Config} {r : Report} {e : Failure}

theorem command_of_request {arguments : List String}
    (h : Request.ofArguments arguments = .generate g) : command arguments = generateCommand g := by
  rw [command, h]

theorem perform_reported_of_load_error
    (h : ((loadConfig (g.configPath w.folder w.home)).perform w).1 = .error e) :
    (reported g).perform w = (.error e, w) := by
  rw [reported, perform_bind_of_ok (perform_get w),
    perform_bind_of_error ((reads_loadConfig _).perform_eq h)]

/-- With its configuration, the command sets the logger up and does the run. -/
theorem perform_reported_of_load
    (h : ((loadConfig (g.configPath w.folder w.home)).perform w).1 = .ok c) :
    (reported g).perform w =
      match (setUpLog (g.verbose || c.verbose) c.logFile?).perform w with
      | (.error e, w₁) => (.error e, w₁)
      | (.ok (), w₁) =>
        (((run (g.requestWith w.home c)).perform w₁).1.map (c, ·),
          ((run (g.requestWith w.home c)).perform w₁).2) := by
  rw [reported, perform_bind_of_ok (perform_get w),
    perform_bind_of_ok ((reads_loadConfig _).perform_eq h), perform_bind]
  rcases (setUpLog (g.verbose || c.verbose) c.logFile?).perform w with ⟨e | ⟨⟩, w₁⟩
  · rfl
  · dsimp only
    rw [perform_bind]
    rcases (run (g.requestWith w.home c)).perform w₁ with ⟨e | r, w₂⟩ <;> rfl

theorem perform_reported_of_no_file
    (h : ((loadConfig (g.configPath w.folder w.home)).perform w).1 = .ok c)
    (hfile : c.logFile? = none) :
    (reported g).perform w =
      (((run (g.requestWith w.home c)).perform (w.under (g.logger c) w.shown)).1.map (c, ·),
        ((run (g.requestWith w.home c)).perform (w.under (g.logger c) w.shown)).2) := by
  have hsetUp : (setUpLog (g.verbose || c.verbose) c.logFile?).perform w =
      (.ok (), w.under (g.logger c) w.shown) := by
    rw [hfile, perform_setUpLog]
    rfl
  rw [perform_reported_of_load h, hsetUp]

theorem load_of_reported (h : (reported g).perform w = (.ok (c, r), w')) :
    ((loadConfig (g.configPath w.folder w.home)).perform w).1 = .ok c := by
  cases hload : ((loadConfig (g.configPath w.folder w.home)).perform w).1 with
  | error e =>
    rw [perform_reported_of_load_error hload] at h
    cases h
  | ok c' =>
    rw [perform_reported_of_load hload] at h
    split at h
    · cases h
    · obtain ⟨r', -, hpair⟩ := map_eq_ok_iff.1 (congrArg Prod.fst h)
      rw [(Prod.mk.inj hpair).1]

theorem perform_orComplain (message? : Failure → Option String) (step : Session α)
    (next : α → Session CommandResult) (w : Workspace) :
    (orComplain message? step next).perform w =
      match step.perform w with
      | (.ok a, w') => (next a).perform w'
      | (.error e, w') => endedBy message? e w' := by
  rw [orComplain, perform_bind, perform_tryCatch, map_eq_pure_bind, perform_bind]
  rcases step.perform w with ⟨e | a, w'⟩
  · dsimp only [perform_pure, endedBy]
    cases message? e <;> rfl
  · rfl

theorem endedBy_congr {message? message?' : Failure → Option String}
    (h : message? e = message?' e) (w : Workspace) :
    endedBy message? e w = endedBy message?' e w := by
  rw [endedBy, endedBy, h]

/-- Setting the logger up fails only if its file cannot be opened. -/
theorem failsIn_setUpLog (verbose : Bool) (file? : Option Path) (w : Workspace) :
    FailsIn Failure.OfFile (setUpLog verbose file?) w := by
  intro e w' h
  rw [perform_setUpLog] at h
  cases file? with
  | none => cases h
  | some p =>
    dsimp only at h
    split at h
    · cases h
      trivial
    · split at h <;> cases h
      trivial

theorem failsIn_requestWith (g : Generate) (home : Path) (c : Config) (w : Workspace) :
    FailsIn Failure.OfRun (run (g.requestWith home c)) w := by
  have hgiven (w' : Workspace) : FailsIn (fun _ => False)
      (configuration (g.requestWith home c) ((g.requestWith home c).path w)) w' := failsIn_pure c
  exact (failsIn_run _ w hgiven).mono fun e h => h.resolve_left id

theorem endMessage?_of_config (h : e.OfConfig) : e.message?.map (· ++ "\n") = endMessage? e := by
  cases e <;> first | rfl | exact h.elim

theorem endMessage?_of_run (h : e.OfRun) : runMessage? e = endMessage? e := by
  cases e <;> first | rfl | exact h.elim

/-- The command does all up to the report, and then tells the user how that went. -/
theorem perform_generateCommand (g : Generate) (w : Workspace) :
    (generateCommand g).perform w =
      match (reported g).perform w with
      | (.ok (c, r), w') =>
        (finish r (g.targets c).1.isSome (g.targets c).2.isSome).perform w'
      | (.error e, w') => endedBy endMessage? e w' := by
  rw [generateCommand, reported, perform_bind_of_ok (perform_get w),
    perform_bind_of_ok (perform_get w), perform_orComplain, perform_bind]
  rcases hload : (loadConfig (g.configPath w.folder w.home)).perform w with ⟨e | c, w₁⟩
  · have he : e.OfConfig := failsIn_loadConfig _ w e w₁ hload
    exact endedBy_congr (endMessage?_of_config he) w₁
  · dsimp only
    rw [perform_bind, perform_bind]
    rcases hlog : (setUpLog (g.verbose || c.verbose) c.logFile?).perform w₁ with ⟨e | ⟨⟩, w₂⟩
    · have he : e.OfFile := failsIn_setUpLog _ _ w₁ e w₂ hlog
      cases e <;> first | rfl | exact he.elim
    · dsimp only
      change (orComplain runMessage? (run (g.requestWith w.home c)) _).perform w₂ = _
      rw [perform_orComplain, perform_bind]
      rcases hrun : (run (g.requestWith w.home c)).perform w₂ with ⟨e | r, w₃⟩
      · have he : e.OfRun := failsIn_requestWith g w.home c w₂ e w₃ hrun
        exact endedBy_congr (endMessage?_of_run he) w₃
      · rfl

theorem perform_finish (r : Report) (headerHasFile sourceHasFile : Bool) (w : Workspace) :
    (finish r headerHasFile sourceHasFile).perform w =
      if r.ok then (.ok { exitCode := 0, output := outputText r headerHasFile sourceHasFile }, w)
      else (.ok { exitCode := 1, output := outputText r headerHasFile sourceHasFile },
        w.show (skippedMessage r)) := by
  rw [finish]
  split <;> rfl

end Session

end SignalBinding
