import SignalBinding.Proofs.StandardOutput
import SignalBinding.Proofs.ToldRecords
import SignalBinding.Proofs.VerboseFlag

/-!
# Verbosity

Asking a command for details changes what the user is shown and nothing else, if no log file is
kept: the command makes the same records either way, and those that are only shown with details are
the ones of the lowest level.

## Main definitions

- `Session.Blind`: records that are the same under any logger without a file

## Main statements

- `Session.verbosity_observes_only`: what a verbose flag does to a command
-/

namespace SignalBinding

open CommandLine

namespace Record

/-- Users who ask for details are shown all records. -/
theorem shownFrom_loud (rs : List Record) :
    shownFrom (Logger.thresholdOf true) rs = String.join (rs.map shown) := by
  have hall : ∀ r ∈ rs, decide ((Logger.thresholdOf true).rank ≤ r.level.rank) = true := by
    rintro ⟨level, _, _, _⟩ _
    cases level <;> rfl
  rw [shownFrom, List.filter_eq_self.2 hall]

/-- Other users are shown all records but the details. -/
theorem shownFrom_quiet (rs : List Record) :
    shownFrom (Logger.thresholdOf false) rs =
      String.join ((rs.filter (·.level ≠ .debug)).map shown) := by
  have htakes (r : Record) : decide ((Logger.thresholdOf false).rank ≤ r.level.rank) =
      decide (r.level ≠ .debug) := by
    obtain ⟨level, _, _, _⟩ := r
    cases level <;> rfl
  rw [shownFrom, List.filter_congr fun r _ => htakes r]

end Record

namespace Session

variable {α : Type} {x : Session α} {told told' : Workspace → List Record}
  {next : α → Workspace → List Record}

/-- The records are the same under any logger without a file. -/
def Blind (told : Workspace → List Record) : Prop :=
  ∀ (w : Workspace) (logger logger' : Logger) (shown shown' : String),
    logger.files = [] → logger'.files = [] →
      told (w.under logger shown) = told (w.under logger' shown')

theorem blind_const (rs : List Record) : Blind fun _ => rs := fun _ _ _ _ _ _ _ => rfl

theorem Blind.append (h : Blind told) (h' : Blind told') : Blind fun w => told w ++ told' w := by
  intro w logger logger' shown shown' hlog hlog'
  dsimp only
  rw [h w logger logger' shown shown' hlog hlog', h' w logger logger' shown shown' hlog hlog']

theorem Traced.blind_behind (hx : x.Traced) (hnext : ∀ a, Blind (next a)) :
    Blind (behind x next) := by
  intro w logger logger' shown shown' hlog hlog'
  obtain ⟨rs, result, w', h⟩ := hx w
  rw [behind, behind, h logger shown hlog, h logger' shown' hlog']
  cases result with
  | error e => rfl
  | ok a => exact hnext a w' logger logger' _ _ hlog hlog'

theorem blind_output (target? : Option Path) (text : String) :
    Blind (toldByOutput target? text) := by
  cases target? with
  | none => exact blind_const []
  | some p => exact (traced_writeText p text).blind_behind fun _ => blind_const _

theorem blind_described (path : Path) (c : Config) (ownTemplates? : Option String) :
    Blind (toldByDescribed path c ownTemplates?) := by
  have hgenerate (b : Bridge) : Blind (toldByGenerate b c ownTemplates?) := fun _ _ _ _ _ _ _ => rfl
  have hrest (b : Bridge) : Blind (behind (tell (bridgeRecord b)) fun _ =>
      toldByGenerate b c ownTemplates?) := (traced_tell _).blind_behind fun _ => hgenerate b
  exact (reads_loadBridge path).traced.blind_behind fun b =>
    (blind_const [bridgeRecord b]).append (hrest b)

theorem blind_prepare (q : RunRequest) : Blind (toldByPrepare q) := by
  have hfrom (path : Path) : Blind (toldFrom path q) :=
    (blind_const [startRecord path]).append <| (traced_tell _).blind_behind fun _ =>
      (reads_configuration q path).traced.blind_behind fun c =>
        blind_described path c q.ownTemplates?
  intro w
  exact hfrom (q.path w) w

theorem blind_publish (q : RunRequest) (c : Config) (r : Report) : Blind (toldByPublish q c r) :=
  (blind_output _ _).append <| (traced_output _ _).blind_behind fun _ =>
    (blind_output _ _).append <| (traced_output _ _).blind_behind fun _ => blind_const _

/-- Which records a run makes is not for a logger without a file to decide. -/
theorem blind_run (q : RunRequest) : Blind (toldByRun q) :=
  (blind_prepare q).append <| (traced_prepare q).blind_behind fun (c, r) => blind_publish q c r

/-! ### Commands with and without details -/

variable {arguments arguments' : List String} {g : Generate} {w : Workspace}

/-- The configuration of the command, if there is one, names no log file. -/
def KeepsNoFile (g : Generate) (w : Workspace) : Prop :=
  ∀ c, ((loadConfig (g.configPath w.folder w.home)).perform w).1 = .ok c → c.logFile? = none

/-- The configuration of the command, if there is one, does not ask for details. -/
def ConfigQuiet (g : Generate) (w : Workspace) : Prop :=
  ∀ c, ((loadConfig (g.configPath w.folder w.home)).perform w).1 = .ok c → c.verbose = false

theorem configPath_loud (g : Generate) (folder home : Path) :
    g.loud.configPath folder home = g.configPath folder home := rfl

/-- With details, a command makes the same records. -/
theorem toldByCommand_loud (hfile : KeepsNoFile g w) :
    toldByCommand g.loud w = toldByCommand g w := by
  rw [toldByCommand, toldByCommand, configPath_loud, behind, behind,
    (reads_loadConfig _).perform w]
  cases hload : ((loadConfig (g.configPath w.folder w.home)).perform w).1 with
  | error e => rfl
  | ok c =>
    dsimp only
    rw [hfile c hload, behind, behind, perform_setUpLog, perform_setUpLog]
    exact blind_run (g.requestWith w.home c) w (g.loud.logger c) (g.logger c) w.shown w.shown
      Logger.files_setUp Logger.files_setUp

/-- With details, a command has the same report and does the same to the files. -/
theorem reported_loud (hfile : KeepsNoFile g w) :
    ((reported g.loud).perform w).1 = ((reported g).perform w).1 ∧
      ((reported g.loud).perform w).2.files = ((reported g).perform w).2.files := by
  cases hload : ((loadConfig (g.configPath w.folder w.home)).perform w).1 with
  | error e =>
    rw [perform_reported_of_load_error hload]
    rw [← configPath_loud] at hload
    rw [perform_reported_of_load_error hload]
    exact ⟨rfl, rfl⟩
  | ok c =>
    obtain ⟨rs, result, w', hrun⟩ := traced_run (g.requestWith w.home c) w
    have hloud := hrun (g.loud.logger c) w.shown Logger.files_setUp
    have hquiet := hrun (g.logger c) w.shown Logger.files_setUp
    have hload' : ((loadConfig (g.loud.configPath w.folder w.home)).perform w).1 = .ok c := hload
    have hrequest : g.loud.requestWith w.home c = g.requestWith w.home c := rfl
    rw [perform_reported_of_no_file hload (hfile c hload),
      perform_reported_of_no_file hload' (hfile c hload), hrequest, hloud, hquiet]
    exact ⟨rfl, rfl⟩

/-- What is shown of the records of a command depends on whether it has been asked for details. -/
theorem shownFrom_thresholdIn {verbose : Bool}
    (h : ∀ c, ((loadConfig (g.configPath w.folder w.home)).perform w).1 = .ok c →
      (g.verbose || c.verbose) = verbose) :
    Record.shownFrom (g.thresholdIn w) (toldByCommand g w) =
      Record.shownFrom (Logger.thresholdOf verbose) (toldByCommand g w) := by
  cases hload : ((loadConfig (g.configPath w.folder w.home)).perform w).1 with
  | error e =>
    have htold : toldByCommand g w = [] := by
      rw [toldByCommand, behind, (reads_loadConfig _).perform w, hload]
    rw [htold]
    rfl
  | ok c => rw [thresholdIn_of_load hload, h c hload]

/-- What a command that asks for details shows: all of its records, and what it says at its end. -/
theorem shown_loud (g : Generate) (w : Workspace) :
    ((generateCommand g.loud).perform w).2.shown =
      w.shown ++ String.join ((toldByCommand g.loud w).map Record.shown) ++
        endText ((reported g.loud).perform w).1 := by
  have hverbose (c : Config) : (g.loud.verbose || c.verbose) = true := rfl
  rw [shown_generateCommand, shownFrom_thresholdIn fun c _ => hverbose c, Record.shownFrom_loud]

/-- What a command shows whose user and configuration do not ask for details. -/
theorem shown_quiet (hquiet : g.verbose = false) (hconfig : ConfigQuiet g w) :
    ((generateCommand g).perform w).2.shown =
      w.shown ++
        String.join (((toldByCommand g w).filter (·.level ≠ .debug)).map Record.shown) ++
        endText ((reported g).perform w).1 := by
  have hverbose (c : Config) (hload : ((loadConfig (g.configPath w.folder w.home)).perform w).1 =
      .ok c) : (g.verbose || c.verbose) = false := by
    rw [hquiet, hconfig c hload]
    rfl
  rw [shown_generateCommand, shownFrom_thresholdIn hverbose, Record.shownFrom_quiet]

/--
A verbose flag only makes more visible. In front of any command line that asks for a generation it
asks for the same one with details. Without a log file, this ends in the same way, with the same
text on standard output, and leaves the same files. The user is shown all records of the command and
its message. Unless the configuration asks for details itself, the command without the flag shows
all but the records of the lowest level, in the same order, and the same message.
-/
theorem verbosity_observes_only (harguments : Request.ofArguments arguments = .generate g)
    (hquiet : g.verbose = false) (hfile : KeepsNoFile g w) :
    (∀ flag ∈ ["-v", "--verbose"], Request.ofArguments (flag :: arguments) = .generate g.loud) ∧
    ∀ arguments', Request.ofArguments arguments' = .generate g.loud →
      let quiet := (command arguments).perform w
      let loud := (command arguments').perform w
      let message := endText ((reported g).perform w).1
      loud.1 = quiet.1 ∧ loud.2.files = quiet.2.files ∧
      loud.2.shown =
        w.shown ++ String.join ((toldByCommand g w).map Record.shown) ++ message ∧
      (ConfigQuiet g w → quiet.2.shown =
        w.shown ++ String.join (((toldByCommand g w).filter (·.level ≠ .debug)).map Record.shown) ++
          message) := by
  refine ⟨fun flag hflag => ofArguments_verbose harguments hflag, ?_⟩
  intro arguments' harguments' quiet loud message
  obtain ⟨hresult, hfiles⟩ := reported_loud hfile
  have hquietCommand : quiet = (generateCommand g).perform w :=
    congrArg (·.perform w) (command_of_request harguments)
  have hloudCommand : loud = (generateCommand g.loud).perform w :=
    congrArg (·.perform w) (command_of_request harguments')
  have hending : g.loud.ending = g.ending := rfl
  rw [hquietCommand, hloudCommand]
  refine ⟨?_, ?_, ?_, fun hconfig => shown_quiet hquiet hconfig⟩
  · rw [perform_generateCommand_eq, perform_generateCommand_eq, hresult, hending]
  · rw [perform_generateCommand_eq, perform_generateCommand_eq, Workspace.files_show,
      Workspace.files_show, hfiles]
  · rw [shown_loud, toldByCommand_loud hfile, hresult]

/-- Of the four records of a command, two are only for users who ask for details. -/
theorem verbosity_observes_only_oneSignal :
    let quiet := (command ["generate", "b.yml"]).perform oneSignal
    let loud := (command ["generate", "b.yml", "-v"]).perform oneSignal
    loud.1 = quiet.1 ∧ loud.2.files = quiet.2.files ∧
      loud.2.shown = "[signalgen] INFO Starting generation for /r/b.yml\n" ++
        "[signalgen] DEBUG Bridge declares 0 QObject(s) and 1 free signal(s)\n" ++
        "[signalgen] DEBUG B: Generating free signal b with 0 parameter(s)\n" ++
        "[signalgen] INFO Generated 1 owner(s) with 0 failure(s)\n" ∧
      quiet.2.shown = "[signalgen] INFO Starting generation for /r/b.yml\n" ++
        "[signalgen] INFO Generated 1 owner(s) with 0 failure(s)\n" := by
  let g : Generate := { bridge := "b.yml" }
  have harguments : Request.ofArguments ["generate", "b.yml"] = .generate g := by decide +kernel
  have hverbose : Request.ofArguments ["generate", "b.yml", "-v"] = .generate g.loud := by
    decide +kernel
  have hload : ((loadConfig (g.configPath oneSignal.folder oneSignal.home)).perform oneSignal).1.map
      (fun c => (c.logFile?, c.verbose)) = .ok (none, false) := by decide +kernel
  have hsettings (c : Config)
      (hc : ((loadConfig (g.configPath oneSignal.folder oneSignal.home)).perform oneSignal).1 =
        .ok c) : (c.logFile?, c.verbose) = (none, false) := by
    rw [hc] at hload
    exact Except.ok.inj hload
  have hfile : KeepsNoFile g oneSignal := fun c hc => (Prod.mk.inj (hsettings c hc)).1
  have hconfig : ConfigQuiet g oneSignal := fun c hc => (Prod.mk.inj (hsettings c hc)).2
  obtain ⟨-, hboth⟩ := verbosity_observes_only harguments rfl hfile
  have hsame := hboth _ hverbose
  dsimp only at hsame ⊢
  obtain ⟨hresult, hfiles, hloud, hquiet⟩ := hsame
  refine ⟨hresult, hfiles, hloud.trans ?_, (hquiet hconfig).trans ?_⟩
  · decide +kernel
  · decide +kernel

end Session

end SignalBinding
