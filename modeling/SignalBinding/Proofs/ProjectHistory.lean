import SignalBinding.Proofs.PreparedRuns

/-!
# Histories of a project

While a process works on a project, users change files, load descriptions, do runs and call the
command, as often as they like. What is done later only depends on the files that all of this has
left: neither the logger that was set up before nor the templates that were used before have a say.

## Main definitions

- `ProjectStep`: what may happen to a project
- `Workspace.after`: the workspace that a history leaves

## Main statement

- `Session.history_forgotten`: what does not depend on the history
-/

namespace SignalBinding

open CommandLine
open Session (command loadBridge loadConfig run)

/-- What may happen to a project. -/
inductive ProjectStep
  /-- The user writes a file. -/
  | write (path : Path) (content : ByteArray)
  /-- The user takes away what is at a path. -/
  | remove (path : Path)
  | loadBridge (path : Path)
  | loadConfig (path : Path)
  | run (q : RunRequest)
  | command (arguments : List String)

/-- The workspace behind a step, which may have failed. -/
def ProjectStep.apply (w : Workspace) : ProjectStep → Workspace
  | write p content =>
    { w with files := (w.files.writeInto (w.way p.parent) (w.way p) content).2 }
  | remove p => { w with files := w.files.remove (Path.cancel [] (w.way p)) }
  | loadBridge p => ((Session.loadBridge p).perform w).2
  | loadConfig p => ((Session.loadConfig p).perform w).2
  | run q => ((Session.run q).perform w).2
  | command arguments => ((Session.command arguments).perform w).2

/-- The workspace that a history leaves. -/
def Workspace.after (w : Workspace) (history : List ProjectStep) : Workspace :=
  history.foldl ProjectStep.apply w

theorem ProjectStep.setting_apply (w : Workspace) (step : ProjectStep) :
    (step.apply w).setting = w.setting := by
  cases step with
  | write p content | remove p => rfl
  | loadBridge p => exact (Session.reads_loadBridge p).keeps w
  | loadConfig p => exact (Session.reads_loadConfig p).keeps w
  | run q => exact Session.keeps_run q w
  | command arguments => exact Session.keeps_command arguments w

theorem Workspace.setting_after (w : Workspace) (history : List ProjectStep) :
    (w.after history).setting = w.setting := by
  induction history generalizing w with
  | nil => rfl
  | cons step history ih => exact (ih _).trans (step.setting_apply w)

/-- Histories that leave the same files leave workspaces that look alike. -/
theorem Workspace.alike_after {w : Workspace} {history history' : List ProjectStep}
    (h : FileTree.Alike (fun _ => False) (w.after history).files (w.after history').files) :
    (w.after history).Alike (fun _ => False) (w.after history') ∧
      (w.after history').time = (w.after history).time := by
  have hsetting : (w.after history').setting = (w.after history).setting :=
    (w.setting_after history').trans (w.setting_after history).symm
  obtain ⟨hlibraries, hfolder, hhome, htime⟩ : _ ∧ _ ∧ _ ∧ _ := by
    simpa [Workspace.setting] using hsetting
  exact ⟨⟨hlibraries, hfolder, hhome, h⟩, htime⟩

/-- A generator without templates of its own has those of the configuration or the built-in ones. -/
theorem Workspace.templatesFor_none (w : Workspace) (c : Config) :
    w.templatesFor c none =
      match c.templates? with
      | none => TemplateSet.builtin
      | some folder => w.templates folder [] := by
  unfold templatesFor
  cases c.templates? <;> rfl

namespace Session

variable {q : RunRequest} {w : Workspace} {r : Report}

/-- The report of a run comes from its own configuration, bridge and templates. -/
theorem exists_of_prepared_ok {c : Config} (h : prepared q w = .ok (c, r)) :
    ∃ b, ((configuration q (q.path w)).perform w).1 = .ok c ∧
      ((loadBridge (q.path w)).perform w).1 = .ok b ∧
      (b.generate (some c.table) (w.templatesFor c q.ownTemplates?)).result = .ok r := by
  obtain ⟨c', hc, h⟩ := bind_eq_ok_iff.1 h
  obtain ⟨b, hb, h⟩ := bind_eq_ok_iff.1 h
  obtain ⟨r', hr, h⟩ := bind_eq_ok_iff.1 h
  cases h
  refine ⟨b, hc, hb, ?_⟩
  cases hresult : (b.generate (some c.table) (w.templatesFor c q.ownTemplates?)).result with
  | error e =>
    rw [hresult] at hr
    cases hr
  | ok r' =>
    rw [hresult] at hr
    rw [Except.ok.inj hr]

/--
Two histories of a project that leave the same files, in folders that are the same, too, cannot be
told apart by what comes next.

A command ends in the same way, with the same text on standard output, shows the same and leaves the
same files. Each of its records from its threshold on is shown once, in order, whatever handlers the
logger has had and whatever has been shown before; then comes what the command says at its end.

A run whose generator has no templates of its own gives the same report or fails in the same way, if
neither history has left a log file open that the run reads. Its texts come from the
templates that its own configuration names, as they are now, or else from the built-in ones.
-/
theorem history_forgotten (w₀ : Workspace) (history history' : List ProjectStep)
    (h : FileTree.Alike (fun _ => False) (w₀.after history).files (w₀.after history').files) :
    let w := w₀.after history
    let w' := w₀.after history'
    (∀ arguments,
      let ended := (command arguments).perform w
      let ended' := (command arguments).perform w'
      ended.1 = ended'.1 ∧ FileTree.Alike (fun _ => False) ended.2.files ended'.2.files ∧
      (∃ text, ended.2.shown = w.shown ++ text ∧ ended'.2.shown = w'.shown ++ text) ∧
      ∀ g, Request.ofArguments arguments = .generate g →
        ended.2.shown = w.shown ++ Record.shownFrom (g.thresholdIn w) (toldByCommand g w) ++
          endText ((reported g).perform w).1) ∧
    ∀ q : RunRequest, q.ownTemplates? = none → (∀ place, w.LogsTo place → ¬q.Reads w place) →
      ((∀ place, w'.LogsTo place → ¬q.Reads w' place) →
        ((run q).perform w).1 = ((run q).perform w').1) ∧
      ∀ r, ((run q).perform w).1 = .ok r →
        ∃ c b, ((configuration q (q.path w)).perform w).1 = .ok c ∧
          ((loadBridge (q.path w)).perform w).1 = .ok b ∧
          (b.generate (some c.table) (match c.templates? with
            | none => TemplateSet.builtin
            | some folder => w.templates folder [])).result = .ok r := by
  intro w w'
  obtain ⟨halike, htime⟩ := Workspace.alike_after h
  refine ⟨fun arguments => ?_, fun q hown hlog => ⟨fun hlog' => ?_, fun r hr => ?_⟩⟩
  · obtain ⟨hresult, hbehind, hshown⟩ := command_alike arguments halike htime
    refine ⟨hresult, hbehind.files, hshown, fun g hg => ?_⟩
    rw [command_of_request hg]
    exact shown_generateCommand g w
  · exact run_alike halike hown hlog hlog'
  · obtain ⟨c, w₁, hprepare, -⟩ := exists_of_run_ok (perform_eq_of_result hr)
    have hprepared : prepared q w = .ok (c, r) := by
      rw [← prepare_eq_prepared hown hlog, hprepare]
    obtain ⟨b, hc, hb, hresult⟩ := exists_of_prepared_ok hprepared
    rw [hown, Workspace.templatesFor_none] at hresult
    exact ⟨c, b, hc, hb, hresult⟩

/-- A project with a configuration file that names templates and a log file. -/
def twoConfigs : Workspace where
  folder := Path.ofText "/r"
  home := Path.ofText "/h"
  time := "now"
  files := {
    entries := [
      (["r"], .folder),
      (["r", "b.yml"], .file 0 "free_signals: [{qobject: B, name: b}]".toUTF8),
      (["r", "c.yml"], .file 1 "{templates_dir: t, logging: {log_file: log}}".toUTF8),
      (["r", "t"], .folder),
      (["r", "t", "signals"], .folder),
      (["r", "t", "signals", "free_connect_source.j2"], .file 2 "s".toUTF8)]
    next := 3 }

/-- A command with details, and then one that logs and uses the templates. -/
def calledTwice : Workspace :=
  twoConfigs.after [.command ["generate", "-v", "b.yml"],
    .command ["generate", "--config", "c.yml", "b.yml"]]

/-- The text of that log. -/
def loggedText : String :=
  "now INFO signalgen.orchestrator: Starting generation for /r/b.yml\n" ++
    "now INFO signalgen.orchestrator: Generated 1 owner(s) with 0 failure(s)\n"

/-- The same files without any command: the user has written the log. -/
def loggedByHand : Workspace :=
  twoConfigs.after [.write (Path.ofText "log") loggedText.toUTF8]

/-- With that log there, a run reads the bridge alone. -/
theorem not_reads_loggedByHand :
    ¬({ bridge := Path.ofText "b.yml" } : RunRequest).Reads loggedByHand ["r", "log"] := by
  intro hreads
  have hlocated {way : List String} {place : Place}
      (hway : loggedByHand.files.locate [] way = .ok place) (hne : place ≠ ["r", "log"]) :
      ¬loggedByHand.files.FileAt way ["r", "log"] :=
    fun hat => hne (Except.ok.inj (hway.symm.trans hat.1))
  let q : RunRequest := { bridge := Path.ofText "b.yml" }
  cases hreads with
  | config hp hplace =>
    cases hp
    have hconfig : loggedByHand.files.locate [] (loggedByHand.way
        (configFile loggedByHand (q.path loggedByHand).parent)) =
          .ok ["r", ".signalgen.yml"] := by decide +kernel
    exact hlocated hconfig (by decide) hplace
  | bridge hc hplace =>
    have hbridge : loggedByHand.files.locate [] (loggedByHand.way
        ((q.path loggedByHand).expandHome loggedByHand.home)) = .ok ["r", "b.yml"] := by
      decide +kernel
    exact hlocated hbridge (by decide) hplace
  | template hc hb hfolder hname hplace =>
    have htemplates : ((configuration q (q.path loggedByHand)).perform loggedByHand).1.map
        Config.templates? = .ok none := by decide +kernel
    rw [hc] at htemplates
    exact absurd (hfolder.symm.trans (Except.ok.inj htemplates)) (by simp)

/-- The details, the log file and the templates of earlier commands are forgotten. -/
theorem history_forgotten_calledTwice :
    let q : RunRequest := { bridge := Path.ofText "b.yml" }
    FileTree.Alike (fun _ => False) calledTwice.files loggedByHand.files ∧
      calledTwice.LogsTo ["r", "log"] ∧ ¬q.Reads calledTwice ["r", "log"] ∧
      ((command ["generate", "b.yml"]).perform calledTwice).1 =
        ((command ["generate", "b.yml"]).perform loggedByHand).1 ∧
      ((command ["generate", "b.yml"]).perform calledTwice).2.shown = calledTwice.shown ++
        ("[signalgen] INFO Starting generation for /r/b.yml\n" ++
          "[signalgen] INFO Generated 1 owner(s) with 0 failure(s)\n") ∧
      ((run q).perform calledTwice).1 = ((run q).perform loggedByHand).1 := by
  intro q
  have hleft : calledTwice.files.entries = loggedByHand.files.entries ∧
      calledTwice.logFiles = [{ place := ["r", "log"], number := 3 }] := by decide +kernel
  obtain ⟨hentries, hopen⟩ := hleft
  have halike : FileTree.Alike (fun _ => False) calledTwice.files loggedByHand.files :=
    FileTree.alike_of_entries hentries
  have hforgotten := history_forgotten twoConfigs _ _ halike
  dsimp only at hforgotten
  rw [← calledTwice, ← loggedByHand] at hforgotten
  obtain ⟨hcommand, hrun⟩ := hforgotten
  -- What the two logs go to.
  have hclosed : loggedByHand.logFiles = [] := rfl
  have hfile : calledTwice.files.HasFile ["r", "log"] 3 := by
    have hentry : loggedByHand.files.entry? ["r", "log"] = some (.file 3 loggedText.toUTF8) := by
      decide +kernel
    refine ⟨loggedText.toUTF8, ?_⟩
    unfold FileTree.entry? at hentry ⊢
    rwa [hentries]
  have hlogs : calledTwice.LogsTo ["r", "log"] := by
    refine ⟨{ place := ["r", "log"], number := 3 }, ?_, hfile, rfl⟩
    rw [hopen]
    exact List.mem_singleton_self _
  -- What the run reads is the same with either history.
  have hworkspaces : calledTwice.Alike (fun _ => False) loggedByHand :=
    (Workspace.alike_after halike).1
  have hunread : ¬q.Reads calledTwice ["r", "log"] :=
    fun hreads => not_reads_loggedByHand (reads_alike hworkspaces.symm hreads)
  have hlog (place : Place) (hplace : calledTwice.LogsTo place) : ¬q.Reads calledTwice place := by
    obtain ⟨f, hf, -, rfl⟩ := hplace
    rw [hopen, List.mem_singleton] at hf
    rw [hf]
    exact hunread
  have hlog' (place : Place) (hplace : loggedByHand.LogsTo place) :
      ¬q.Reads loggedByHand place := by
    obtain ⟨f, hf, -, -⟩ := hplace
    rw [hclosed] at hf
    cases hf
  obtain ⟨hresult, -, ⟨text, hshown, hshown'⟩, -⟩ := hcommand ["generate", "b.yml"]
  have hlines : ((command ["generate", "b.yml"]).perform loggedByHand).2.shown =
      "[signalgen] INFO Starting generation for /r/b.yml\n" ++
        "[signalgen] INFO Generated 1 owner(s) with 0 failure(s)\n" := by decide +kernel
  have hsilent : loggedByHand.shown = "" := rfl
  rw [hlines, hsilent, String.empty_append] at hshown'
  rw [← hshown'] at hshown
  exact ⟨halike, hlogs, hunread, hresult, hshown, (hrun q rfl hlog).1 hlog'⟩

end Session

end SignalBinding
