import SignalBinding.Proofs.CommandSteps
import SignalBinding.Proofs.LogFiles

/-!
# Outputs come last

A run that cannot use what it is given, be it the configuration, the bridge or a template, fails
before its first output is written, however many signals it has rendered by then. Log files are all
that it may have written to. The command opens that file only when it has its configuration.

## Main definitions

- `Session.Rejects`: whether a run fails because of what it is given
- `Session.CommandRejects`: whether a command fails for such a reason
-/

namespace SignalBinding

open CommandLine

namespace Session

variable {q : RunRequest} {g : Generate} {w w' : Workspace} {e : Failure}

/--
The run fails with `e`, and not because an output cannot be written: either the failure has nothing
to do with files, or it comes up before there are any texts.
-/
def Rejects (q : RunRequest) (w : Workspace) (e : Failure) : Prop :=
  ((run q).perform w).1 = .error e ∧ (¬e.OfFile ∨ ((prepare q).perform w).1 = .error e)

theorem Rejects.onlyLogs (h : Rejects q w e) : w.OnlyLogs ((run q).perform w).2 := by
  obtain ⟨herror, hcause⟩ := h
  obtain hprepare | ⟨c, r, w₁, hprepare, hpublish⟩ :=
    exists_of_run_error (perform_eq_of_result herror)
  · exact (onlyLogs_prepare q).of_perform hprepare
  -- Writing outputs fails in other ways.
  · obtain hfile | hfails := hcause
    · exact absurd (failsIn_publish q c r w₁ e _ hpublish).ofFile hfile
    · rw [hprepare] at hfails
      cases hfails

/-- Setting the logger up changes the log file only, and so does what this file receives later
on. -/
theorem onlyLogFile_setUpLog {verbose : Bool} {file? : Option Path} {result : Except Failure Unit}
    (h : (setUpLog verbose file?).perform w = (result, w')) :
    w.OnlyLogFile file? w'.files ∧
      (result = .ok () → ∀ files, w'.Logged files → w.OnlyLogFile file? files) := by
  obtain ⟨result', tree, opened?, hsetUp, -, honly, hfile, hopened⟩ :=
    setUpLog_spec verbose file? w
  rw [hsetUp] at h
  cases h
  refine ⟨honly, fun hok files hfiles => ?_⟩
  have hplace := hopened hok
  cases file? with
  | none =>
    obtain rfl : opened? = none := Option.map_eq_none_iff.1 hplace
    exact (hfiles.eq_of_no_file Logger.files_setUp).trans honly
  | some p =>
    obtain ⟨f, rfl, hf⟩ := Option.map_eq_some_iff.1 hplace
    obtain ⟨content, hentry⟩ := hfile f rfl
    obtain ⟨more, rfl⟩ := hfiles.exists_eq_append Logger.files_setUp
    exact honly.trans (.of_agreeOutside (FileTree.place_ne_nil hentry (by simp)) hf
      (FileTree.agreeOutside_append tree _ _ more))

theorem files_endedBy (message? : Failure → Option String) (e : Failure) (w : Workspace) :
    (endedBy message? e w).2.files = w.files := by
  rw [endedBy]
  split <;> rfl

/--
The command fails with `e` once it has the configuration `c`: the log file cannot be opened, or the
run rejects what it is given.
-/
def CommandRejects (g : Generate) (c : Config) (w : Workspace) (e : Failure) : Prop :=
  ∃ result w₁, (setUpLog (g.verbose || c.verbose) c.logFile?).perform w = (result, w₁) ∧
    (result = .error e ∨ result = .ok () ∧ Rejects (g.requestWith w.home c) w₁ e)

/-- When the command fails for a reason other than a file, it rejects what it is given. -/
theorem commandRejects_of_reported {c : Config}
    (hc : ((loadConfig (g.configPath w.folder w.home)).perform w).1 = .ok c)
    (h : ((reported g).perform w).1 = .error e) (hfile : ¬e.OfFile) :
    CommandRejects g c w e := by
  rw [perform_reported_of_load hc] at h
  rcases hlog : (setUpLog (g.verbose || c.verbose) c.logFile?).perform w with ⟨e' | ⟨⟩, w₁⟩ <;>
    rw [hlog] at h
  · cases h
    exact ⟨_, _, hlog, .inl rfl⟩
  · exact ⟨_, _, hlog, .inr ⟨rfl, map_eq_error_iff.1 h, .inl hfile⟩⟩

/-- What the command leaves behind when it fails without a report. -/
theorem files_generateCommand_of_error (h : (reported g).perform w = (.error e, w')) :
    ((generateCommand g).perform w).2.files = w'.files := by
  rw [perform_generateCommand, h]
  exact files_endedBy endMessage? e w'

/-- A command that rejects what it is given changes the log file only. -/
theorem CommandRejects.onlyLogFile {c : Config} (h : CommandRejects g c w e)
    (hc : ((loadConfig (g.configPath w.folder w.home)).perform w).1 = .ok c) :
    w.OnlyLogFile c.logFile? ((generateCommand g).perform w).2.files := by
  have hreported := perform_reported_of_load hc
  obtain ⟨result, w₁, hlog, rfl | ⟨rfl, hrun⟩⟩ := h
  · rw [hlog] at hreported
    rw [files_generateCommand_of_error hreported]
    exact (onlyLogFile_setUpLog hlog).1
  · rw [hlog] at hreported
    dsimp only at hreported
    rw [hrun.1] at hreported
    rw [files_generateCommand_of_error hreported]
    exact (onlyLogFile_setUpLog hlog).2 rfl _ hrun.onlyLogs.files

/--
Outputs are written last. A run that rejects what it is given leaves all files as they are, apart
from what open log files receive. The command leaves all files as they are if it cannot load
its configuration; if it rejects what it is given after that, it changes only the log file that the
configuration names.
-/
theorem outputs_last (q : RunRequest) (arguments : List String) (g : Generate) (w : Workspace)
    (harguments : Request.ofArguments arguments = .generate g) :
    (∀ e, Rejects q w e → w.Logged ((run q).perform w).2.files) ∧
      (∀ e, ((loadConfig (g.configPath w.folder w.home)).perform w).1 = .error e →
        ((command arguments).perform w).2.files = w.files) ∧
      ∀ c, ((loadConfig (g.configPath w.folder w.home)).perform w).1 = .ok c →
        ∀ e, CommandRejects g c w e →
          w.OnlyLogFile c.logFile? ((command arguments).perform w).2.files := by
  rw [command_of_request harguments]
  refine ⟨fun e he => he.onlyLogs.files, fun e he => ?_, fun c hc e hrejects => ?_⟩
  · exact files_generateCommand_of_error (perform_reported_of_load_error he)
  · exact hrejects.onlyLogFile hc

/-- A project with a template of its own that uses a name without a value. The source of its signal
is written with that template, after the header. -/
def misspeltTemplate : Workspace where
  folder := Path.ofText "/r"
  home := Path.ofText "/h"
  time := "now"
  files := {
    entries := [
      (["r"], .folder),
      (["r", "b.yml"], .file 0 "free_signals: [{qobject: B, name: b}]".toUTF8),
      (["r", ".signalgen.yml"], .file 1
        "output: {header: o}\nlogging: {log_file: l}\ntemplates_dir: t".toUTF8),
      (["r", "t"], .folder),
      (["r", "t", "signals"], .folder),
      (["r", "t", "signals", "free_connect_source.j2"], .file 2 "\x7b\x7b x \x7d\x7d".toUTF8)]
    next := 3 }

theorem outputs_last_misspeltTemplate :
    ∃ c, ((loadConfig (Path.ofText "/r")).perform misspeltTemplate).1 = .ok c ∧
      c.logFile? = some (Path.ofText "/r/l") ∧
      CommandRejects { bridge := "b.yml" } c misspeltTemplate (.template .undefined) ∧
      misspeltTemplate.OnlyLogFile (some (Path.ofText "/r/l"))
        ((command ["generate", "b.yml"]).perform misspeltTemplate).2.files := by
  have hload : ((loadConfig (Path.ofText "/r")).perform misspeltTemplate).1.map Config.logFile? =
      .ok (some (Path.ofText "/r/l")) := by decide +kernel
  have hreported : ((reported { bridge := "b.yml" }).perform misspeltTemplate).1.map Prod.snd =
      .error (.template .undefined) := by decide +kernel
  have hpath : Generate.configPath { bridge := "b.yml" } misspeltTemplate.folder
      misspeltTemplate.home = Path.ofText "/r" := by decide +kernel
  obtain ⟨-, -, hcommand⟩ := outputs_last { bridge := Path.ofText "b.yml" }
    ["generate", "b.yml"] { bridge := "b.yml" } misspeltTemplate (by decide +kernel)
  rw [hpath] at hcommand
  obtain ⟨c, hc, hfile⟩ := map_eq_ok_iff.1 hload
  have hrejects : CommandRejects { bridge := "b.yml" } c misspeltTemplate (.template .undefined) :=
    commandRejects_of_reported (hpath ▸ hc) (map_eq_error_iff.1 hreported) id
  exact ⟨c, hc, hfile, hrejects, hfile ▸ hcommand c hc _ hrejects⟩

end Session

end SignalBinding
