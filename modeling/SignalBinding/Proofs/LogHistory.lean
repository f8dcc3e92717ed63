import SignalBinding.Proofs.LogSinks
import SignalBinding.Proofs.TopicTree

/-!
# Histories of the logger

In the course of a session the logger may be set up again and again, with other files or with the
same ones, and records are made in between. Whatever handlers the logger has had, the latest setting
alone decides what becomes of a record.

## Main definitions

- `LogStep`: what may happen to the logger, and `LogStep.run` for some steps in a row
- `Workspace.logged`: the workspace that some steps leave

## Main statements

- `LogStep.Succeed.logsWith`, `LogStep.Succeed.sends`: what setting up comes to, and what becomes of
  a record then
- `LogStep.Succeed.entry?_eq_of_later`, `LogStep.Succeed.grows`: what becomes of files
- `Session.log_follows_latest`: what is written, and where to
-/

namespace SignalBinding

/-- What may happen to the logger. -/
inductive LogStep
  /-- It is set up, for users who ask for details or not, and with a file or without one. -/
  | setUp (verbose : Bool) (file? : Option Path)
  /-- A record is made, which may name an owner in place of the reporter's. -/
  | report (reporter : Reporter) (level : Level) (message : String) (owner? : Option String)

namespace LogStep

def perform : LogStep → Session Unit
  | setUp verbose file? => Session.setUpLog verbose file?
  | report reporter level message owner? =>
    modify (·.report (reporter.record level message owner?))

/-- Does steps one after the other, up to the first that fails. -/
def run : List LogStep → Session Unit
  | [] => return ()
  | step :: rest => do
    step.perform
    run rest

def isReport : LogStep → Bool
  | setUp _ _ => false
  | report .. => true

/-- The place of the file that a step names in the folder. -/
def place? (folder : Path) : LogStep → Option Place
  | setUp _ file? => file?.map fun p => (p.resolve folder).steps
  | report .. => none

end LogStep

/-- The workspace that some steps leave. -/
def Workspace.logged (w : Workspace) (steps : List LogStep) : Workspace :=
  ((LogStep.run steps).perform w).2

/-! ### The lines of a record -/

/-- What stands in front of a message: the owner that the record names, or else the reporter's, but
not an empty one. -/
def ownerTag (given? own? : Option String) : String :=
  match given?, own? with
  | some owner, _ | none, some owner => if owner = "" then "" else owner ++ ": "
  | none, none => ""

theorem tagged_record (reporter : Reporter) (level : Level) (message : String)
    (owner? : Option String) :
    (reporter.record level message owner?).tagged =
      ownerTag owner? reporter.owner? ++ message := by
  rcases owner? with _ | owner
  · rcases hown : reporter.owner? with _ | owner
    · simp [Record.tagged, Reporter.record, ownerTag, hown]
    · simp only [Record.tagged, Reporter.record, ownerTag, hown, Option.or]
      split <;> simp
  · simp only [Record.tagged, Reporter.record, ownerTag, Option.or]
    split <;> simp

theorem shown_record (reporter : Reporter) (level : Level) (message : String)
    (owner? : Option String) :
    (reporter.record level message owner?).shown =
      "[signalgen] " ++ level.name ++ " " ++
        (ownerTag owner? reporter.owner? ++ message ++ "\n") := by
  rw [Record.shown, tagged_record]
  simp only [Reporter.record, String.append_assoc]

theorem written_record (time : String) (reporter : Reporter) (level : Level) (message : String)
    (owner? : Option String) :
    (reporter.record level message owner?).written time =
      time ++ " " ++ level.name ++ " " ++ topic reporter.name? ++ ": " ++
        (ownerTag owner? reporter.owner? ++ message ++ "\n") := by
  rw [Record.written, tagged_record]
  simp only [Reporter.record, String.append_assoc]

namespace LogStep

variable {w w' : Workspace} {step : LogStep} {steps xs ys : List LogStep}

/-! ### One step -/

theorem perform_report (w : Workspace) (reporter : Reporter) (level : Level) (message : String)
    (owner? : Option String) :
    (report reporter level message owner?).perform.perform w =
      (.ok (), w.report (reporter.record level message owner?)) :=
  rfl

theorem onlyLogs_perform (h : step.isReport) (w : Workspace) :
    (step.perform.perform w).1 = .ok () ∧ w.OnlyLogs (step.perform.perform w).2 := by
  cases step with
  | setUp verbose file? => cases h
  | report reporter level message owner? => exact ⟨rfl, w.onlyLogs_report _⟩

/-- A step takes nothing away from a file. -/
theorem grows_perform (step : LogStep) (w : Workspace) :
    w.files.Grows (step.perform.perform w).2.files := by
  cases step with
  | setUp verbose file? => exact (Session.extends_setUpLog verbose file? w).grows
  | report reporter level message owner? => exact (w.onlyLogs_report _).grows

theorem folder_perform (step : LogStep) (w : Workspace) :
    (step.perform.perform w).2.folder = w.folder := by
  cases step with
  | setUp verbose file? =>
    exact congrArg (·.2.1) (Session.keeps_setUpLog verbose file? w)
  | report reporter level message owner? => exact (w.onlyLogs_report _).folder

/-- No open log file is at the place. -/
def Spares (w : Workspace) (place : Place) : Prop :=
  ∀ f ∈ w.logFiles, f.place ≠ place

theorem spares_setUp {verbose : Bool} {file? : Option Path} {place : Place}
    (h : (setUp verbose file?).perform.perform w = (.ok (), w'))
    (hplace : (setUp verbose file?).place? w.folder ≠ some place) : Spares w' place := by
  intro f hf heq
  have hfile := (Session.logsWith_setUpLog h).logFiles hf
  rw [heq] at hfile
  exact hplace hfile

/-- Setting up leaves all other files alone, those that have been log files among them. -/
theorem entry?_setUp {verbose : Bool} {file? : Option Path} {place : Place} {entry : FileEntry}
    (h : (setUp verbose file?).perform.perform w = (.ok (), w'))
    (hplace : (setUp verbose file?).place? w.folder ≠ some place)
    (hentry : w.files.entry? place = some entry) :
    w'.files.entry? place = some entry ∧ Spares w' place := by
  have hextends := Session.extends_setUpLog verbose file? w place entry hentry
  change (Session.setUpLog verbose file?).perform w = _ at h
  rw [h] at hextends
  exact ⟨hextends, spares_setUp h hplace⟩

/-- A file that is not open as a log file is left alone, unless a step names it. -/
theorem entry?_perform {place : Place} {entry : FileEntry}
    (h : step.perform.perform w = (.ok (), w')) (hplace : step.place? w.folder ≠ some place)
    (hspares : Spares w place) (hentry : w.files.entry? place = some entry) :
    w'.files.entry? place = some entry ∧ Spares w' place := by
  cases step with
  | setUp verbose file? => exact entry?_setUp h hplace hentry
  | report reporter level message owner? =>
    have honly := w.onlyLogs_report (reporter.record level message owner?)
    rw [perform_report] at h
    cases h
    exact ⟨(honly.entry_eq hspares).trans hentry, fun f hf => hspares f (honly.logFiles_eq ▸ hf)⟩

/-! ### Steps in a row -/

theorem perform_run_append (xs ys : List LogStep) (w : Workspace) :
    (run (xs ++ ys)).perform w =
      match (run xs).perform w with
      | (.ok (), w₁) => (run ys).perform w₁
      | (.error e, w₁) => (.error e, w₁) := by
  induction xs generalizing w with
  | nil => rfl
  | cons x xs ih =>
    rw [List.cons_append, run, run, Session.perform_bind, Session.perform_bind]
    rcases x.perform.perform w with ⟨e | ⟨⟩, w₁⟩
    · rfl
    · exact ih w₁

/-- The steps succeed. -/
def Succeed (w : Workspace) (steps : List LogStep) : Prop :=
  ((run steps).perform w).1 = .ok ()

theorem Succeed.perform (h : Succeed w steps) :
    (run steps).perform w = (.ok (), w.logged steps) :=
  Session.perform_eq_of_result h

theorem succeed_append_iff :
    Succeed w (xs ++ ys) ↔ Succeed w xs ∧ Succeed (w.logged xs) ys := by
  unfold Succeed Workspace.logged
  rw [perform_run_append]
  rcases (run xs).perform w with ⟨e | ⟨⟩, w₁⟩ <;> simp

theorem succeed_cons_iff :
    Succeed w (step :: steps) ↔ Succeed w [step] ∧ Succeed (w.logged [step]) steps := by
  rw [← List.singleton_append, succeed_append_iff]

theorem Succeed.logged_append (h : Succeed w xs) (ys : List LogStep) :
    w.logged (xs ++ ys) = (w.logged xs).logged ys := by
  rw [Workspace.logged, perform_run_append, h.perform]
  rfl

theorem logged_singleton (w : Workspace) (step : LogStep) :
    w.logged [step] = (step.perform.perform w).2 := by
  rw [Workspace.logged, run, Session.perform_bind]
  rcases step.perform.perform w with ⟨e | ⟨⟩, w₁⟩ <;> rfl

theorem Succeed.perform_singleton (h : Succeed w [step]) :
    step.perform.perform w = (.ok (), w.logged [step]) := by
  rw [logged_singleton]
  unfold Succeed at h
  rw [run, Session.perform_bind] at h
  rcases hperform : step.perform.perform w with ⟨e | ⟨⟩, w₁⟩
  · rw [hperform] at h
    cases h
  · rfl

theorem Succeed.folder_logged (h : Succeed w steps) : (w.logged steps).folder = w.folder := by
  induction steps generalizing w with
  | nil => rfl
  | cons step steps ih =>
    obtain ⟨hstep, hsteps⟩ := succeed_cons_iff.1 h
    have hfirst : (w.logged [step]).folder = w.folder := by
      rw [logged_singleton, folder_perform]
    rw [← List.singleton_append, hstep.logged_append, ih hsteps, hfirst]

/-- A file that is not open as a log file stays as it is until a step names it. -/
theorem Succeed.entry?_logged {place : Place} {entry : FileEntry} (h : Succeed w steps)
    (hplace : ∀ step ∈ steps, step.place? w.folder ≠ some place) (hspares : Spares w place)
    (hentry : w.files.entry? place = some entry) :
    FileTree.entry? (w.logged steps).files place = some entry := by
  induction steps generalizing w with
  | nil => exact hentry
  | cons step steps ih =>
    obtain ⟨hstep, hsteps⟩ := succeed_cons_iff.1 h
    obtain ⟨hfirst, hrest⟩ := List.forall_mem_cons.1 hplace
    obtain ⟨hentry₁, hspares₁⟩ := entry?_perform hstep.perform_singleton hfirst hspares hentry
    rw [← List.singleton_append, hstep.logged_append]
    rw [← hstep.folder_logged] at hrest
    exact ih hsteps hrest hspares₁ hentry₁

/-- Records always can be made, and make no difference to where the next one goes. -/
theorem logsWith_reports {threshold : Level} {file? : Option Place}
    (hsteps : ∀ step ∈ steps, step.isReport) (h : w.LogsWith threshold file?) :
    Succeed w steps ∧ (w.logged steps).LogsWith threshold file? := by
  induction steps generalizing w with
  | nil => exact ⟨rfl, h⟩
  | cons step steps ih =>
    obtain ⟨hfirst, hrest⟩ := List.forall_mem_cons.1 hsteps
    obtain ⟨hok, honly⟩ := onlyLogs_perform hfirst w
    have hstep : Succeed w [step] := by
      unfold Succeed
      rw [run, Session.perform_bind_of_ok (Session.perform_eq_of_result hok)]
      rfl
    rw [← logged_singleton] at honly
    obtain ⟨hsteps', hlogs⟩ := ih hrest (h.of_onlyLogs honly)
    rw [← List.singleton_append, succeed_append_iff, hstep.logged_append]
    exact ⟨⟨hstep, hsteps'⟩, hlogs⟩

/-! ### What setting up comes to -/

variable {verbose : Bool} {file? : Option Path} {before after : List LogStep}

/-- When the logger has been set up, it writes to the file that the step names, or to none. -/
theorem Succeed.logsWith (h : Succeed w (before ++ [setUp verbose file?])) :
    (w.logged (before ++ [setUp verbose file?])).LogsWith (Logger.thresholdOf verbose)
      (file?.map fun p => (p.resolve w.folder).steps) := by
  obtain ⟨hbefore, hsetUp⟩ := succeed_append_iff.1 h
  have hlogs := Session.logsWith_setUpLog hsetUp.perform_singleton
  rwa [hbefore.folder_logged, ← hbefore.logged_append] at hlogs

/-- What becomes of a record that is made before the logger is set up again. -/
theorem Succeed.sends {start between : List LogStep} {threshold : Level} {place? : Option Place}
    (h : Succeed w start) (hlogs : (w.logged start).LogsWith threshold place?)
    (hbetween : ∀ step ∈ between, step.isReport) (reporter : Reporter) (level : Level)
    (message : String) (owner? : Option String)
    (hfiled : Topic.isFiled
      (topic reporter.name? :: (w.logged (start ++ between)).topics) (topic reporter.name?)) :
    Workspace.Sends threshold place? level
      ("[signalgen] " ++ level.name ++ " " ++
        (ownerTag owner? reporter.owner? ++ message ++ "\n"))
      ((w.logged (start ++ between)).time ++ " " ++ level.name ++ " " ++ topic reporter.name? ++
        ": " ++ (ownerTag owner? reporter.owner? ++ message ++ "\n"))
      (w.logged (start ++ between))
      (w.logged (start ++ between ++ [report reporter level message owner?])) := by
  obtain ⟨hsucceed, hlogs'⟩ := logsWith_reports hbetween hlogs
  have hdone : Succeed w (start ++ between) := succeed_append_iff.2 ⟨h, hsucceed⟩
  rw [← h.logged_append] at hlogs'
  rw [hdone.logged_append, logged_singleton, perform_report]
  have hsends := hlogs'.sends_report (r := reporter.record level message owner?) hfiled
  rwa [shown_record, written_record] at hsends

/-- When the logger has been set up, a file stays as it is until a step names it, whatever has been
written to it before. -/
theorem Succeed.entry?_eq_of_later {place : Place} {entry : FileEntry}
    (h : Succeed w (before ++ setUp verbose file? :: after))
    (hplace : ∀ step ∈ setUp verbose file? :: after, step.place? w.folder ≠ some place)
    (hentry : FileTree.entry? (w.logged before).files place = some entry) :
    FileTree.entry? (w.logged (before ++ setUp verbose file? :: after)).files place =
      some entry := by
  obtain ⟨hbefore, hlater⟩ := succeed_append_iff.1 h
  obtain ⟨hsetUp, hafter⟩ := succeed_cons_iff.1 hlater
  rw [← hbefore.folder_logged] at hplace
  obtain ⟨hfirst, hrest⟩ := List.forall_mem_cons.1 hplace
  obtain ⟨hkept, hspares⟩ := entry?_setUp hsetUp.perform_singleton hfirst hentry
  rw [hbefore.logged_append, ← List.singleton_append, hsetUp.logged_append]
  rw [← hsetUp.folder_logged] at hrest
  exact hafter.entry?_logged hrest hspares hkept

/-- No step of several ones takes anything away from a file. -/
theorem Succeed.grows {rest : List LogStep} (h : Succeed w (before ++ step :: rest)) :
    (w.logged before).files.Grows (w.logged (before ++ [step])).files := by
  rw [(succeed_append_iff.1 h).1.logged_append, logged_singleton]
  exact grows_perform step _

end LogStep

open LogStep

/--
Steps have been done one after the other, one of which has set the logger up.

Whatever handlers the logger has had before, it then has one for the user, and one for a file if the
step names one, which is open at the place that the step names. Each record of the library that is
made before the logger is set up again is written once to the user and once to the end of this file
if its level is high enough, and nowhere else, with the owner in front that it has been given, or
else with that of its reporter.

Files that neither this step nor a later one names do not change any more; and no step ever takes
anything away from a file.
-/
theorem Session.log_follows_latest (w : Workspace) (before after : List LogStep) (verbose : Bool)
    (file? : Option Path)
    (h : Succeed w (before ++ setUp verbose file? :: after)) :
    let steps := before ++ setUp verbose file? :: after
    let start := before ++ [setUp verbose file?]
    let threshold := Logger.thresholdOf verbose
    let place? := file?.map fun p => (p.resolve w.folder).steps
    (∃ open? : Option LogFile, open?.map LogFile.place = place? ∧
      (w.logged start).logger = {
        level? := some threshold
        propagates := false
        handlers := { sink := .user, level := threshold } ::
          (open?.map fun f => { sink := .file (some f), level := threshold }).toList }) ∧
    (∀ between reporter level message owner? rest,
      after = between ++ report reporter level message owner? :: rest →
      (∀ step ∈ between, step.isReport) →
      let w₁ := w.logged (start ++ between)
      let topic := topic reporter.name?
      let text := ownerTag owner? reporter.owner? ++ message ++ "\n"
      Topic.isFiled (topic :: w₁.topics) topic →
      Workspace.Sends threshold place? level
        ("[signalgen] " ++ level.name ++ " " ++ text)
        (w₁.time ++ " " ++ level.name ++ " " ++ topic ++ ": " ++ text)
        w₁ (w.logged (start ++ between ++ [report reporter level message owner?]))) ∧
    (∀ place number content,
      FileTree.entry? (w.logged before).files place = some (.file number content) →
      (∀ step ∈ setUp verbose file? :: after, step.place? w.folder ≠ some place) →
      FileTree.entry? (w.logged steps).files place = some (.file number content)) ∧
    ∀ done step rest, steps = done ++ step :: rest →
      (w.logged done).files.Grows (w.logged (done ++ [step])).files := by
  intro steps start threshold place?
  have hsplit : before ++ setUp verbose file? :: after = start ++ after := by simp [start]
  have hstart : Succeed w start := (succeed_append_iff.1 (hsplit ▸ h)).1
  obtain ⟨open?, hlogger, hplace, -⟩ := hstart.logsWith
  refine ⟨⟨open?, hplace, hlogger⟩, ?_, ?_, ?_⟩
  · intro between reporter level message owner? rest _ hbetween w₁ topic text hfiled
    exact hstart.sends hstart.logsWith hbetween reporter level message owner? hfiled
  · intro place number content hentry hplace
    exact Succeed.entry?_eq_of_later h hplace hentry
  · intro done step rest hsteps
    have hall : Succeed w steps := h
    exact Succeed.grows (hsteps ▸ hall)

namespace Session

/-- A folder with a log of an earlier session. The logger shows each record twice. -/
def loggedBefore : Workspace where
  folder := { root := .top, steps := ["r"] }
  home := { root := .top, steps := ["r", "home"] }
  time := "<time>"
  files := { entries := [(["r"], .folder), (["r", "a"], .file 0 "old\n".toUTF8)], next := 1 }
  logger := { handlers := [{ sink := .user, level := .debug }, { sink := .user, level := .debug }] }

/-- The log goes to `a` first, and then to a new file in a new folder. -/
theorem log_follows_latest_loggedBefore :
    let a : Path := { root := .here, steps := ["a"] }
    let b : Path := { root := .here, steps := ["logs", "..", "logs", "b"] }
    let reporter : Reporter := { name? := some "x", owner? := some "A" }
    let before := [setUp true (some a), .report reporter .debug "one" none]
    let start := before ++ [setUp false (some b)]
    let between := [LogStep.report reporter .debug "two" none]
    let last := LogStep.report reporter .info "three" (some "B")
    let w₁ := loggedBefore.logged (start ++ between)
    Succeed loggedBefore (before ++ setUp false (some b) :: (between ++ [last])) ∧
      Topic.isFiled (topic reporter.name? :: w₁.topics) (topic reporter.name?) = true ∧
      Workspace.Sends .info (some ["r", "logs", "b"]) .info "[signalgen] INFO B: three\n"
        "<time> INFO signalgen.x: B: three\n" w₁
        (loggedBefore.logged (start ++ between ++ [last])) ∧
      FileTree.entry? (loggedBefore.logged (start ++ between ++ [last])).files ["r", "a"] =
        some (.file 0 "old\n<time> DEBUG signalgen.x: A: one\n".toUTF8) := by
  intro a b reporter before start between last w₁
  have hsucceed : Succeed loggedBefore (before ++ setUp false (some b) :: (between ++ [last])) := by
    unfold Succeed
    decide +kernel
  have hfiled : Topic.isFiled (topic reporter.name? :: w₁.topics) (topic reporter.name?) = true :=
    Topic.isFiled_topic _ (by decide)
  obtain ⟨-, hsends, hkept, -⟩ :=
    log_follows_latest loggedBefore before (between ++ [last]) false (some b) hsucceed
  have hlast := hsends between reporter .info "three" (some "B") [] rfl (by decide) hfiled
  have hold : FileTree.entry? (loggedBefore.logged before).files ["r", "a"] =
      some (.file 0 "old\n<time> DEBUG signalgen.x: A: one\n".toUTF8) := by decide +kernel
  have hplace : (some b).map (fun p => (p.resolve loggedBefore.folder).steps) =
      some ["r", "logs", "b"] := by decide
  have htime : w₁.time = "<time>" := by decide +kernel
  have hshown : "[signalgen] " ++ Level.info.name ++ " " ++
      (ownerTag (some "B") reporter.owner? ++ "three" ++ "\n") =
      "[signalgen] INFO B: three\n" := by decide +kernel
  have hwritten : "<time>" ++ " " ++ Level.info.name ++ " " ++ topic reporter.name? ++ ": " ++
      (ownerTag (some "B") reporter.owner? ++ "three" ++ "\n") =
      "<time> INFO signalgen.x: B: three\n" := by decide +kernel
  rw [hplace, hshown, htime, hwritten] at hlast
  exact ⟨hsucceed, hfiled, hlast, hkept ["r", "a"] _ _ hold (by decide)⟩

end Session

end SignalBinding
