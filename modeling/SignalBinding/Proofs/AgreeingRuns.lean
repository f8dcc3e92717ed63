import SignalBinding.Proofs.AlikeWorkspaces
import SignalBinding.Proofs.ToldRecords

/-!
# Runs that agree

Twin workspaces cannot be told apart by looking at files and by what becomes of records: their files
look alike, and their loggers do the same with all records. A run in one of two twins is like a run
in the other. A command sets the logger up anew, so workspaces with files that look alike are enough
for it.

## Main definitions

- `Workspace.Twins`: workspaces whose files and loggers look alike
- `Workspace.Since`: related workspaces that have shown the same for a while
- `Session.Respects`: a step gives the same result in related workspaces, and keeps them related

## Main statements

- `Session.respects_run`: a run goes the same way in twin workspaces
- `Session.command_alike`: a command only depends on what the files look like
-/

namespace SignalBinding

open CommandLine

namespace Workspace

/-- The loggers are the same and have no file, or both have been set up in the same way with a file
at the same place, of which the number may differ. -/
inductive SameLoggers (w w' : Workspace) : Prop
  | noFile (hfile : w.logFiles = []) (hlogger : w'.logger = w.logger)
  | file {level : Level} {place : Place} {number number' : Nat}
    (hlogger : w.logger = .setUp level (some { place, number }))
    (hlogger' : w'.logger = .setUp level (some { place, number := number' }))
    (hfile : w.files.HasFile place number) (hfile' : w'.files.HasFile place number')

/-- Workspaces whose files and loggers look alike. -/
structure Twins (w w' : Workspace) : Prop where
  alike : Alike (fun _ => False) w w'
  time : w'.time = w.time
  loggers : SameLoggers w w'

variable {w w' : Workspace}

theorem Twins.shownOf (h : Twins w w') (rs : List Record) :
    w'.logger.shownOf rs = w.logger.shownOf rs := by
  cases h.loggers with
  | noFile _ hlogger => rw [hlogger]
  | file hlogger hlogger' _ _ =>
    rw [hlogger, hlogger', Logger.shownOf_setUp, Logger.shownOf_setUp]

theorem Twins.record (h : Twins w w') (r : Record) : Twins (w.record r) (w'.record r) := by
  cases h.loggers with
  | noFile hfile hlogger =>
    have hfile' : w'.logFiles = [] := by rw [logFiles, hlogger]; exact hfile
    have hrecord : w.record r = w.under w.logger _ := record_under hfile w w.shown r
    have hrecord' : w'.record r = w'.under w'.logger _ := record_under hfile' w' w'.shown r
    rw [hrecord, hrecord']
    exact ⟨⟨h.alike.libraries, h.alike.folder, h.alike.home, h.alike.files⟩, h.time,
      .noFile hfile hlogger⟩
  | file hlogger hlogger' hfile hfile' =>
    rw [record_eq, record_eq]
    refine ⟨⟨h.alike.libraries, h.alike.folder, h.alike.home, ?_⟩, h.time,
      .file hlogger hlogger' (hfile.receive _) (hfile'.receive _)⟩
    dsimp only
    rw [hlogger, hlogger', Logger.written_setUp, Logger.written_setUp, h.time]
    split
    · exact h.alike.files.append hfile hfile' _
    · exact h.alike.files

theorem Twins.foldl_record (h : Twins w w') (rs : List Record) :
    Twins (rs.foldl Workspace.record w) (rs.foldl Workspace.record w') := by
  induction rs generalizing w w' with
  | nil => exact h
  | cons r rs ih => exact ih (h.record r)

theorem Twins.writeInto (h : Twins w w') (folder way : List String) (content : ByteArray) :
    Twins { w with files := (w.files.writeInto folder way content).2 }
      { w' with files := (w'.files.writeInto folder way content).2 } := by
  refine ⟨⟨h.alike.libraries, h.alike.folder, h.alike.home, (h.alike.files.writeInto ..).2⟩,
    h.time, ?_⟩
  cases h.loggers with
  | noFile hfile hlogger => exact .noFile hfile hlogger
  | file hlogger hlogger' hfile hfile' =>
    exact .file hlogger hlogger' (hfile.writeInto ..) (hfile'.writeInto ..)

theorem Alike.templatesFor (h : Alike (fun _ => False) w w') (c : Config) :
    w'.templatesFor c none = w.templatesFor c none := by
  cases hfolder : c.templates? with
  | none => simp only [Workspace.templatesFor, hfolder]
  | some folder => simp only [Workspace.templatesFor, hfolder, h.templates]

end Workspace

/-- `R` relates the workspaces, and since `shown` and `shown'` both have shown the same. -/
structure Workspace.Since (R : Workspace → Workspace → Prop) (shown shown' : String)
    (w w' : Workspace) : Prop where
  related : R w w'
  shown : ∃ text, w.shown = shown ++ text ∧ w'.shown = shown' ++ text

theorem Workspace.Since.foldl_record {w w' : Workspace} {s s' : String}
    (h : Since Twins s s' w w') (rs : List Record) :
    Since Twins s s' (rs.foldl Workspace.record w) (rs.foldl Workspace.record w') := by
  obtain ⟨htwins, text, hshown, hshown'⟩ := h
  refine ⟨htwins.foldl_record rs, text ++ w.logger.shownOf rs, ?_, ?_⟩
  · rw [shown_foldl_record, hshown, String.append_assoc]
  · rw [shown_foldl_record, htwins.shownOf, hshown', String.append_assoc]

namespace Session

open Workspace (Twins Since)

variable {α β : Type} {R S : Workspace → Workspace → Prop} {x : Session α} {f : α → Session β}
  {w w' : Workspace} {s s' : String}

/-- From workspaces that `R` relates, the step gives the same result and leaves such workspaces. -/
def Respects (R : Workspace → Workspace → Prop) (x : Session α) : Prop :=
  ∀ w w', R w w' → (x.perform w).1 = (x.perform w').1 ∧ R (x.perform w).2 (x.perform w').2

theorem Respects.bind (hx : Respects R x) (hf : ∀ a, Respects R (f a)) : Respects R (x >>= f) := by
  intro w w' h
  obtain ⟨hresult, hbehind⟩ := hx w w' h
  rw [perform_bind, perform_bind]
  rcases hperform : x.perform w with ⟨e | a, w₁⟩ <;>
    rcases hperform' : x.perform w' with ⟨e' | a', w₁'⟩ <;>
    rw [hperform, hperform'] at hresult hbehind <;> cases hresult
  · exact ⟨rfl, hbehind⟩
  · exact hf a w₁ w₁' hbehind

/-- A step that only reads respects a relation if it finds the same in related workspaces. -/
theorem Reads.respects (h : x.Reads)
    (hresult : ∀ w w', R w w' → (x.perform w).1 = (x.perform w').1) : Respects R x := by
  intro w w' hR
  refine ⟨hresult w w' hR, ?_⟩
  rw [h.perform w, h.perform w']
  exact hR

theorem respects_pure (a : α) : Respects R (pure a : Session α) :=
  (reads_pure a).respects fun _ _ _ => rfl

theorem respects_get_bind {f : Workspace → Session α} (hf : ∀ w, Respects R (f w))
    (hsame : ∀ w w', R w w' → f w' = f w) : Respects R (get >>= f) := by
  intro w w' h
  rw [perform_bind_of_ok (perform_get w), perform_bind_of_ok (perform_get w'), hsame w w' h]
  exact hf w w w' h

theorem stepKind_respects (htell : ∀ r, Respects R (tell r)) : StepKind (Respects R) where
  pure := respects_pure
  bind := Respects.bind
  tell := htell

/-! ### Twins -/

theorem respects_tell (r : Record) : Respects (Since Twins s s') (tell r) :=
  fun _ _ h => ⟨rfl, h.foldl_record [r]⟩

theorem respects_writeText (p : Path) (text : String) :
    Respects (Since Twins s s') (writeText p text) := by
  rintro w w' ⟨h, hshown⟩
  rw [perform_writeText, perform_writeText, ← h.alike.way, ← h.alike.way,
    (h.alike.files.writeInto ..).1]
  exact ⟨rfl, h.writeInto .., hshown⟩

theorem respects_generate (b : Bridge) (c : Config) :
    Respects (Since Twins s s') (generate b c none) := by
  intro w w' h
  rw [perform_generate, perform_generate, h.related.alike.templatesFor]
  exact ⟨rfl, h.foldl_record _⟩

theorem respects_configuration (q : RunRequest) (path : Path) :
    Respects (Since Twins s s') (configuration q path) := by
  have hload (p : Path) : Respects (Since Twins s s') (loadConfig p) :=
    (reads_loadConfig p).respects fun _ _ h => h.related.alike.loadConfig fun _ _ => id
  unfold configuration
  split
  · exact respects_pure _
  · exact hload _
  · exact hload _

theorem respects_loadBridge (path : Path) : Respects (Since Twins s s') (loadBridge path) :=
  (reads_loadBridge path).respects fun _ _ h => h.related.alike.loadBridge fun _ _ => id

variable {q : RunRequest}

theorem respects_prepare (hown : q.ownTemplates? = none) :
    Respects (Since Twins s s') (prepare q) := by
  refine (stepKind_respects respects_tell).prepare ?_ (respects_configuration q)
    respects_loadBridge ?_
  · intro α f hf
    refine respects_get_bind (fun w => hf (q.path w)) fun w w' h => ?_
    rw [h.related.alike.path]
  · rw [hown]
    exact respects_generate

/-- A run that shares no templates with other runs goes the same way in twin workspaces. -/
theorem respects_run (hown : q.ownTemplates? = none) : Respects (Since Twins s s') (run q) :=
  (stepKind_respects respects_tell).run (respects_prepare hown) respects_writeText

/-! ### Commands -/

/-- Setting the logger up makes twins of workspaces whose files look alike, whatever their loggers
have been. -/
theorem setUpLog_twins (h : w.Alike (fun _ => False) w') (htime : w'.time = w.time)
    (verbose : Bool) (file? : Option Path) :
    ((setUpLog verbose file?).perform w).1 = ((setUpLog verbose file?).perform w').1 ∧
      Since Twins w.shown w'.shown ((setUpLog verbose file?).perform w).2
        ((setUpLog verbose file?).perform w').2 := by
  have hshown : ∃ text, w.shown = w.shown ++ text ∧ w'.shown = w'.shown ++ text :=
    ⟨"", String.append_empty.symm, String.append_empty.symm⟩
  have htwins {files files' : FileTree} {level : Level}
      (halike : FileTree.Alike (fun _ => False) files files') : Since Twins w.shown w'.shown
        { w with files, logger := .setUp level none }
        { w' with files := files', logger := .setUp level none } :=
    ⟨⟨⟨h.libraries, h.folder, h.home, halike⟩, htime, .noFile Logger.files_setUp rfl⟩, hshown⟩
  rw [perform_setUpLog, perform_setUpLog]
  cases file? with
  | none => exact ⟨rfl, htwins h.files⟩
  | some p =>
    have hresolve : p.resolve w'.folder = p.resolve w.folder := by rw [h.folder]
    obtain ⟨hsame, halike⟩ := h.files.makeFolders (w.way p.parent)
    dsimp only
    rw [hresolve, ← h.way]
    rcases hmake : w.files.makeFolders (w.way p.parent) with ⟨error?, files⟩
    rcases hmake' : w'.files.makeFolders (w.way p.parent) with ⟨error?', files'⟩
    rw [hmake, hmake'] at hsame halike
    obtain rfl : error? = error?' := hsame
    rcases error? with _ | e
    · obtain ⟨⟨place, n, opened⟩, ⟨place', n', opened'⟩, hopen, hopen', rfl, hfiles⟩ |
        ⟨e, he, he'⟩ := (FileTree.Alike.openFile halike (p.resolve w.folder).steps).elim
      · obtain ⟨-, -, hfile, -⟩ := FileTree.openFile_spec hopen
        obtain ⟨-, -, hfile', -⟩ := FileTree.openFile_spec hopen'
        dsimp only
        rw [hopen, hopen']
        exact ⟨rfl, ⟨⟨h.libraries, h.folder, h.home, hfiles⟩, htime, .file rfl rfl hfile hfile'⟩,
          hshown⟩
      · dsimp only
        rw [he, he']
        exact ⟨rfl, htwins halike⟩
    · exact ⟨rfl, htwins halike⟩

/-- Up to its report, a command goes the same way wherever the files look alike. -/
theorem reported_alike (g : Generate) (h : w.Alike (fun _ => False) w') (htime : w'.time = w.time) :
    ((reported g).perform w).1 = ((reported g).perform w').1 ∧
      Since (Workspace.Alike fun _ => False) w.shown w'.shown ((reported g).perform w).2
        ((reported g).perform w').2 := by
  have hload : ((loadConfig (g.configPath w.folder w.home)).perform w).1 =
      ((loadConfig (g.configPath w'.folder w'.home)).perform w').1 := by
    rw [h.folder, h.home]
    exact h.loadConfig fun _ _ => id
  cases hc : ((loadConfig (g.configPath w.folder w.home)).perform w).1 with
  | error e =>
    rw [perform_reported_of_load_error hc, perform_reported_of_load_error (hload ▸ hc)]
    exact ⟨rfl, h, "", String.append_empty.symm, String.append_empty.symm⟩
  | ok c =>
    obtain ⟨hresult, hbehind⟩ := setUpLog_twins h htime (g.verbose || c.verbose) c.logFile?
    rw [perform_reported_of_load hc, perform_reported_of_load (hload ▸ hc), h.home]
    generalize setUpLog (g.verbose || c.verbose) c.logFile? = setUp at hresult hbehind ⊢
    rcases hset : setUp.perform w with ⟨e | ⟨⟩, w₁⟩ <;>
      rcases hset' : setUp.perform w' with ⟨e' | ⟨⟩, w₁'⟩ <;>
      rw [hset, hset'] at hresult hbehind <;> cases hresult
    · exact ⟨rfl, hbehind.related.alike, hbehind.shown⟩
    · obtain ⟨hrun, hend⟩ := respects_run (q := g.requestWith w.home c) rfl w₁ w₁' hbehind
      dsimp only
      rw [hrun]
      exact ⟨rfl, hend.related.alike, hend.shown⟩

/--
A command goes the same way in workspaces whose files look alike, whatever their loggers have been:
it ends in the same way, shows the same, and leaves files that look alike.
-/
theorem command_alike (arguments : List String) (h : w.Alike (fun _ => False) w')
    (htime : w'.time = w.time) :
    ((command arguments).perform w).1 = ((command arguments).perform w').1 ∧
      Since (Workspace.Alike fun _ => False) w.shown w'.shown ((command arguments).perform w).2
        ((command arguments).perform w').2 := by
  rw [command]
  split
  next g _ =>
    obtain ⟨hresult, hbehind, text, hshown, hshown'⟩ := reported_alike g h htime
    rw [perform_generateCommand_eq, perform_generateCommand_eq, ← hresult]
    refine ⟨rfl, hbehind.show _ _, text ++ endText ((reported g).perform w).1, ?_, ?_⟩
    · rw [Workspace.shown_show, hshown, String.append_assoc]
    · rw [Workspace.shown_show, hshown', String.append_assoc]
  all_goals exact ⟨rfl, h, "", String.append_empty.symm, String.append_empty.symm⟩

end Session

end SignalBinding
