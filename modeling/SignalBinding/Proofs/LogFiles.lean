import SignalBinding.Proofs.AlikeTrees
import SignalBinding.Proofs.StepKinds

/-!
# What log files receive

Steps that make records and write no file of their own change the files by what open log files
receive, and by nothing else. Up to the point where a run has its texts, all of its steps are of
that kind. Opening a log file makes the file, and the folders on the way to it.

## Main definitions

- `Workspace.Logged`: files as they are when log files have received something
- `Workspace.OnlyLogs`: whether nothing but logging has gone on
- `FileTree.OnlyFile`: whether only one file and the folders on the way to it have changed
-/

namespace SignalBinding

/-- Lines only change the files that they are for. -/
theorem FileTree.agreeOutside_receive (tree : FileTree) (lines : LogLines) :
    AgreeOutside (lines.map (·.1.place)) tree (tree.receive lines) := by
  induction lines generalizing tree with
  | nil => exact .refl _ _
  | cons line lines ih =>
    have hline := agreeOutside_append tree line.1.place line.1.number line.2
    exact (hline.mono (by simp)).trans ((ih _).mono (List.subset_cons_self _ _))

/-- Lines for one file only are received as one text. -/
theorem FileTree.exists_receive_eq_append (tree : FileTree) {f : LogFile} {lines : LogLines}
    (h : ∀ line ∈ lines, line.1 = f) :
    ∃ more, tree.receive lines = tree.append f.place f.number more := by
  induction lines generalizing tree with
  | nil => exact ⟨.empty, (append_empty _ _ _).symm⟩
  | cons line lines ih =>
    obtain ⟨hline, hlines⟩ := List.forall_mem_cons.1 h
    obtain ⟨more, hmore⟩ := ih (tree.append line.1.place line.1.number line.2) hlines
    refine ⟨line.2 ++ more, hmore.trans ?_⟩
    rw [hline, append_append]

namespace Workspace

/-- The files are those of `w` when its open log files have received some lines. -/
def Logged (w : Workspace) (files : FileTree) : Prop :=
  ∃ lines : LogLines, (∀ line ∈ lines, line.1 ∈ w.logFiles) ∧ files = w.files.receive lines

/-- From `w` to `w'`, the files change by what open log files receive at most. -/
structure OnlyLogs (w w' : Workspace) : Prop where
  folder : w'.folder = w.folder
  logger : w'.logger = w.logger
  files : w.Logged w'.files

variable {w w' w₁ w₂ w₃ : Workspace} {files : FileTree}

theorem logged_self (w : Workspace) : w.Logged w.files :=
  ⟨[], List.forall_mem_nil _, rfl⟩

theorem Logged.eq_of_no_file (h : w.Logged files) (hlog : w.logFiles = []) : files = w.files := by
  obtain ⟨lines, hlines, rfl⟩ := h
  obtain rfl : lines = [] := List.eq_nil_iff_forall_not_mem.2 fun line hline => by
    simpa [hlog] using hlines line hline
  rfl

/-- If records go to one file only, it grows by one text. -/
theorem Logged.exists_eq_append {f : LogFile} (h : w.Logged files) (hlog : w.logFiles = [f]) :
    ∃ more, files = w.files.append f.place f.number more := by
  obtain ⟨lines, hlines, rfl⟩ := h
  exact w.files.exists_receive_eq_append fun line hline => by simpa [hlog] using hlines line hline

theorem OnlyLogs.of_files_eq (hfolder : w'.folder = w.folder) (hlogger : w'.logger = w.logger)
    (hfiles : w'.files = w.files) : OnlyLogs w w' :=
  ⟨hfolder, hlogger, hfiles ▸ w.logged_self⟩

theorem OnlyLogs.refl (w : Workspace) : OnlyLogs w w := .of_files_eq rfl rfl rfl

theorem OnlyLogs.logFiles_eq (h : OnlyLogs w w') : w'.logFiles = w.logFiles :=
  congrArg Logger.files h.logger

theorem OnlyLogs.trans (h : OnlyLogs w₁ w₂) (h' : OnlyLogs w₂ w₃) : OnlyLogs w₁ w₃ := by
  obtain ⟨lines, hlines, hfiles⟩ := h.files
  obtain ⟨lines', hlines', hfiles'⟩ := h'.files
  rw [h.logFiles_eq] at hlines'
  refine ⟨h'.folder.trans h.folder, h'.logger.trans h.logger, lines ++ lines',
    List.forall_mem_append.2 ⟨hlines, hlines'⟩, ?_⟩
  rw [hfiles', hfiles, FileTree.receive_append]

/-- The files are as they were if no log file is open. -/
theorem OnlyLogs.files_eq (h : OnlyLogs w w') (hlog : w.logFiles = []) : w'.files = w.files :=
  h.files.eq_of_no_file hlog

theorem onlyLogs_record (w : Workspace) (r : Record) : OnlyLogs w (w.record r) := by
  rw [record_eq]
  exact ⟨rfl, rfl, _, fun _ => Logger.mem_files_of_mem_written, rfl⟩

theorem onlyLogs_foldl_record (w : Workspace) (rs : List Record) :
    OnlyLogs w (rs.foldl record w) := by
  induction rs generalizing w with
  | nil => exact .refl w
  | cons r rs ih => exact (onlyLogs_record w r).trans (ih (w.record r))

theorem onlyLogs_settle (w : Workspace) (b : Bridge) (c : Config) (ownTemplates? : Option String) :
    OnlyLogs w (w.settle b c ownTemplates?) := by
  cases ownTemplates? <;> exact .of_files_eq rfl rfl rfl

end Workspace

namespace Session

variable {α β : Type} {x : Session α} {f : α → Session β} {w : Workspace}

/-- The step changes the files by what open log files receive at most. -/
def OnlyLogs (step : Session α) : Prop :=
  ∀ w : Workspace, w.OnlyLogs (step.perform w).2

theorem OnlyLogs.of_perform (h : x.OnlyLogs) {result : Except Failure α} {w' : Workspace}
    (hperform : x.perform w = (result, w')) : w.OnlyLogs w' := by
  have hw := h w
  rwa [hperform] at hw

theorem Reads.onlyLogs (h : x.Reads) : x.OnlyLogs := by
  intro w
  rw [h.perform w]
  exact .refl w

theorem OnlyLogs.bind (hx : x.OnlyLogs) (hf : ∀ a, (f a).OnlyLogs) : (x >>= f).OnlyLogs := by
  intro w
  rw [perform_bind]
  rcases hperform : x.perform w with ⟨e | a, w₁⟩
  · exact hx.of_perform hperform
  · exact (hx.of_perform hperform).trans (hf a w₁)

theorem onlyLogs_get_bind {f : Workspace → Session α} (h : ∀ w, (f w).OnlyLogs) :
    (get >>= f).OnlyLogs := by
  intro w
  rw [perform_bind_of_ok (perform_get w)]
  exact h w w

theorem onlyLogs_tell (r : Record) : (tell r).OnlyLogs := fun w => w.onlyLogs_record r

theorem onlyLogs_generate (b : Bridge) (c : Config) (ownTemplates? : Option String) :
    (generate b c ownTemplates?).OnlyLogs := by
  intro w
  rw [perform_generate]
  exact (w.onlyLogs_settle b c ownTemplates?).trans (Workspace.onlyLogs_foldl_record _ _)

theorem stepKind_onlyLogs : StepKind OnlyLogs where
  pure a := (reads_pure a).onlyLogs
  bind := OnlyLogs.bind
  tell := onlyLogs_tell

/-- A run that has got its texts has written no file but the log file. -/
theorem onlyLogs_prepare (q : RunRequest) : (prepare q).OnlyLogs :=
  stepKind_onlyLogs.prepare (fun hf => onlyLogs_get_bind fun w => hf (q.path w))
    (fun path => (reads_configuration q path).onlyLogs)
    (fun path => (reads_loadBridge path).onlyLogs) fun b c => onlyLogs_generate b c q.ownTemplates?

end Session

/-! ### Opening a log file -/

namespace FileTree

variable {tree tree' t₁ t₂ t₃ : FileTree} {way : List String}

/-- The trees differ by the file at the end of the way, and by folders on the way to it, at most. -/
structure OnlyFile (way : List String) (tree tree' : FileTree) : Prop where
  outside : AgreeOutside (placesOnWay [] way) tree tree'
  kept : ∀ p ≠ Path.cancel [] way, ∀ e, tree.entry? p = some e → tree'.entry? p = some e

theorem OnlyFile.trans (h : OnlyFile way t₁ t₂) (h' : OnlyFile way t₂ t₃) : OnlyFile way t₁ t₃ :=
  ⟨h.outside.trans h'.outside, fun p hp e he => h'.kept p hp e (h.kept p hp e he)⟩

theorem OnlyFile.of_agreeOutside {place : Place} (hne : place ≠ [])
    (hplace : place = Path.cancel [] way) (h : AgreeOutside [place] tree tree') :
    OnlyFile way tree tree' := by
  constructor
  · refine h.mono fun p hp => ?_
    rw [List.mem_singleton.1 hp]
    obtain hmem | hpre := cancel_mem_placesOnWay [] way
    · exact hplace ▸ hmem
    · exact absurd (hplace.trans (List.prefix_nil.1 hpre)) hne
  · intro p hp e he
    rw [h p (by simpa [hplace] using hp), he]

theorem onlyFile_makeFolders {before : List String} (h : before <+: way) (tree : FileTree) :
    OnlyFile way tree (tree.makeFolders before).2 :=
  ⟨(agreeOutside_makeFolders tree before).mono (placesOnWay_subset h),
    fun p _ => extends_makeFolders tree before p⟩

/-- Opening a file takes nothing away. -/
theorem extends_openFile {place : Place} {number : Nat}
    (h : tree.openFile way = .ok (place, number, tree')) : Extends tree tree' := by
  rw [openFile] at h
  rcases hlocate : tree.locate [] way with e | q
  · simp [hlocate, bind, Except.bind] at h
  · simp only [hlocate, bind, Except.bind] at h
    split at h
    next =>
      cases h
      exact .refl tree
    next => cases h
    next hentry =>
      split at h
      · cases h
        exact extends_set_of_none hentry _
      · cases h

end FileTree

/-- Of all files, only the log file at a path changes, if there is such a path. The folders on the
way to it may come into being. -/
def Workspace.OnlyLogFile (w : Workspace) (file? : Option Path) (files : FileTree) : Prop :=
  match file? with
  | none => files = w.files
  | some p => FileTree.OnlyFile (w.way p) w.files files

namespace Session

/-- Setting the logger up takes no file away, and changes only the log file that is named. Behind
it, this file is open unless something has failed. -/
theorem setUpLog_spec (verbose : Bool) (file? : Option Path) (w : Workspace) :
    ∃ result files opened?,
      (setUpLog verbose file?).perform w = (result,
        { w with files, logger := .setUp (Logger.thresholdOf verbose) opened? }) ∧
      w.files.Extends files ∧ w.OnlyLogFile file? files ∧
      (∀ f, opened? = some f → files.HasFile f.place f.number) ∧
      (result = .ok () →
        opened?.map LogFile.place = file?.map fun p => (p.resolve w.folder).steps) := by
  rw [perform_setUpLog]
  cases file? with
  | none => exact ⟨_, w.files, none, rfl, .refl _, rfl, nofun, fun _ => rfl⟩
  | some p =>
    have hbefore : w.way p.parent <+: w.way p := by
      obtain h | ⟨step, h⟩ := w.way_parent p
      · exact h ▸ List.prefix_rfl
      · exact h ▸ List.prefix_append _ _
    have hmade := FileTree.onlyFile_makeFolders hbefore w.files
    have hextends := FileTree.extends_makeFolders w.files (w.way p.parent)
    dsimp only
    rcases hmake : w.files.makeFolders (w.way p.parent) with ⟨_ | e, tree⟩ <;>
      rw [hmake] at hmade hextends
    · dsimp only
      rcases hopen : tree.openFile (p.resolve w.folder).steps with e | ⟨place, number, tree'⟩ <;>
        dsimp only
      · exact ⟨_, tree, none, rfl, hextends, hmade, nofun, nofun⟩
      · obtain ⟨hlocate, hfolder, hfile, hagree⟩ := FileTree.openFile_spec hopen
        have hplace : place = Path.cancel [] (w.way p) := by
          rw [FileTree.eq_cancel_of_locate hlocate]
          exact Path.cancel_cancel _
        have hne := FileTree.place_ne_nil rfl hfolder
        refine ⟨_, tree', some { place, number }, rfl,
          hextends.trans (FileTree.extends_openFile hopen),
          hmade.trans (.of_agreeOutside hne hplace hagree), ?_, fun _ => congrArg some hplace⟩
        rintro f ⟨⟩
        exact hfile
    · exact ⟨_, tree, none, rfl, hextends, hmade, nofun, nofun⟩

end Session

end SignalBinding
