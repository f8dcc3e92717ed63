import SignalBinding.Proofs.AgreeingRuns
import SignalBinding.Proofs.KeptSettings

/-!
# Where records are written

A logger that has been set up writes each record that it takes to the user and, if it has a file, to
this file. Setting it up takes nothing away from the files that are there, and what is written to
the log file is put behind all that the file holds.

## Main definitions

- `Workspace.LogsWith`: a logger that has been set up
- `Workspace.Sends`: one record on its way to the user and to a file
- `FileTree.Grows`: files that are kept, but may have grown

## Main statements

- `Workspace.LogsWith.sends_report`: what becomes of one record
- `Session.logsWith_setUpLog`: the logger that has been set up
-/

namespace SignalBinding

/-! ### Files that grow -/

namespace FileTree

/-- All files of `tree` are in `tree'` as well, and start there with what they hold in `tree`. -/
def Grows (tree tree' : FileTree) : Prop :=
  ∀ place number content, tree.entry? place = some (.file number content) →
    ∃ more, tree'.entry? place = some (.file number (content ++ more))

variable {t t' t₁ t₂ t₃ : FileTree} {place : Place} {number : Nat} {way : List String}

theorem Extends.grows (h : Extends t t') : Grows t t' :=
  fun place _ content he => ⟨.empty, by rw [h place _ he, ByteArray.append_empty]⟩

theorem Grows.refl (t : FileTree) : Grows t t := (Extends.refl t).grows

theorem Grows.trans (h : Grows t₁ t₂) (h' : Grows t₂ t₃) : Grows t₁ t₃ := by
  intro place number content he
  obtain ⟨more, he⟩ := h place number content he
  obtain ⟨more', he⟩ := h' place number _ he
  exact ⟨more ++ more', by rw [he, ByteArray.append_assoc]⟩

theorem entry?_append_of_file {content : ByteArray}
    (h : t.entry? place = some (.file number content)) (more : ByteArray) (p : Place) :
    FileTree.entry? (t.append place number more) p =
      if p = place then some (.file number (content ++ more)) else t.entry? p := by
  rw [append_of_file h, entry?_set _ (place_ne_nil h (by simp))]

theorem grows_append (t : FileTree) (place : Place) (number : Nat) (more : ByteArray) :
    Grows t (t.append place number more) := by
  by_cases h : t.HasFile place number
  · obtain ⟨content, h⟩ := h
    intro p n c hp
    rw [entry?_append_of_file h]
    split
    next heq =>
      rw [heq, h] at hp
      cases hp
      exact ⟨more, rfl⟩
    next => exact ⟨.empty, by rw [hp, ByteArray.append_empty]⟩
  · rw [append_of_no_file (by simpa [HasFile] using h)]
    exact .refl t

theorem grows_receive (t : FileTree) (lines : LogLines) : Grows t (t.receive lines) := by
  induction lines generalizing t with
  | nil => exact .refl t
  | cons line lines ih => exact (grows_append t _ _ _).trans (ih _)

end FileTree

namespace Workspace

variable {w w' : Workspace} {r : Record}

/-- The logger has been set up with a threshold, and with an open file at a place or with none. -/
def LogsWith (w : Workspace) (threshold : Level) (file? : Option Place) : Prop :=
  ∃ opened?, w.logger = .setUp threshold opened? ∧ opened?.map LogFile.place = file? ∧
    ∀ f, opened? = some f → w.files.HasFile f.place f.number

theorem LogsWith.logFiles {threshold : Level} {file? : Option Place}
    (h : w.LogsWith threshold file?) {f : LogFile} (hf : f ∈ w.logFiles) :
    file? = some f.place := by
  obtain ⟨opened?, hlogger, rfl, -⟩ := h
  rw [Workspace.logFiles, hlogger, Logger.files_setUp, Option.mem_toList] at hf
  rw [hf]
  rfl

/-! ### One record -/

/--
A record with the lines `shown` and `written` has been made between `w` and `w'`. If it is at or
above the threshold, the first line has been shown to the user and the other one has been written to
the end of the file, if there is one; nothing has become of it otherwise, or elsewhere.
-/
structure Sends (threshold : Level) (file? : Option Place) (level : Level) (shown written : String)
    (w w' : Workspace) : Prop where
  user : w'.shown = w.shown ++ if threshold.rank ≤ level.rank then shown else ""
  file : ∀ place, file? = some place → ∃ number content,
    w.files.entry? place = some (.file number content) ∧
      w'.files.entry? place = some (.file number
        (content ++ (if threshold.rank ≤ level.rank then written else "").toUTF8))
  elsewhere : ∀ place, file? ≠ some place → w'.files.entry? place = w.files.entry? place

theorem LogsWith.sends_record {threshold : Level} {file? : Option Place}
    (h : w.LogsWith threshold file?) (r : Record) :
    Sends threshold file? r.level r.shown (r.written w.time) w (w.record r) := by
  obtain ⟨opened?, hlogger, rfl, hfile⟩ := h
  rw [record_eq, hlogger, Logger.shownOf_singleton, Logger.shown_setUp, Logger.written_setUp]
  by_cases htakes : threshold.rank ≤ r.level.rank
  · rw [if_pos htakes, if_pos htakes]
    cases opened? with
    | none => exact ⟨by rw [if_pos htakes], by simp, fun _ _ => rfl⟩
    | some f =>
      obtain ⟨content, hentry⟩ := hfile f rfl
      refine ⟨by rw [if_pos htakes], ?_, fun p hp => ?_⟩
      · rintro place ⟨⟩
        rw [if_pos htakes]
        exact ⟨f.number, content, hentry,
          (FileTree.entry?_append_of_file hentry _ f.place).trans (if_pos rfl)⟩
      · exact (FileTree.entry?_append_of_file hentry _ p).trans
          (if_neg fun heq => hp (congrArg some heq.symm))
  · rw [if_neg htakes, if_neg htakes]
    refine ⟨by rw [if_neg htakes], fun place hplace => ?_, fun _ _ => rfl⟩
    obtain ⟨f, hf, rfl⟩ := Option.map_eq_some_iff.1 hplace
    obtain ⟨content, hentry⟩ := hfile f hf
    refine ⟨f.number, content, hentry, hentry.trans ?_⟩
    rw [if_neg htakes]
    simp

/-- A record made by a user of the library takes the same way, if its topic is the library's. -/
theorem LogsWith.sends_report {threshold : Level} {file? : Option Place}
    (h : w.LogsWith threshold file?) {r : Record}
    (hfiled : Topic.isFiled (r.topic :: w.topics) r.topic = true) :
    Sends threshold file? r.level r.shown (r.written w.time) w (w.report r) := by
  have hlogs : { w with topics := r.topic :: w.topics }.LogsWith threshold file? := h
  have hreport : w.report r = { w with topics := r.topic :: w.topics }.record r := by
    rw [report]
    exact if_pos hfiled
  rw [hreport]
  exact ⟨(hlogs.sends_record r).user, (hlogs.sends_record r).file, (hlogs.sends_record r).elsewhere⟩

/-- Whatever the topic of a record is, only open log files receive anything. -/
theorem onlyLogs_report (w : Workspace) (r : Record) : w.OnlyLogs (w.report r) := by
  let w₁ := { w with topics := r.topic :: w.topics }
  have htopics : w.OnlyLogs w₁ := .of_files_eq rfl rfl rfl
  rw [report]
  dsimp only
  split
  · exact htopics.trans (onlyLogs_record w₁ r)
  · rw [log_eq, Logger.written_root]
    exact .of_files_eq rfl rfl rfl

theorem OnlyLogs.grows (h : w.OnlyLogs w') : w.files.Grows w'.files := by
  obtain ⟨lines, -, hlines⟩ := h.files
  exact hlines ▸ w.files.grows_receive lines

theorem OnlyLogs.entry_eq (h : w.OnlyLogs w') {place : Place}
    (hplace : ∀ f ∈ w.logFiles, f.place ≠ place) :
    w'.files.entry? place = w.files.entry? place := by
  obtain ⟨lines, hmem, hlines⟩ := h.files
  rw [hlines]
  refine w.files.agreeOutside_receive lines place fun hp => ?_
  obtain ⟨line, hline, hp⟩ := List.mem_map.1 hp
  exact hplace line.1 (hmem line hline) hp

/-- Steps that only use the logger leave it as it is. -/
theorem LogsWith.of_onlyLogs {threshold : Level} {file? : Option Place}
    (h : w.LogsWith threshold file?) (hw : w.OnlyLogs w') : w'.LogsWith threshold file? := by
  obtain ⟨opened?, hlogger, hplace, hfile⟩ := h
  obtain ⟨lines, -, hlines⟩ := hw.files
  exact ⟨opened?, hw.logger.trans hlogger, hplace, fun f hf => hlines ▸ (hfile f hf).receive lines⟩

end Workspace

/-! ### Setting up -/

namespace Session

variable {w w' : Workspace} {verbose : Bool} {file? : Option Path}

/-- Setting the logger up takes nothing away, even where it fails. -/
theorem extends_setUpLog (verbose : Bool) (file? : Option Path) (w : Workspace) :
    w.files.Extends ((setUpLog verbose file?).perform w).2.files := by
  obtain ⟨result, files, opened?, hsetUp, hextends, -⟩ := setUpLog_spec verbose file? w
  rw [hsetUp]
  exact hextends

/-- The logger that has been set up writes to the file that was named, whatever handlers it had
before. -/
theorem logsWith_setUpLog (h : (setUpLog verbose file?).perform w = (.ok (), w')) :
    w'.LogsWith (Logger.thresholdOf verbose) (file?.map fun p => (p.resolve w.folder).steps) := by
  obtain ⟨result, files, opened?, hsetUp, -, -, hfile, hopened⟩ := setUpLog_spec verbose file? w
  rw [hsetUp] at h
  cases h
  exact ⟨opened?, rfl, hopened rfl, hfile⟩

end Session

end SignalBinding
