import SignalBinding.Proofs.ToldRecords

/-!
# What a session keeps

No step of a session changes the libraries that it leaves things to, the folders that the user works
in, or the time that log files show.

## Main definitions

- `Workspace.setting`: the libraries, the folders and the time
- `Session.Keeps`: steps that leave them alone

## Main statements

- `Session.keeps_run`, `Session.keeps_command`: no run and no command changes them
-/

namespace SignalBinding

open CommandLine

/-- The libraries, the current folder, the home folder and the time. -/
def Workspace.setting (w : Workspace) : Libraries × Path × Path × String :=
  (w.libraries, w.folder, w.home, w.time)

theorem Workspace.setting_foldl_record (w : Workspace) (rs : List Record) :
    (rs.foldl record w).setting = w.setting := by
  have hrecord (w : Workspace) (r : Record) : (w.record r).setting = w.setting := by
    rw [record_eq]
    rfl
  induction rs generalizing w with
  | nil => rfl
  | cons r rs ih => rw [List.foldl_cons, ih, hrecord]

theorem Workspace.setting_show (w : Workspace) (text : String) :
    (w.show text).setting = w.setting := rfl

namespace Session

variable {α β : Type} {x : Session α} {f : α → Session β}

/-- The step leaves the setting alone. -/
def Keeps (x : Session α) : Prop :=
  ∀ w, (x.perform w).2.setting = w.setting

theorem Reads.keeps (h : x.Reads) : x.Keeps := by
  intro w
  rw [h.perform w]

theorem Keeps.bind (hx : x.Keeps) (hf : ∀ a, (f a).Keeps) : (x >>= f).Keeps := by
  intro w
  have hw := hx w
  rw [perform_bind]
  rcases hperform : x.perform w with ⟨e | a, w₁⟩ <;> rw [hperform] at hw
  · exact hw
  · exact (hf a w₁).trans hw

theorem keeps_get_bind {f : Workspace → Session α} (hf : ∀ w, (f w).Keeps) :
    (get >>= f).Keeps := by
  intro w
  rw [perform_bind_of_ok (perform_get w)]
  exact hf w w

theorem keeps_tell (r : Record) : (tell r).Keeps := fun w => w.setting_foldl_record [r]

theorem keeps_generate (b : Bridge) (c : Config) (ownTemplates? : Option String) :
    (generate b c ownTemplates?).Keeps := by
  intro w
  rw [perform_generate, Workspace.setting_foldl_record]
  cases ownTemplates? <;> rfl

theorem keeps_writeText (p : Path) (text : String) : (writeText p text).Keeps := by
  intro w
  rw [perform_writeText]
  rfl

theorem stepKind_keeps : StepKind Keeps where
  pure a := (reads_pure a).keeps
  bind := Keeps.bind
  tell := keeps_tell

theorem keeps_prepare (q : RunRequest) : (prepare q).Keeps :=
  stepKind_keeps.prepare (fun hf => keeps_get_bind fun w => hf (q.path w))
    (fun path => (reads_configuration q path).keeps) (fun path => (reads_loadBridge path).keeps)
    fun b c => keeps_generate b c q.ownTemplates?

theorem keeps_run (q : RunRequest) : (run q).Keeps :=
  stepKind_keeps.run (keeps_prepare q) keeps_writeText

theorem keeps_setUpLog (verbose : Bool) (file? : Option Path) : (setUpLog verbose file?).Keeps := by
  intro w
  obtain ⟨result, files, opened?, hsetUp, -⟩ := setUpLog_spec verbose file? w
  rw [hsetUp]
  rfl

theorem keeps_command (arguments : List String) : (command arguments).Keeps := by
  rw [command]
  split
  next g _ =>
    have hreported : (reported g).Keeps := keeps_get_bind fun w =>
      (reads_loadConfig _).keeps.bind fun c => (keeps_setUpLog _ _).bind fun _ =>
        (keeps_run _).bind fun r => (reads_pure (c, r)).keeps
    intro w
    rw [perform_generateCommand_eq]
    exact (Workspace.setting_show _ _).trans (hreported w)
  all_goals exact (reads_pure _).keeps

end Session

end SignalBinding
