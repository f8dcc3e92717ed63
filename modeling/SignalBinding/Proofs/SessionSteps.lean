import SignalBinding.Proofs.RecordLines
import SignalBinding.Session.Run

/-!
# Steps of a session

What a step gives and what it leaves behind. A chain of steps goes on with the workspace that the
step before has left, and ends where a step fails. Loading only reads: it leaves the workspace as it
is, and does not look at the logger.

## Main definitions

- `FileTree.writeInto`: what becomes of the files when a step writes a text
- `Workspace.under`: a workspace with another logger
- `Session.Reads`: steps that only read

## Main statements

- `Session.perform_setUpLog`: the handlers of a logger that has been set up
-/

namespace SignalBinding

/-- Writes a file behind making a folder, up to the first thing that cannot be done. -/
def FileTree.writeInto (tree : FileTree) (folder way : List String) (content : ByteArray) :
    Option FileError × FileTree :=
  match tree.makeFolders folder with
  | (some e, tree) => (some e, tree)
  | (none, tree) =>
    match tree.write way content with
    | .ok tree => (none, tree)
    | .error e => (some e, tree)

namespace Session

/-- Results can be compared, so what a step gives in a known workspace can be computed. -/
instance {ε α : Type} [DecidableEq ε] [DecidableEq α] : DecidableEq (Except ε α)
  | .ok a, .ok b => decidable_of_iff (a = b) (by simp)
  | .error e, .error e' => decidable_of_iff (e = e') (by simp)
  | .ok _, .error _ | .error _, .ok _ => .isFalse (by simp)

theorem map_eq_ok_iff {ε α β : Type} {x : Except ε α} {f : α → β} {b : β} :
    x.map f = .ok b ↔ ∃ a, x = .ok a ∧ f a = b := by
  cases x <;> simp [Except.map]

theorem map_eq_error_iff {ε α β : Type} {x : Except ε α} {f : α → β} {e : ε} :
    x.map f = .error e ↔ x = .error e := by
  cases x <;> simp [Except.map]

theorem mapError_eq_ok_iff {ε ε' α : Type} {x : Except ε α} {f : ε → ε'} {a : α} :
    x.mapError f = .ok a ↔ x = .ok a := by
  cases x with
  | ok b =>
    change (.ok b : Except ε' α) = .ok a ↔ _
    simp
  | error e =>
    change (.error (f e) : Except ε' α) = .ok a ↔ _
    simp

theorem mapError_eq_error_iff {ε ε' α : Type} {x : Except ε α} {f : ε → ε'} {e' : ε'} :
    x.mapError f = .error e' ↔ ∃ e, x = .error e ∧ f e = e' := by
  cases x with
  | ok a =>
    change (.ok a : Except ε' α) = .error e' ↔ _
    simp
  | error e =>
    change (.error (f e) : Except ε' α) = .error e' ↔ _
    simp

variable {α β : Type} {w w' : Workspace} {x : Session α} {f : α → Session β}

theorem perform_eq_of_result {result : Except Failure α} (h : (x.perform w).1 = result) :
    x.perform w = (result, (x.perform w).2) := by
  rw [← h]

/-! ### Steps one after the other -/

theorem perform_pure (a : α) (w : Workspace) : (pure a : Session α).perform w = (.ok a, w) := rfl

theorem perform_get (w : Workspace) : (get : Session Workspace).perform w = (.ok w, w) := rfl

theorem perform_bind (x : Session α) (f : α → Session β) (w : Workspace) :
    (x >>= f).perform w =
      match x.perform w with
      | (.ok a, w') => (f a).perform w'
      | (.error e, w') => (.error e, w') := by
  change (match x.perform w with | (a, w') => ExceptT.bindCont f a w') = _
  rcases x.perform w with ⟨e | a, w'⟩ <;> rfl

theorem perform_bind_of_ok {a : α} (h : x.perform w = (.ok a, w')) (f : α → Session β) :
    (x >>= f).perform w = (f a).perform w' := by
  rw [perform_bind, h]

theorem perform_bind_of_error {e : Failure} (h : x.perform w = (.error e, w'))
    (f : α → Session β) : (x >>= f).perform w = (.error e, w') := by
  rw [perform_bind, h]

theorem perform_bind_eq_ok_iff {b : β} :
    (x >>= f).perform w = (.ok b, w') ↔
      ∃ a w₁, x.perform w = (.ok a, w₁) ∧ (f a).perform w₁ = (.ok b, w') := by
  rw [perform_bind]
  rcases x.perform w with ⟨e | a, w₁⟩
  · simp
  · simp [and_assoc]

theorem perform_bind_eq_error_iff {e : Failure} :
    (x >>= f).perform w = (.error e, w') ↔
      x.perform w = (.error e, w') ∨
        ∃ a w₁, x.perform w = (.ok a, w₁) ∧ (f a).perform w₁ = (.error e, w') := by
  rw [perform_bind]
  rcases x.perform w with ⟨e' | a, w₁⟩
  · simp
  · simp [and_assoc]

theorem perform_tryCatch (x : Session α) (handle : Failure → Session α) (w : Workspace) :
    (tryCatch x handle).perform w =
      match x.perform w with
      | (.ok a, w') => (.ok a, w')
      | (.error e, w') => (handle e).perform w' := by
  unfold perform ExceptT.run
  simp only [tryCatch, tryCatchThe, MonadExceptOf.tryCatch, ExceptT.tryCatch, ExceptT.mk, bind,
    StateT.bind]
  cases x w with
  | mk result w' => cases result <;> rfl

theorem perform_check (found : Except FileError α) (w : Workspace) :
    (check found).perform w = (found.mapError .file, w) := by
  cases found <;> rfl

theorem perform_tell (r : Record) (w : Workspace) : (tell r).perform w = (.ok (), w.record r) := rfl

theorem perform_tellAll (rs : List Record) (w : Workspace) :
    (tellAll rs).perform w = (.ok (), rs.foldl Workspace.record w) := rfl

/-- The result of a step that has met `error?`. -/
def resultOf (error? : Option FileError) : Except Failure Unit :=
  error?.elim (.ok ()) fun e => .error (.file e)

theorem perform_makeFolders (p : Path) (w : Workspace) :
    (makeFolders p).perform w =
      (resultOf (w.files.makeFolders (w.way p)).1,
        { w with files := (w.files.makeFolders (w.way p)).2 }) := by
  rw [makeFolders, perform_bind_of_ok (perform_get w)]
  rcases w.files.makeFolders (w.way p) with ⟨_ | e, files⟩ <;> rfl

theorem perform_writeText (p : Path) (text : String) (w : Workspace) :
    (writeText p text).perform w =
      (resultOf (w.files.writeInto (w.way p.parent) (w.way p) text.toUTF8).1,
        { w with files := (w.files.writeInto (w.way p.parent) (w.way p) text.toUTF8).2 }) := by
  rw [writeText, perform_bind, perform_makeFolders, FileTree.writeInto]
  rcases w.files.makeFolders (w.way p.parent) with ⟨_ | e, files⟩
  · dsimp only [resultOf, Option.elim_none]
    rw [perform_bind_of_ok (perform_get _), perform_bind, perform_check]
    dsimp only [Workspace.way]
    rcases files.write (w.folder.append p).steps text.toUTF8 with e | files' <;> rfl
  · rfl

/-! ### Setting the logger up -/

theorem perform_openLogFile (p : Path) (w : Workspace) :
    (openLogFile p).perform w =
      match w.files.makeFolders (w.way p.parent) with
      | (some e, files) => (.error (.file e), { w with files })
      | (none, files) =>
        match files.openFile (p.resolve w.folder).steps with
        | .error e => (.error (.file e), { w with files })
        | .ok (place, number, files) => (.ok { place, number }, { w with files }) := by
  rw [openLogFile, perform_bind, perform_makeFolders]
  rcases w.files.makeFolders (w.way p.parent) with ⟨_ | e, files⟩
  · dsimp only [resultOf, Option.elim_none]
    rw [perform_bind_of_ok (perform_get _), perform_bind, perform_check]
    rcases files.openFile (p.resolve w.folder).steps with e | ⟨place, number, files'⟩ <;> rfl
  · rfl

theorem perform_changeLogger (change : Logger → Logger) (w : Workspace) :
    (changeLogger change).perform w = (.ok (), { w with logger := change w.logger }) := rfl

/-- Whatever handlers the logger has had, it is left with one for the user, and gets one for the log
file if that can be opened. -/
theorem perform_setUpLog (verbose : Bool) (file? : Option Path) (w : Workspace) :
    (setUpLog verbose file?).perform w =
      let level := Logger.thresholdOf verbose
      let logger := Logger.setUp level none
      match file? with
      | none => (.ok (), { w with logger })
      | some p =>
        match w.files.makeFolders (w.way p.parent) with
        | (some e, files) => (.error (.file e), { w with files, logger })
        | (none, files) =>
          match files.openFile (p.resolve w.folder).steps with
          | .error e => (.error (.file e), { w with files, logger })
          | .ok (place, number, files) =>
            (.ok (), { w with files, logger := .setUp level (some { place, number }) }) := by
  rw [setUpLog.eq_def, perform_bind_of_ok (perform_changeLogger _ _),
    perform_bind_of_ok (perform_changeLogger _ _), perform_bind_of_ok (perform_changeLogger _ _),
    Logger.reset_eq]
  cases file? with
  | none => rfl
  | some p =>
    dsimp only
    rw [perform_bind, perform_openLogFile]
    dsimp only [Workspace.way]
    rcases w.files.makeFolders (w.folder.append p.parent).steps with ⟨_ | e, files⟩
    · dsimp only
      rcases files.openFile (p.resolve w.folder).steps with e | ⟨place, number, files'⟩ <;> rfl
    · rfl

end Session

/-! ### Steps that only read -/

/-- The workspace with another logger, and with another text shown. -/
def Workspace.under (w : Workspace) (logger : Logger) (shown : String) : Workspace :=
  { w with logger, shown }

/-- The open log files that records reach. -/
def Workspace.logFiles (w : Workspace) : List LogFile :=
  w.logger.files

namespace Session

variable {α β : Type} {x : Session α} {f : α → Session β}

/-- The step changes nothing, and does not look at the logger. -/
def Reads (step : Session α) : Prop :=
  ∀ (w : Workspace) (logger : Logger) (shown : String),
    step.perform (w.under logger shown) = ((step.perform w).1, w.under logger shown)

theorem Reads.perform (h : x.Reads) (w : Workspace) : x.perform w = ((x.perform w).1, w) :=
  h w w.logger w.shown

theorem Reads.perform_eq (h : x.Reads) {w : Workspace} {result : Except Failure α}
    (hresult : (x.perform w).1 = result) : x.perform w = (result, w) := by
  rw [h.perform w, hresult]

theorem reads_pure (a : α) : (pure a : Session α).Reads := fun _ _ _ => rfl

theorem reads_throw (e : Failure) : (throw e : Session α).Reads := fun _ _ _ => rfl

theorem reads_check (found : Except FileError α) : (check found).Reads := by
  intro w logger shown
  rw [perform_check, perform_check]

theorem Reads.bind (hx : x.Reads) (hf : ∀ a, (f a).Reads) : (x >>= f).Reads := by
  intro w logger shown
  rw [perform_bind, perform_bind, hx w logger shown, hx.perform w]
  cases (x.perform w).1 with
  | ok a => exact hf a w logger shown
  | error e => rfl

/-- A step that only reads may look at anything in the workspace but the logger. -/
theorem reads_get_bind {f : Workspace → Session α} (hf : ∀ w, (f w).Reads)
    (hunder : ∀ w logger shown, f (Workspace.under w logger shown) = f w) : (get >>= f).Reads := by
  intro w logger shown
  rw [perform_bind_of_ok (perform_get _), perform_bind_of_ok (perform_get _), hunder]
  exact hf w w logger shown

theorem reads_readText (p : Path) : (readText p).Reads := by
  refine reads_get_bind (fun w => ?_) fun _ _ _ => rfl
  refine (reads_check _).bind fun bytes => ?_
  split
  · exact reads_pure _
  · exact reads_throw _

theorem exists_configFile_eq_resolve (w : Workspace) (p : Path) :
    ∃ p' : Path, configFile w p = p'.resolve w.folder := by
  rw [configFile]
  split
  · exact ⟨_, rfl⟩
  · exact ⟨_, rfl⟩

theorem reads_loadConfig (p : Path) : (loadConfig p).Reads := by
  refine reads_get_bind (fun w => ?_) fun _ _ _ => rfl
  dsimp only
  split
  · exact reads_pure _
  · refine (reads_readText _).bind fun text => ?_
    split
    · exact reads_pure _
    · exact reads_throw _

theorem reads_loadBridge (p : Path) : (loadBridge p).Reads := by
  refine reads_get_bind (fun w => ?_) fun _ _ _ => rfl
  dsimp only
  split
  · refine (reads_readText _).bind fun text => ?_
    split
    · exact reads_pure _
    · exact reads_throw _
  · exact reads_throw _

end Session

end SignalBinding
