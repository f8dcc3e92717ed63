import SignalBinding.Proofs.AlikeTrees
import SignalBinding.Proofs.RunParts

/-!
# Workspaces that look alike

What a step reads off the files is the same in two workspaces whose files look alike, whatever has
happened to their logs. A record that goes to a hidden file leaves a workspace alike.

## Main definitions

- `Workspace.Alike`: workspaces of which the files are alike but for the contents of hidden ones

## Main statements

- `Workspace.Alike.loadConfig`, `Workspace.Alike.loadBridge`, `Workspace.Alike.override?`
-/

namespace SignalBinding

/-! ### What loading looks at -/

namespace Session

variable {w w' : Workspace} {p : Path}

theorem readText_congr (h : w'.files.read (w'.way p) = w.files.read (w.way p)) :
    ((readText p).perform w').1 = ((readText p).perform w).1 := by
  rw [readText, perform_bind_of_ok (perform_get w), perform_bind_of_ok (perform_get w'),
    perform_bind, perform_bind, perform_check, perform_check, h]
  cases w.files.read (w.way p) with
  | error e => rfl
  | ok bytes =>
    dsimp only [Except.mapError]
    split <;> rfl

/-- Loading a configuration takes the decoder, the home folder, the place of the file, whether
something is there, and its content if so. -/
theorem loadConfig_congr (hlibraries : w'.libraries = w.libraries) (hhome : w'.home = w.home)
    (hfile : configFile w' p = configFile w p)
    (hfind : (w'.files.find? (w'.way (configFile w p))).isNone =
      (w.files.find? (w.way (configFile w p))).isNone)
    (hread : w.files.find? (w.way (configFile w p)) ≠ none →
      w'.files.read (w'.way (configFile w p)) = w.files.read (w.way (configFile w p))) :
    ((loadConfig p).perform w').1 = ((loadConfig p).perform w).1 := by
  rw [loadConfig, perform_bind_of_ok (perform_get w), perform_bind_of_ok (perform_get w')]
  dsimp only
  rw [hfile, hfind, hhome, hlibraries]
  split
  · rfl
  next hsome =>
    rw [perform_bind, perform_bind, (reads_readText _).perform w, (reads_readText _).perform w',
      readText_congr (hread (by simpa using hsome))]
    cases ((readText (configFile w p)).perform w).1 with
    | error e => rfl
    | ok text =>
      dsimp only
      split <;> rfl

/-- Loading a bridge takes the decoder, the home folder, whether the bridge is a file, and its
content if so. -/
theorem loadBridge_congr (hlibraries : w'.libraries = w.libraries) (hhome : w'.home = w.home)
    (hfile : w'.files.isFile (w'.way (p.expandHome w.home)) =
      w.files.isFile (w.way (p.expandHome w.home)))
    (hread : w.files.isFile (w.way (p.expandHome w.home)) = true →
      w'.files.read (w'.way (p.expandHome w.home)) = w.files.read (w.way (p.expandHome w.home))) :
    ((loadBridge p).perform w').1 = ((loadBridge p).perform w).1 := by
  rw [loadBridge, perform_bind_of_ok (perform_get w), perform_bind_of_ok (perform_get w')]
  dsimp only
  rw [hhome, hfile, hlibraries]
  split
  next hisFile =>
    rw [perform_bind, perform_bind, (reads_readText _).perform w, (reads_readText _).perform w',
      readText_congr (hread hisFile)]
    cases ((readText (p.expandHome w.home)).perform w).1 with
    | error e => rfl
    | ok text =>
      dsimp only
      split <;> rfl
  next => rfl

end Session

/-! ### Workspaces that look alike -/

/-- The same libraries and folders to work in, with files that look alike. Nothing is said of the
loggers. -/
structure Workspace.Alike (hidden : Place → Prop) (w w' : Workspace) : Prop where
  libraries : w'.libraries = w.libraries
  folder : w'.folder = w.folder
  home : w'.home = w.home
  files : FileTree.Alike hidden w.files w'.files

namespace Workspace

variable {hidden hidden' : Place → Prop} {w w' w₁ w₂ w₃ : Workspace}

theorem Alike.symm (h : Alike hidden w w') : Alike hidden w' w :=
  ⟨h.libraries.symm, h.folder.symm, h.home.symm, h.files.symm⟩

theorem Alike.trans (h : Alike hidden w₁ w₂) (h' : Alike hidden w₂ w₃) : Alike hidden w₁ w₃ :=
  ⟨h'.libraries.trans h.libraries, h'.folder.trans h.folder, h'.home.trans h.home,
    h.files.trans h'.files⟩

theorem Alike.mono (h : Alike hidden w w') (hsub : ∀ p, hidden p → hidden' p) :
    Alike hidden' w w' :=
  ⟨h.libraries, h.folder, h.home, h.files.mono hsub⟩

theorem Alike.way (h : Alike hidden w w') (p : Path) : w.way p = w'.way p :=
  (way_congr h.folder p).symm

theorem Alike.path (h : Alike hidden w w') (q : RunRequest) : q.path w' = q.path w := by
  rw [RunRequest.path, RunRequest.path, h.folder, h.home]

/-! ### Loading -/

theorem Alike.configFile (h : Alike hidden w w') (p : Path) :
    Session.configFile w p = Session.configFile w' p := by
  have hfolder := h.files.isFolder (w.way (p.expandHome w.home))
  unfold Session.configFile
  dsimp only
  rw [h.home, h.folder, ← h.way, ← hfolder]

theorem Alike.loadConfig {p : Path} (h : Alike hidden w w')
    (hp : ∀ place, w.files.FileAt (w.way (Session.configFile w p)) place → ¬hidden place) :
    ((Session.loadConfig p).perform w).1 = ((Session.loadConfig p).perform w').1 := by
  refine (Session.loadConfig_congr h.libraries h.home (h.configFile p).symm ?_ fun _ => ?_).symm
  · rw [← h.way, ← h.files.isNone_find?]
  · rw [← h.way, ← h.files.read hp]

theorem Alike.loadBridge {p : Path} (h : Alike hidden w w')
    (hp : ∀ place, w.files.FileAt (w.way (p.expandHome w.home)) place → ¬hidden place) :
    ((Session.loadBridge p).perform w).1 = ((Session.loadBridge p).perform w').1 := by
  refine (Session.loadBridge_congr h.libraries h.home ?_ fun _ => ?_).symm
  · rw [← h.way, ← h.files.isFile]
  · rw [← h.way, ← h.files.read hp]

theorem Alike.override? {folder : Path} {name : TemplateName} (h : Alike hidden w w')
    (hp : ∀ place,
      w.files.FileAt (w.way ((folder.child "signals").child name.fileName)) place → ¬hidden place) :
    w.override? folder name = w'.override? folder name := by
  rw [Workspace.override?, Workspace.override?, ← h.way, h.files.read hp, h.libraries]

theorem Alike.templates (h : Alike (fun _ => False) w w') (folder : Path)
    (settled : List TemplateName) : w'.templates folder settled = w.templates folder settled := by
  funext name
  rw [Workspace.templates, Workspace.templates, h.override? fun _ _ => id]

/-! ### Records -/

/-- The place is that of an open log file that is still there. -/
def LogsTo (w : Workspace) (place : Place) : Prop :=
  ∃ f ∈ w.logFiles, w.files.HasFile f.place f.number ∧ f.place = place

/-- A record changes nothing but log files and what the user has been shown. -/
theorem alike_record (hlog : ∀ place, w.LogsTo place → hidden place) (r : Record) :
    Alike hidden w (w.record r) := by
  rw [record_eq]
  refine ⟨rfl, rfl, rfl, FileTree.alike_receive fun line hline hfile => ?_⟩
  exact hlog _ ⟨line.1, Logger.mem_files_of_mem_written hline, hfile, rfl⟩

theorem Alike.show (h : Alike hidden w w') (text text' : String) :
    Alike hidden (w.show text) (w'.show text') :=
  ⟨h.libraries, h.folder, h.home, h.files⟩

end Workspace

end SignalBinding
