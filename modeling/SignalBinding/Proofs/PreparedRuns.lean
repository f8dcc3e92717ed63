import SignalBinding.Proofs.AgreeingRuns
import SignalBinding.Proofs.KeptSettings
import SignalBinding.Proofs.UsedTemplates

/-!
# What a run depends on

A run makes its report from the contents of some files, and where it can write its texts depends on
which files and folders there are. A run whose log goes to none of the files that it reads gives
what these say, whatever the logger is.

## Main definitions

- `RunRequest.Reads`: the files that a run reads
- `Session.prepared`: what a run would prepare if nothing were written meanwhile

## Main statements

- `Session.prepare_eq_prepared`: a run prepares what its files say
- `Session.run_alike`: a run gives the same wherever the files look alike
-/

namespace SignalBinding

/-- The path at which the run looks for its configuration, if it does. -/
def RunRequest.configPath? (q : RunRequest) (w : Workspace) : Option Path :=
  match q.config with
  | .given _ => none
  | .at p => some p
  | .besideBridge => some (q.path w).parent

/--
The files that the run reads: its configuration; if it gets one, its bridge; and with both, those
templates in the folder of the configuration that are used, up to the first use that fails.
-/
inductive RunRequest.Reads (q : RunRequest) (w : Workspace) : Place → Prop
  | config {p : Path} {place : Place} (hp : q.configPath? w = some p)
    (hplace : w.files.FileAt (w.way (Session.configFile w p)) place) : Reads q w place
  | bridge {c : Config} {place : Place}
    (hc : ((Session.configuration q (q.path w)).perform w).1 = .ok c)
    (hplace : w.files.FileAt (w.way ((q.path w).expandHome w.home)) place) : Reads q w place
  | template {c : Config} {b : Bridge} {folder : Path} {name : TemplateName} {place : Place}
    (hc : ((Session.configuration q (q.path w)).perform w).1 = .ok c)
    (hb : ((Session.loadBridge (q.path w)).perform w).1 = .ok b)
    (hfolder : c.templates? = some folder)
    (hname : name ∈ (w.templates folder []).reached (b.renderings (some c.table)))
    (hplace : w.files.FileAt (w.way ((folder.child "signals").child name.fileName)) place) :
    Reads q w place

/-- What a run would prepare from the files as they are, if nothing were written meanwhile. -/
def Session.prepared (q : RunRequest) (w : Workspace) : Except Failure (Config × Report) := do
  let c ← ((configuration q (q.path w)).perform w).1
  let b ← ((loadBridge (q.path w)).perform w).1
  let r ← (b.generate (some c.table) (w.templatesFor c q.ownTemplates?)).result.mapError .template
  return (c, r)

theorem Workspace.LogsTo.of_record {w : Workspace} {r : Record} {place : Place}
    (h : (w.record r).LogsTo place) : w.LogsTo place := by
  obtain ⟨f, hopen, hfile, hplace⟩ := h
  have honly := w.onlyLogs_record r
  rw [honly.logFiles_eq] at hopen
  obtain ⟨lines, -, hlines⟩ := honly.files
  rw [hlines] at hfile
  exact ⟨f, hopen, hfile.of_receive, hplace⟩

namespace Session

variable {q : RunRequest} {w w' : Workspace} {c : Config} {b : Bridge} {hidden : Place → Prop}

/-! ### Hidden files -/

section Hidden

variable (h : w.Alike hidden w') (hread : ∀ place, q.Reads w place → ¬hidden place)

include h hread

theorem configuration_of_unread :
    ((configuration q (q.path w)).perform w').1 = ((configuration q (q.path w)).perform w).1 := by
  unfold configuration
  split
  · rfl
  next p hp =>
    refine (h.loadConfig fun place hplace => hread place (.config (p := p) ?_ hplace)).symm
    rw [RunRequest.configPath?, hp]
  next hp =>
    refine (h.loadConfig fun place hplace =>
      hread place (.config (p := (q.path w).parent) ?_ hplace)).symm
    rw [RunRequest.configPath?, hp]

theorem loadBridge_of_unread (hc : ((configuration q (q.path w)).perform w).1 = .ok c) :
    ((loadBridge (q.path w)).perform w').1 = ((loadBridge (q.path w)).perform w).1 :=
  (h.loadBridge fun place hplace => hread place (.bridge hc hplace)).symm

theorem generate_of_unread (hc : ((configuration q (q.path w)).perform w).1 = .ok c)
    (hb : ((loadBridge (q.path w)).perform w).1 = .ok b) :
    (b.generate (some c.table) (w'.templatesFor c none)).result =
      (b.generate (some c.table) (w.templatesFor c none)).result := by
  unfold Workspace.templatesFor
  cases hfolder : c.templates? with
  | none => rfl
  | some folder =>
    refine b.result_generate_congr _ fun name hname => ?_
    have hoverride : w.override? folder name = w'.override? folder name :=
      h.override? fun place hplace => hread place (.template hc hb hfolder hname hplace)
    change w'.templates folder [] name = w.templates folder [] name
    rw [Workspace.templates, Workspace.templates, hoverride]

end Hidden

/-- A run whose log does not go to a file that it reads prepares what its files say. -/
theorem prepare_eq_prepared (hown : q.ownTemplates? = none)
    (hlog : ∀ place, w.LogsTo place → ¬q.Reads w place) :
    ((prepare q).perform w).1 = prepared q w := by
  have hread (place : Place) (hplace : q.Reads w place) : ¬w.LogsTo place :=
    fun h => hlog place h hplace
  let w₁ := w.record (startRecord (q.path w))
  have h₁ : w.Alike w.LogsTo w₁ := Workspace.alike_record (fun _ h => h) _
  rw [prepare, prepared, perform_bind_of_ok (perform_get w), perform_bind_of_ok (perform_tell _ w),
    perform_bind, (reads_configuration q _).perform w₁, configuration_of_unread h₁ hread]
  cases hc : ((configuration q (q.path w)).perform w).1 with
  | error e => rfl
  | ok c =>
    dsimp only
    rw [described, perform_bind, perform_bind, (reads_loadBridge _).perform w₁,
      loadBridge_of_unread h₁ hread hc]
    cases hb : ((loadBridge (q.path w)).perform w).1 with
    | error e => rfl
    | ok b =>
      let w₂ := w₁.record (bridgeRecord b)
      have h₂ : w.Alike w.LogsTo w₂ :=
        h₁.trans (Workspace.alike_record (fun _ h => h.of_record) _)
      dsimp only
      rw [perform_bind_of_ok (perform_tell _ w₁), perform_generate, hown,
        generate_of_unread h₂ hread hc hb]
      dsimp only [bind, Except.bind]
      cases (b.generate (some c.table) (w.templatesFor c none)).result <;> rfl

/-- Wherever the files look alike, a run reads the same files. -/
theorem reads_alike (h : w.Alike (fun _ => False) w') {place : Place} (hplace : q.Reads w' place) :
    q.Reads w place := by
  have hpath := h.path q
  have hread (place : Place) (_ : q.Reads w place) : ¬False := id
  have hconfig := configuration_of_unread h hread
  cases hplace with
  | @config p _ hp hplace =>
    refine .config (p := p) ?_ ?_
    · rw [← hp, RunRequest.configPath?, RunRequest.configPath?, hpath]
    · have hfile := h.symm.files.fileAt hplace
      rwa [← h.way, ← h.configFile] at hfile
  | bridge hc hplace =>
    rw [hpath] at hc hplace
    have hfile := h.symm.files.fileAt hplace
    rw [← h.way, h.home] at hfile
    exact .bridge (hconfig ▸ hc) hfile
  | @template c b folder name _ hc hb hfolder hname hplace =>
    rw [hpath] at hc hb
    have hc' := hconfig ▸ hc
    have hb' := loadBridge_of_unread h hread hc' ▸ hb
    have hfile := h.symm.files.fileAt hplace
    rw [← h.way] at hfile
    rw [h.templates] at hname
    exact .template hc' hb' hfolder hname hfile

/-- What files say that look alike is the same. -/
theorem prepared_alike (h : w.Alike (fun _ => False) w') (hown : q.ownTemplates? = none) :
    prepared q w' = prepared q w := by
  have hread (place : Place) (_ : q.Reads w place) : ¬False := id
  rw [prepared, prepared, h.path, configuration_of_unread h hread, hown]
  dsimp only [bind, Except.bind]
  cases hc : ((configuration q (q.path w)).perform w).1 with
  | error e => dsimp only
  | ok c =>
    dsimp only
    rw [loadBridge_of_unread h hread hc]
    cases hb : ((loadBridge (q.path w)).perform w).1 with
    | error e => dsimp only
    | ok b =>
      dsimp only
      rw [generate_of_unread h hread hc hb]

/-! ### Where texts can go -/

/-- A run that has got its texts has left the files as they were, but for what is in one. -/
theorem alike_prepare (q : RunRequest) (w : Workspace) :
    w.Alike (fun _ => True) ((prepare q).perform w).2 := by
  have hkeeps := keeps_prepare q w
  obtain ⟨hlibraries, hfolder, hhome, -⟩ : _ ∧ _ ∧ _ ∧ _ := by
    simpa [Workspace.setting] using hkeeps
  obtain ⟨lines, -, hlines⟩ := (onlyLogs_prepare q w).files
  exact ⟨hlibraries, hfolder, hhome, hlines ▸ FileTree.alike_receive fun _ _ _ => trivial⟩

/-- Whether texts can be written depends on which files and folders there are, not on what is in
the files. -/
theorem publish_alike (q : RunRequest) (c : Config) (r : Report) :
    Respects (Workspace.Alike fun _ => True) (publish q c r) := by
  have htell (r : Record) : Respects (Workspace.Alike fun _ => True) (tell r) := by
    have hrecord (w : Workspace) : w.Alike (fun _ => True) (w.record r) :=
      Workspace.alike_record (fun _ _ => trivial) r
    exact fun w w' h => ⟨rfl, ((hrecord w).symm.trans h).trans (hrecord w')⟩
  refine (stepKind_respects htell).publish (fun p text w w' h => ?_) q c r
  obtain ⟨hsame, halike⟩ := h.files.writeInto (w.way p.parent) (w.way p) text.toUTF8
  rw [perform_writeText, perform_writeText, ← h.way, ← h.way, hsame]
  exact ⟨rfl, h.libraries, h.folder, h.home, halike⟩

/--
A run gives the same report, or fails in the same way, wherever the files look alike, if neither log
goes to a file that the run reads.
-/
theorem run_alike (h : w.Alike (fun _ => False) w') (hown : q.ownTemplates? = none)
    (hlog : ∀ place, w.LogsTo place → ¬q.Reads w place)
    (hlog' : ∀ place, w'.LogsTo place → ¬q.Reads w' place) :
    ((run q).perform w).1 = ((run q).perform w').1 := by
  have hprepare : ((prepare q).perform w).1 = ((prepare q).perform w').1 := by
    rw [prepare_eq_prepared hown hlog, prepare_eq_prepared hown hlog', prepared_alike h hown]
  have hshape : ((prepare q).perform w).2.Alike (fun _ => True) ((prepare q).perform w').2 :=
    ((alike_prepare q w).symm.trans (h.mono fun _ => False.elim)).trans (alike_prepare q w')
  rw [run_eq, perform_bind, perform_bind]
  rcases hperform : (prepare q).perform w with ⟨e | ⟨c, r⟩, w₁⟩ <;>
    rcases hperform' : (prepare q).perform w' with ⟨e' | ⟨c', r'⟩, w₁'⟩ <;>
    rw [hperform, hperform'] at hprepare hshape <;> cases hprepare
  · rfl
  · obtain ⟨hpublish, -⟩ := publish_alike q c r w₁ w₁' hshape
    dsimp only
    rw [perform_bind, perform_bind]
    rcases hend : (publish q c r).perform w₁ with ⟨e | ⟨⟩, w₂⟩ <;>
      rcases hend' : (publish q c r).perform w₁' with ⟨e' | ⟨⟩, w₂'⟩ <;>
      rw [hend, hend'] at hpublish <;> cases hpublish <;> rfl

end Session

end SignalBinding
