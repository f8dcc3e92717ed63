import SignalBinding.Proofs.FileContents
import SignalBinding.Proofs.SessionSteps

/-!
# The parts of a run

A run first prepares its texts, which takes the configuration, the bridge and the templates, and
then publishes them. Only publishing writes files of its own. The parts of a run fail in different
ways, and a run never fails because a file other than the bridge is missing.

## Main definitions

- `RunRequest.headerPath?`, `RunRequest.sourcePath?`: where the texts of a run go
- `Session.prepare`, `Session.publish`: the two parts of a run
- `Failure.OfConfig`, `Failure.OfRun`, `Failure.OfOutput`: how loading a configuration fails, a run
  that has one, and writing its texts
- `Session.FailsIn`: steps that fail in certain ways only
-/

namespace SignalBinding

namespace RunRequest

/-- Where a run finds its bridge. -/
def path (q : RunRequest) (w : Workspace) : Path :=
  (q.bridge.expandHome w.home).resolve w.folder

/-- Where the header goes: to the path that is given, else to the one of the configuration. -/
def headerPath? (q : RunRequest) (c : Config) : Option Path :=
  q.header?.orElse fun _ => c.header?

/-- Where the source goes: to the path that is given, else to the one of the configuration. -/
def sourcePath? (q : RunRequest) (c : Config) : Option Path :=
  q.source?.orElse fun _ => c.source?

end RunRequest

namespace Workspace

/-- The templates of a run, whose generator may have a folder for itself. -/
def templatesFor (w : Workspace) (c : Config) (ownTemplates? : Option String) : TemplateSet :=
  match ownTemplates?, c.templates? with
  | some own, _ => w.templates (Path.ofText own) (w.settledFor own)
  | none, some folder => w.templates folder []
  | none, none => TemplateSet.builtin

/-- The workspace after the templates of a run have been used. -/
def settle (w : Workspace) (b : Bridge) (c : Config) (ownTemplates? : Option String) : Workspace :=
  match ownTemplates? with
  | none => w
  | some own =>
    let used := usedBefore (w.templatesFor c (some own)) (b.renderings (some c.table))
    let fresh := used.filter fun name => (w.override? (Path.ofText own) name).isNone
    { w with settled := (own, w.settledFor own ++ fresh) :: w.settled }

end Workspace

namespace Session

/-- Ends a run as a generation has ended. -/
def ended (result : Except TemplateError Report) : Session Report :=
  match result with
  | .ok r => return r
  | .error e => throw (.template e)

theorem perform_ended (result : Except TemplateError Report) (w : Workspace) :
    (ended result).perform w = (result.mapError .template, w) := by
  cases result <;> rfl

theorem perform_generate (b : Bridge) (c : Config) (ownTemplates? : Option String)
    (w : Workspace) :
    (generate b c ownTemplates?).perform w =
      ((b.generate (some c.table) (w.templatesFor c ownTemplates?)).result.mapError .template,
        (b.generate (some c.table) (w.templatesFor c ownTemplates?)).records.foldl
          Workspace.record (w.settle b c ownTemplates?)) := by
  have hend (journal : Journaled TemplateError Report) (w : Workspace) :
      (tellAll journal.records >>= fun _ => ended journal.result).perform w =
        (journal.result.mapError .template, journal.records.foldl Workspace.record w) := by
    rw [perform_bind_of_ok (perform_tellAll _ _), perform_ended]
  rw [generate, perform_bind_of_ok (perform_get w)]
  cases ownTemplates? with
  | none => exact hend _ w
  | some own => exact hend (b.generate (some c.table) (w.templatesFor c (some own))) _

/-- Gets the configuration that is asked for, when the bridge is at `path`. -/
def configuration (q : RunRequest) (path : Path) : Session Config :=
  match q.config with
  | .given c => return c
  | .at p => loadConfig p
  | .besideBridge => loadConfig path.parent

/-- Generates the bridge at `path`. -/
def described (path : Path) (c : Config) (ownTemplates? : Option String) : Session Report := do
  let b ← loadBridge path
  tell (bridgeRecord b)
  generate b c ownTemplates?

/-- The part of a run in which the texts come about. -/
def prepare (q : RunRequest) : Session (Config × Report) := do
  let w ← get
  tell (startRecord (q.path w))
  let c ← configuration q (q.path w)
  let r ← described (q.path w) c q.ownTemplates?
  return (c, r)

/-- The part of a run in which the texts go where they should. -/
def publish (q : RunRequest) (c : Config) (r : Report) : Session Unit := do
  output (q.headerPath? c) r.header
  output (q.sourcePath? c) r.source
  tell (endRecord r)

variable {q : RunRequest} {w w' : Workspace} {c : Config} {r : Report} {e : Failure}

theorem run_eq (q : RunRequest) :
    run q = do
      let (c, r) ← prepare q
      publish q c r
      return r := by
  cases hconfig : q.config <;>
    simp only [run, prepare, configuration, described, publish, hconfig, RunRequest.path,
      RunRequest.headerPath?, RunRequest.sourcePath?, bind_assoc, pure_bind]

theorem reads_configuration (q : RunRequest) (path : Path) : (configuration q path).Reads := by
  unfold configuration
  split
  · exact reads_pure _
  · exact reads_loadConfig _
  · exact reads_loadConfig _

/-- A run that has a report has prepared its texts and has published them. -/
theorem exists_of_run_ok (h : (run q).perform w = (.ok r, w')) :
    ∃ c w₁, (prepare q).perform w = (.ok (c, r), w₁) ∧
      (publish q c r).perform w₁ = (.ok (), w') := by
  rw [run_eq, perform_bind_eq_ok_iff] at h
  obtain ⟨⟨c, r'⟩, w₁, hprepare, h⟩ := h
  obtain ⟨⟨⟩, w₂, hpublish, h⟩ := perform_bind_eq_ok_iff.1 h
  cases h
  exact ⟨c, w₁, hprepare, hpublish⟩

/-- A run fails while it prepares its texts, or while it publishes them. -/
theorem exists_of_run_error (h : (run q).perform w = (.error e, w')) :
    (prepare q).perform w = (.error e, w') ∨
      ∃ c r w₁, (prepare q).perform w = (.ok (c, r), w₁) ∧
        (publish q c r).perform w₁ = (.error e, w') := by
  rw [run_eq, perform_bind_eq_error_iff] at h
  obtain hprepare | ⟨⟨c, r⟩, w₁, hprepare, h⟩ := h
  · exact .inl hprepare
  · obtain hpublish | ⟨⟨⟩, w₂, -, h⟩ := perform_bind_eq_error_iff.1 h
    · exact .inr ⟨c, r, w₁, hprepare, hpublish⟩
    · cases h

theorem run_of_prepare_error (h : (prepare q).perform w = (.error e, w')) :
    (run q).perform w = (.error e, w') := by
  rw [run_eq, perform_bind_of_error h]

theorem run_of_publish_ok {w₁ : Workspace} (h : (prepare q).perform w = (.ok (c, r), w₁))
    (hpublish : (publish q c r).perform w₁ = (.ok (), w')) : (run q).perform w = (.ok r, w') := by
  rw [run_eq, perform_bind_of_ok h]
  dsimp only
  rw [perform_bind_of_ok hpublish, perform_pure]

end Session

/-! ### How a run fails -/

namespace Failure

/-- Failures of loading a configuration. -/
def OfConfig : Failure → Prop
  | config _ | notText => True
  | file e => e ≠ .missing
  | _ => False

/-- Failures of a run that has its configuration. -/
def OfRun : Failure → Prop
  | config _ => False
  | file e => e ≠ .missing
  | _ => True

/-- Failures of writing the texts of a run. -/
def OfOutput : Failure → Prop
  | file e => e ≠ .missing
  | _ => False

theorem OfOutput.ofRun {e : Failure} (h : e.OfOutput) : e.OfRun := by
  cases e <;> first | exact h | exact h.elim

/-- Failures of doing something with a file. -/
def OfFile : Failure → Prop
  | file _ => True
  | _ => False

theorem OfOutput.ofFile {e : Failure} (h : e.OfOutput) : e.OfFile := by
  cases e <;> trivial

end Failure

namespace Session

variable {α β : Type} {P : Failure → Prop} {x : Session α} {f : α → Session β} {w : Workspace}

/-- In the workspace `w`, the step fails in the ways `P` only. -/
def FailsIn (P : Failure → Prop) (step : Session α) (w : Workspace) : Prop :=
  ∀ e w', step.perform w = (.error e, w') → P e

theorem FailsIn.mono {Q : Failure → Prop} (h : FailsIn P x w) (himp : ∀ e, P e → Q e) :
    FailsIn Q x w :=
  fun e w' h' => himp e (h e w' h')

theorem failsIn_pure (a : α) : FailsIn P (pure a) w := by
  intro e w' h
  cases h

theorem failsIn_throw {e : Failure} (h : P e) : FailsIn P (throw e : Session α) w := by
  intro e' w' h'
  cases h'
  exact h

theorem failsIn_tell (r : Record) : FailsIn P (tell r) w := by
  intro e w' h
  cases h

theorem FailsIn.bind (hx : FailsIn P x w)
    (hf : ∀ a w', x.perform w = (.ok a, w') → FailsIn P (f a) w') : FailsIn P (x >>= f) w := by
  intro e w' h
  obtain h | ⟨a, w₁, ha, h⟩ := perform_bind_eq_error_iff.1 h
  · exact hx e w' h
  · exact hf a w₁ ha e w' h

theorem failsIn_get_bind {f : Workspace → Session α} (h : FailsIn P (f w) w) :
    FailsIn P (get >>= f) w := by
  intro e w' h'
  rw [perform_bind_of_ok (perform_get w)] at h'
  exact h e w' h'

theorem failsIn_check {found : Except FileError α} (h : ∀ e, found = .error e → P (.file e)) :
    FailsIn P (check found) w := by
  intro e w' h'
  rcases found with e' | a
  · cases h'
    exact h e' rfl
  · cases h'

theorem failsIn_readText {p : Path} (htext : P .notText)
    (hfile : ∀ e, w.files.read (w.way p) = .error e → P (.file e)) : FailsIn P (readText p) w := by
  refine failsIn_get_bind ((failsIn_check hfile).bind fun bytes w' _ => ?_)
  split
  · exact failsIn_pure _
  · exact failsIn_throw htext

theorem failsIn_loadConfig (p : Path) (w : Workspace) :
    FailsIn Failure.OfConfig (loadConfig p) w := by
  refine failsIn_get_bind ?_
  dsimp only
  split
  · exact failsIn_pure _
  next hfound =>
    obtain ⟨found, hfound⟩ : ∃ found, w.files.find? (w.way (configFile w p)) = some found := by
      simpa [Option.ne_none_iff_exists'] using hfound
    refine (failsIn_readText trivial ?_).bind fun text w' _ => ?_
    · rintro e he rfl
      exact FileTree.read_ne_missing hfound he
    · split
      · exact failsIn_pure _
      · exact failsIn_throw trivial

theorem failsIn_loadBridge (p : Path) (w : Workspace) : FailsIn Failure.OfRun (loadBridge p) w := by
  refine failsIn_get_bind ?_
  dsimp only
  split
  next hfile =>
    obtain ⟨found, hfound⟩ :
        ∃ found, w.files.find? (w.way (p.expandHome w.home)) = some found := by
      rw [FileTree.isFile] at hfile
      cases hfind : w.files.find? (w.way (p.expandHome w.home)) with
      | none => simp [hfind] at hfile
      | some found => exact ⟨found, rfl⟩
    refine (failsIn_readText trivial ?_).bind fun text w' _ => ?_
    · rintro e he rfl
      exact FileTree.read_ne_missing hfound he
    · split
      · exact failsIn_pure _
      · exact failsIn_throw trivial
  · exact failsIn_throw trivial

theorem failsIn_generate (b : Bridge) (c : Config) (ownTemplates? : Option String)
    (w : Workspace) : FailsIn Failure.OfRun (generate b c ownTemplates?) w := by
  intro e w' h
  rw [perform_generate] at h
  rcases hresult : (b.generate (some c.table) (w.templatesFor c ownTemplates?)).result with e' | r
  · rw [hresult] at h
    cases h
    trivial
  · rw [hresult] at h
    cases h

end Session

/-- What a path means depends on the current folder only. -/
theorem Workspace.way_congr {w w' : Workspace} (h : w'.folder = w.folder) (p : Path) :
    w'.way p = w.way p := by
  rw [way, way, h]

/-- A path leads one step further than its parent, unless it has no steps. -/
theorem Workspace.way_parent (w : Workspace) (p : Path) :
    w.way p = w.way p.parent ∨ ∃ step, w.way p = w.way p.parent ++ [step] := by
  obtain ⟨root, steps⟩ := p
  obtain rfl | ⟨before, step, rfl⟩ := steps.eq_nil_or_concat
  · exact .inl rfl
  · refine .inr ⟨step, ?_⟩
    cases root <;> simp [way, Path.parent, Path.append, Path.isAbsolute]

namespace Session

variable {P : Failure → Prop} {w : Workspace}

theorem failsIn_writeText (p : Path) (text : String) (w : Workspace) :
    FailsIn Failure.OfOutput (writeText p text) w := by
  intro e w' h
  rw [perform_writeText, FileTree.writeInto] at h
  split at h
  next e files hmake =>
    cases h
    rintro rfl
    exact w.files.makeFolders_ne_missing (w.way p.parent) (by rw [hmake])
  next files hmake =>
    have hparent := FileTree.find?_makeFolders hmake
    split at h
    next => cases h
    next e hwrite =>
      cases h
      rintro rfl
      obtain hway | ⟨step, hway⟩ := w.way_parent p
      · rw [hway, FileTree.write_folder hparent] at hwrite
        cases hwrite
      · rw [hway] at hwrite
        exact FileTree.write_ne_missing hparent step _ hwrite

theorem failsIn_output (target? : Option Path) (text : String) (w : Workspace) :
    FailsIn Failure.OfOutput (output target? text) w := by
  cases target? with
  | none => exact failsIn_pure ()
  | some p => exact (failsIn_writeText p text w).bind fun _ _ _ => failsIn_tell _

theorem failsIn_described (path : Path) (c : Config) (ownTemplates? : Option String)
    (w : Workspace) : FailsIn Failure.OfRun (described path c ownTemplates?) w :=
  (failsIn_loadBridge path w).bind fun _ _ _ => (failsIn_tell _).bind fun _ w' _ =>
    failsIn_generate _ c ownTemplates? w'

theorem failsIn_publish (q : RunRequest) (c : Config) (r : Report) (w : Workspace) :
    FailsIn Failure.OfOutput (publish q c r) w :=
  (failsIn_output _ _ w).bind fun _ w' _ => (failsIn_output _ _ w').bind fun _ _ _ =>
    failsIn_tell _

/-- A run fails as getting its configuration does, or as a run that has it. -/
theorem failsIn_run (q : RunRequest) (w : Workspace)
    (hconfig : ∀ w', FailsIn P (configuration q (q.path w)) w') :
    FailsIn (fun e => P e ∨ e.OfRun) (run q) w := by
  rw [run_eq]
  refine FailsIn.bind ?_ fun _ w' _ => FailsIn.bind ?_ fun _ _ _ => failsIn_pure _
  · refine failsIn_get_bind ((failsIn_tell _).bind fun _ w₁ _ => FailsIn.bind ?_ fun c w₂ _ => ?_)
    · exact (hconfig w₁).mono fun _ => .inl
    · exact ((failsIn_described _ c _ w₂).mono fun _ => .inr).bind fun _ _ _ => failsIn_pure _
  · exact (failsIn_publish q _ _ w').mono fun _ h => .inr h.ofRun

end Session

end SignalBinding
