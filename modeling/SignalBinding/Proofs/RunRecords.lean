import SignalBinding.Proofs.StepKinds

/-!
# The records of a run

Which records a run makes, how it ends and what it does to the files does not depend on the logger,
as long as no log file is open. The logger only decides what the user sees of the records.

## Main definitions

- `Session.Traces`: the records, the result and the effect of a step under any logger without a file
-/

namespace SignalBinding

namespace Workspace

variable {logger : Logger}

theorem record_under (hlog : logger.files = []) (w : Workspace) (shown : String) (r : Record) :
    (w.under logger shown).record r = w.under logger (shown ++ logger.shownOf [r]) := by
  have hlines (time : String) :
      Logger.written [(w.under logger shown).logger, .root] time r = [] :=
    Logger.written_eq_nil hlog time r
  rw [record_eq, hlines]
  rfl

theorem foldl_record_under (hlog : logger.files = []) (w : Workspace) (shown : String)
    (rs : List Record) :
    rs.foldl record (w.under logger shown) = w.under logger (shown ++ logger.shownOf rs) := by
  induction rs generalizing shown with
  | nil => simp [Logger.shownOf_nil]
  | cons r rs ih =>
    rw [List.foldl_cons, record_under hlog, ih, String.append_assoc, ← Logger.shownOf_append,
      List.singleton_append]

end Workspace

namespace Session

variable {α β : Type} {x : Session α} {f : α → Session β} {w w₁ w₂ : Workspace}
  {rs rs' : List Record}

/-- A record that goes to no file is nothing that loading would notice. -/
theorem Reads.perform_record (h : x.Reads) (hlog : w.logFiles = []) (r : Record) :
    x.perform (w.record r) = ((x.perform w).1, w.record r) := by
  have hrecord : w.record r = w.under w.logger (w.shown ++ w.logger.shownOf [r]) :=
    Workspace.record_under hlog w w.shown r
  rw [hrecord]
  exact h w w.logger _

/--
Under any logger without a file, the step makes the records `rs` in the workspace `w`, gives
`result` and leaves `w'`.
-/
def Traces (step : Session α) (w : Workspace) (rs : List Record) (result : Except Failure α)
    (w' : Workspace) : Prop :=
  ∀ (logger : Logger) (shown : String), logger.files = [] →
    step.perform (w.under logger shown) = (result, w'.under logger (shown ++ logger.shownOf rs))

theorem Reads.traces (h : x.Reads) (w : Workspace) : Traces x w [] (x.perform w).1 w := by
  intro logger shown _
  rw [h w logger shown, Logger.shownOf_nil, String.append_empty]

theorem traces_tell (r : Record) (w : Workspace) : Traces (tell r) w [r] (.ok ()) w := by
  intro logger shown hlog
  rw [perform_tell, w.record_under hlog]

theorem Traces.bind {a : α} {result : Except Failure β} (hx : Traces x w rs (.ok a) w₁)
    (hf : Traces (f a) w₁ rs' result w₂) : Traces (x >>= f) w (rs ++ rs') result w₂ := by
  intro logger shown hlog
  rw [perform_bind_of_ok (hx logger shown hlog), hf logger _ hlog, String.append_assoc,
    ← Logger.shownOf_append]

theorem Traces.bind_error {e : Failure} (hx : Traces x w rs (.error e) w₁) :
    Traces (x >>= f) w rs (.error e) w₁ := by
  intro logger shown hlog
  rw [perform_bind_of_error (hx logger shown hlog)]

/-- Under any logger without a file, the step makes the same records and has the same effect. -/
def Traced (step : Session α) : Prop :=
  ∀ w, ∃ rs result w', Traces step w rs result w'

theorem Reads.traced (h : x.Reads) : x.Traced := fun w => ⟨_, _, _, h.traces w⟩

theorem Traced.bind (hx : x.Traced) (hf : ∀ a, (f a).Traced) : (x >>= f).Traced := by
  intro w
  obtain ⟨rs, e | a, w₁, h⟩ := hx w
  · exact ⟨_, _, _, h.bind_error⟩
  · obtain ⟨rs', result, w₂, h'⟩ := hf a w₁
    exact ⟨_, _, _, h.bind h'⟩

/-- A traced step may look at anything in the workspace but the logger. -/
theorem traced_get_bind {f : Workspace → Session α} (hf : ∀ w, (f w).Traced)
    (hunder : ∀ w logger shown, f (Workspace.under w logger shown) = f w) : (get >>= f).Traced := by
  intro w
  obtain ⟨rs, result, w', h⟩ := hf w w
  refine ⟨rs, result, w', fun logger shown hlog => ?_⟩
  rw [perform_bind_of_ok (perform_get _), hunder]
  exact h logger shown hlog

theorem traced_tell (r : Record) : (tell r).Traced := fun w => ⟨_, _, _, traces_tell r w⟩

theorem traced_generate (b : Bridge) (c : Config) (ownTemplates? : Option String) :
    (generate b c ownTemplates?).Traced := by
  intro w
  have hsettle (logger : Logger) (shown : String) :
      (w.under logger shown).settle b c ownTemplates? =
        (w.settle b c ownTemplates?).under logger shown := by
    cases ownTemplates? <;> rfl
  let journal := b.generate (some c.table) (w.templatesFor c ownTemplates?)
  refine ⟨journal.records, journal.result.mapError .template, w.settle b c ownTemplates?, ?_⟩
  intro logger shown hlog
  rw [perform_generate, hsettle, Workspace.foldl_record_under hlog]
  rfl

theorem traced_writeText (p : Path) (text : String) : (writeText p text).Traced := by
  intro w
  refine ⟨[], ((writeText p text).perform w).1, ((writeText p text).perform w).2, ?_⟩
  intro logger shown _
  rw [perform_writeText, perform_writeText, Logger.shownOf_nil, String.append_empty]
  rfl

theorem stepKind_traced : StepKind Traced where
  pure a := (reads_pure a).traced
  bind := Traced.bind
  tell := traced_tell

theorem traced_output (target? : Option Path) (text : String) : (output target? text).Traced :=
  stepKind_traced.output traced_writeText target? text

theorem traced_prepare (q : RunRequest) : (prepare q).Traced :=
  stepKind_traced.prepare (fun hf => traced_get_bind (fun w => hf (q.path w)) fun _ _ _ => rfl)
    (fun path => (reads_configuration q path).traced) (fun path => (reads_loadBridge path).traced)
    fun b c => traced_generate b c q.ownTemplates?

/-- What a run does is not for the logger to decide. -/
theorem traced_run (q : RunRequest) : (run q).Traced :=
  stepKind_traced.run (traced_prepare q) traced_writeText

end Session

end SignalBinding
