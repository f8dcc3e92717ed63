import SignalBinding.Proofs.RunRecords
import SignalBinding.Proofs.RewrittenFiles

/-!
# What a run comes to

A run without a log file that succeeds has loaded a configuration and a bridge from the files that
it found, has generated a report, and has written its texts one after the other. Nothing else can
happen to the workspace, and a run that can do all that succeeds.

## Main definitions

- `Workspace.ways?`: the ways that writing a text takes
- `RunRequest.Yields`: what a run that succeeds finds, and what it leaves

## Main statements

- `Session.run_eq_ok_iff`: a run succeeds just when it yields a report
-/

namespace SignalBinding

/-- The way to the folder of a text that goes to a file, and the way to the file. -/
def Workspace.ways? (w : Workspace) (target? : Option Path) :
    Option (List String × List String) :=
  target?.map fun p => (w.way p.parent, w.way p)

/-- The workspace with other files. -/
def Workspace.withFiles (w : Workspace) (files : FileTree) : Workspace :=
  { w with files }

/--
In the workspace `w`, the run loads the configuration `c` and the bridge `b`, generates the report
`r`, and leaves the files `tree`.
-/
structure RunRequest.Yields (q : RunRequest) (w : Workspace) (c : Config) (b : Bridge) (r : Report)
    (tree : FileTree) : Prop where
  config : ((Session.configuration q (q.path w)).perform w).1 = .ok c
  bridge : ((Session.loadBridge (q.path w)).perform w).1 = .ok b
  report : (b.generate (some c.table) (w.templatesFor c q.ownTemplates?)).result = .ok r
  files : ∃ made, w.files.writeOut (w.ways? (q.headerPath? c)) r.header.toUTF8 = (none, made) ∧
    made.writeOut (w.ways? (q.sourcePath? c)) r.source.toUTF8 = (none, tree)

/-- The records that the run makes meanwhile. -/
def RunRequest.records (q : RunRequest) (w : Workspace) (c : Config) (b : Bridge) (r : Report) :
    List Record :=
  Session.startRecord (q.path w) :: Session.bridgeRecord b ::
    (b.generate (some c.table) (w.templatesFor c q.ownTemplates?)).records ++
      ((q.headerPath? c).toList ++ (q.sourcePath? c).toList).map Session.wroteRecord ++
      [Session.endRecord r]

namespace Session

variable {α β : Type} {x : Session α} {f : α → Session β} {q : RunRequest} {w w' : Workspace}
  {c : Config} {r : Report} {logger : Logger} {shown : String}

/-! ### Getting the texts -/

/-- A sequence that starts by reading succeeds with what is read, whatever the logger is. -/
theorem Reads.bind_eq_ok_iff (hx : x.Reads) {b : β} :
    (x >>= f).perform (w.under logger shown) = (.ok b, w') ↔
      ∃ a, (x.perform w).1 = .ok a ∧ (f a).perform (w.under logger shown) = (.ok b, w') := by
  rw [perform_bind, hx w logger shown]
  cases (x.perform w).1 <;> simp

theorem described_eq_ok_iff (hlog : logger.files = []) {path : Path}
    {ownTemplates? : Option String} :
    (described path c ownTemplates?).perform (w.under logger shown) = (.ok r, w') ↔
      ∃ b, ((loadBridge path).perform w).1 = .ok b ∧
        (b.generate (some c.table) (w.templatesFor c ownTemplates?)).result = .ok r ∧
        w' = (w.settle b c ownTemplates?).under logger (shown ++ logger.shownOf
          (bridgeRecord b ::
            (b.generate (some c.table) (w.templatesFor c ownTemplates?)).records)) := by
  rw [described, (reads_loadBridge path).bind_eq_ok_iff]
  refine exists_congr fun b => and_congr_right fun _ => ?_
  have hsettle (shown : String) : (w.under logger shown).settle b c ownTemplates? =
      (w.settle b c ownTemplates?).under logger shown := by
    cases ownTemplates? <;> rfl
  have htemplates (shown : String) :
      (w.under logger shown).templatesFor c ownTemplates? = w.templatesFor c ownTemplates? := rfl
  rw [perform_bind_of_ok (perform_tell _ _), w.record_under hlog, perform_generate, hsettle,
    htemplates, Workspace.foldl_record_under hlog, String.append_assoc, ← Logger.shownOf_append,
    List.singleton_append]
  cases (b.generate (some c.table) (w.templatesFor c ownTemplates?)).result with
  | error e =>
    constructor
    · rintro ⟨⟩
    · rintro ⟨⟨⟩, -⟩
  | ok r' =>
    constructor
    · rintro ⟨⟩
      exact ⟨rfl, rfl⟩
    · rintro ⟨⟨⟩, rfl⟩
      rfl

theorem prepare_eq_ok_iff (hlog : w.logFiles = []) :
    (prepare q).perform w = (.ok (c, r), w') ↔
      ∃ b, ((configuration q (q.path w)).perform w).1 = .ok c ∧
        ((loadBridge (q.path w)).perform w).1 = .ok b ∧
        (b.generate (some c.table) (w.templatesFor c q.ownTemplates?)).result = .ok r ∧
        w' = (w.settle b c q.ownTemplates?).under w.logger (w.shown ++ w.logger.shownOf
          (startRecord (q.path w) :: bridgeRecord b ::
            (b.generate (some c.table) (w.templatesFor c q.ownTemplates?)).records)) := by
  have hstart : (tell (startRecord (q.path w))).perform w =
      (.ok (), w.under w.logger (w.shown ++ w.logger.shownOf [startRecord (q.path w)])) :=
    congrArg _ (Workspace.record_under hlog w w.shown _)
  rw [prepare, perform_bind_of_ok (perform_get w), perform_bind_of_ok hstart,
    (reads_configuration q (q.path w)).bind_eq_ok_iff]
  simp only [perform_bind_eq_ok_iff, described_eq_ok_iff hlog, perform_pure, String.append_assoc,
    ← Logger.shownOf_append, List.singleton_append]
  constructor
  · rintro ⟨c, hc, r, w₁, ⟨b, hb, hr, rfl⟩, ⟨⟩⟩
    exact ⟨b, hc, hb, hr, rfl⟩
  · rintro ⟨b, hc, hb, hr, rfl⟩
    exact ⟨c, hc, r, _, ⟨b, hb, hr, rfl⟩, rfl⟩

/-! ### Writing the texts -/

theorem output_eq_ok_iff (hlog : w.logFiles = []) {target? : Option Path} {text : String} :
    (output target? text).perform w = (.ok (), w') ↔
      ∃ tree, w.files.writeOut (w.ways? target?) text.toUTF8 = (none, tree) ∧
        w' = (w.withFiles tree).under w.logger
          (w.shown ++ w.logger.shownOf (target?.toList.map wroteRecord)) := by
  cases target? with
  | none =>
    have hnothing : w.shown ++ w.logger.shownOf [] = w.shown := by
      rw [Logger.shownOf_nil, String.append_empty]
    have hdone : (output none text).perform w = (.ok (), w) := rfl
    rw [hdone]
    constructor
    · rintro ⟨⟩
      refine ⟨w.files, rfl, ?_⟩
      rw [Option.toList_none, List.map_nil, hnothing]
      rfl
    · rintro ⟨tree, ⟨⟩, rfl⟩
      rw [Option.toList_none, List.map_nil, hnothing]
      rfl
  | some p =>
    have htell (tree : FileTree) : (tell (wroteRecord p)).perform { w with files := tree } =
        (.ok (), (w.withFiles tree).under w.logger
          (w.shown ++ w.logger.shownOf [wroteRecord p])) :=
      congrArg _ (Workspace.record_under hlog (w.withFiles tree) w.shown _)
    change (writeText p text >>= fun _ => tell (wroteRecord p)).perform w = _ ↔
      ∃ tree, w.files.writeInto (w.way p.parent) (w.way p) text.toUTF8 = _ ∧ _
    rw [perform_bind, perform_writeText]
    rcases w.files.writeInto (w.way p.parent) (w.way p) text.toUTF8 with ⟨_ | e, tree⟩
    · dsimp only [resultOf, Option.elim_none]
      rw [htell]
      simp [eq_comm]
    · simp [resultOf]

theorem publish_eq_ok_iff (hlog : w.logFiles = []) :
    (publish q c r).perform w = (.ok (), w') ↔
      ∃ made tree, w.files.writeOut (w.ways? (q.headerPath? c)) r.header.toUTF8 = (none, made) ∧
        made.writeOut (w.ways? (q.sourcePath? c)) r.source.toUTF8 = (none, tree) ∧
        w' = (w.withFiles tree).under w.logger (w.shown ++ w.logger.shownOf
          (((q.headerPath? c).toList ++ (q.sourcePath? c).toList).map wroteRecord ++
            [endRecord r])) := by
  have hbehind (tree : FileTree) (shown : String) :
      ((w.withFiles tree).under w.logger shown).logFiles = [] := hlog
  have hend (tree : FileTree) (shown : String) :
      (tell (endRecord r)).perform ((w.withFiles tree).under w.logger shown) =
        (.ok (), (w.withFiles tree).under w.logger (shown ++ w.logger.shownOf [endRecord r])) :=
    congrArg _ (Workspace.record_under hlog (w.withFiles tree) shown _)
  rw [List.map_append, Logger.shownOf_append, Logger.shownOf_append, ← String.append_assoc,
    ← String.append_assoc, publish, perform_bind_eq_ok_iff]
  constructor
  · rintro ⟨⟨⟩, w₁, hheader, h⟩
    obtain ⟨made, hmade, rfl⟩ := (output_eq_ok_iff hlog).1 hheader
    obtain ⟨⟨⟩, w₂, hsource, h⟩ := perform_bind_eq_ok_iff.1 h
    obtain ⟨tree, htree, rfl⟩ := (output_eq_ok_iff (hbehind made _)).1 hsource
    obtain ⟨-, rfl⟩ := Prod.mk.inj ((hend tree _).symm.trans h)
    exact ⟨made, tree, hmade, htree, rfl⟩
  · rintro ⟨made, tree, hmade, htree, rfl⟩
    refine ⟨(), _, (output_eq_ok_iff hlog).2 ⟨made, hmade, rfl⟩, ?_⟩
    refine perform_bind_eq_ok_iff.2 ⟨(), _, ?_, hend tree _⟩
    exact (output_eq_ok_iff (hbehind made _)).2 ⟨tree, htree, rfl⟩

/-! ### The whole run -/

/-- A run without a log file succeeds just when it yields a report. -/
theorem run_eq_ok_iff (hlog : w.logFiles = []) :
    (run q).perform w = (.ok r, w') ↔
      ∃ c b tree, q.Yields w c b r tree ∧
        w' = ((w.settle b c q.ownTemplates?).withFiles tree).under w.logger
          (w.shown ++ w.logger.shownOf (q.records w c b r)) := by
  have hfiles (b : Bridge) (c : Config) : (w.settle b c q.ownTemplates?).files = w.files := by
    cases q.ownTemplates? <;> rfl
  have hways (b : Bridge) (c : Config) (target? : Option Path) :
      (w.settle b c q.ownTemplates?).ways? target? = w.ways? target? := by
    cases q.ownTemplates? <;> rfl
  have hnone (b : Bridge) (c : Config) (shown : String) :
      ((w.settle b c q.ownTemplates?).under w.logger shown).logFiles = [] := hlog
  have hrecords (b : Bridge) (c : Config) : w.shown ++ w.logger.shownOf (q.records w c b r) =
      w.shown ++ w.logger.shownOf (startRecord (q.path w) :: bridgeRecord b ::
        (b.generate (some c.table) (w.templatesFor c q.ownTemplates?)).records) ++
        w.logger.shownOf
          (((q.headerPath? c).toList ++ (q.sourcePath? c).toList).map wroteRecord ++
            [endRecord r]) := by
    rw [RunRequest.records, List.append_assoc, Logger.shownOf_append, String.append_assoc]
  constructor
  · intro h
    obtain ⟨c, w₁, hprepare, hpublish⟩ := exists_of_run_ok h
    obtain ⟨b, hc, hb, hr, rfl⟩ := (prepare_eq_ok_iff hlog).1 hprepare
    obtain ⟨made, tree, hmade, htree, rfl⟩ := (publish_eq_ok_iff (hnone b c _)).1 hpublish
    refine ⟨c, b, tree, ⟨hc, hb, hr, made, ?_, ?_⟩, ?_⟩
    · rw [← hfiles b c, ← hways b c]
      exact hmade
    · rw [← hways b c]
      exact htree
    · rw [hrecords]
      rfl
  · rintro ⟨c, b, tree, ⟨hc, hb, hr, made, hmade, htree⟩, rfl⟩
    refine run_of_publish_ok ((prepare_eq_ok_iff hlog).2 ⟨b, hc, hb, hr, rfl⟩)
      ((publish_eq_ok_iff (hnone b c _)).2 ⟨made, tree, ?_, ?_, ?_⟩)
    · rw [← hfiles b c, ← hways b c] at hmade
      exact hmade
    · rw [← hways b c] at htree
      exact htree
    · rw [hrecords]
      rfl

end Session

end SignalBinding
