import SignalBinding.Proofs.CommandSteps
import SignalBinding.Proofs.OutputTexts
import SignalBinding.Proofs.PairedReports

/-!
# What goes to standard output

The texts that have no file go to standard output, the header before the source, with an empty line
between two texts. A report with a header has a source, too. So the texts on standard output are
those that the same command would leave in two files.

## Main definitions

- `standardOutput`: the texts of a report that have no file
-/

namespace SignalBinding

open CommandLine

/-- What a command writes to standard output when its texts have the files `header?` and
`source?`. -/
def standardOutput (r : Report) (header? source? : Option Path) : String :=
  match header?, source? with
  | none, none => r.header ++ (if r.header ≠ "" ∧ r.source ≠ "" then "\n" else "") ++ r.source
  | none, some _ => r.header
  | some _, none => r.source
  | some _, some _ => ""

theorem outputText_eq (r : Report) (header? source? : Option Path) :
    outputText r header?.isSome source?.isSome = standardOutput r header? source? := by
  cases header? <;> cases source? <;> try rfl
  dsimp only [outputText, standardOutput, Option.isSome_none]
  split
  · rfl
  · rw [String.append_empty]

/-- The empty line depends on the header alone, as there is no header without a source. -/
theorem Report.Paired.standardOutput_eq {r : Report} (h : r.Paired) :
    standardOutput r none none =
      r.header ++ (if r.header ≠ "" then "\n" else "") ++ r.source := by
  have hboth : (r.header ≠ "" ∧ r.source ≠ "") ↔ r.header ≠ "" :=
    ⟨And.left, fun hheader => ⟨hheader, h.source_ne_empty hheader⟩⟩
  simp only [standardOutput, hboth]

/-- The same command with two files for its texts. -/
def CommandLine.Generate.into (g : Generate) (header source : String) : Generate :=
  { g with header? := some header, source? := some source }

namespace Session

variable {arguments arguments' : List String} {g : Generate} {q : RunRequest}
  {w w' v : Workspace} {c : Config} {r : Report}

/-- Every owner of a run has a definition. -/
theorem paired_of_prepare (h : (prepare q).perform w = (.ok (c, r), w')) : r.Paired := by
  rw [prepare, perform_bind_of_ok (perform_get w), perform_bind_of_ok (perform_tell _ w)] at h
  obtain ⟨c', w₁, -, h⟩ := perform_bind_eq_ok_iff.1 h
  obtain ⟨r', w₂, hdescribed, h⟩ := perform_bind_eq_ok_iff.1 h
  cases h
  obtain ⟨b, w₃, -, h⟩ := perform_bind_eq_ok_iff.1 hdescribed
  obtain ⟨⟨⟩, w₄, -, h⟩ := perform_bind_eq_ok_iff.1 h
  rw [perform_generate] at h
  cases hresult : (b.generate (some c.table) (w₄.templatesFor c q.ownTemplates?)).result with
  | error e =>
    rw [hresult] at h
    cases h
  | ok r' =>
    rw [hresult] at h
    cases h
    exact Generation.paired_generate hresult

/-- A command that has a report ends with the texts that have no file on standard output. -/
theorem perform_command_of_report (harguments : Request.ofArguments arguments = .generate g)
    (h : (reported g).perform w = (.ok (c, r), v)) :
    ((command arguments).perform w).1 = .ok {
        exitCode := if r.ok then 0 else 1
        output := standardOutput r ((g.requestWith w.home c).headerPath? c)
          ((g.requestWith w.home c).sourcePath? c) } ∧
      ((command arguments).perform w).2.files = v.files := by
  have htargets : g.targets c = ((g.requestWith w.home c).headerPath? c,
      (g.requestWith w.home c).sourcePath? c) := rfl
  rw [command_of_request harguments, perform_generateCommand, h]
  dsimp only
  rw [htargets, perform_finish, outputText_eq]
  split
  · exact ⟨rfl, rfl⟩
  · exact ⟨rfl, rfl⟩

/-- The parts of a command that has a report, when its configuration names no log file. -/
theorem exists_of_reported_ok (hfile : c.logFile? = none)
    (h : (reported g).perform w = (.ok (c, r), v)) :
    ∃ w₁, (prepare (g.requestWith w.home c)).perform (w.under (g.logger c) w.shown) =
        (.ok (c, r), w₁) ∧
      (publish (g.requestWith w.home c) c r).perform w₁ = (.ok (), v) := by
  rw [perform_reported_of_no_file (load_of_reported h) hfile] at h
  obtain ⟨r', hr, hpair⟩ := map_eq_ok_iff.1 (congrArg Prod.fst h)
  obtain rfl : r' = r := (Prod.mk.inj hpair).2
  obtain ⟨c', w₁, hprepare, hpublish⟩ := exists_of_run_ok (perform_eq_of_result hr)
  obtain rfl : c = c' := Except.ok.inj (exists_of_prepare_ok rfl hprepare)
  exact ⟨w₁, hprepare, hpublish.trans (congrArg (_, ·) (congrArg Prod.snd h))⟩

theorem paths_requestWith_eq_none (hheader : g.header? = none) (hsource : g.source? = none)
    (hc : c.header? = none ∧ c.source? = none) (home : Path) :
    (g.requestWith home c).headerPath? c = none ∧ (g.requestWith home c).sourcePath? c = none := by
  simp [RunRequest.headerPath?, RunRequest.sourcePath?, Generate.requestWith, hheader, hsource, hc]

theorem configPath_into (header source : String) (folder home : Path) :
    (g.into header source).configPath folder home = g.configPath folder home := rfl

theorem logger_into (header source : String) :
    (g.into header source).logger c = g.logger c := rfl

/-- How a run gets its texts is not for their files to decide. -/
theorem prepare_into (header source : String) (home : Path) :
    prepare ((g.into header source).requestWith home c) = prepare (g.requestWith home c) := rfl

/--
Without files for its texts, a command has the same report as with two files, if its configuration
names none.
-/
theorem reported_of_into {header source : String} (hheader : g.header? = none)
    (hsource : g.source? = none) (hc : c.header? = none ∧ c.source? = none)
    (hfile : c.logFile? = none)
    (h : (reported (g.into header source)).perform w = (.ok (c, r), v)) :
    ∃ v', (reported g).perform w = (.ok (c, r), v') := by
  obtain ⟨w₁, hprepare, -⟩ := exists_of_reported_ok hfile h
  rw [prepare_into, logger_into] at hprepare
  obtain ⟨hnone, hnone'⟩ := paths_requestWith_eq_none hheader hsource hc w.home
  have hpublish : (publish (g.requestWith w.home c) c r).perform w₁ =
      (.ok (), w₁.record (endRecord r)) := by
    rw [publish, hnone, hnone']
    rfl
  have hrun : (run (g.requestWith w.home c)).perform (w.under (g.logger c) w.shown) =
      (.ok r, w₁.record (endRecord r)) := run_of_publish_ok hprepare hpublish
  have hload := load_of_reported h
  rw [configPath_into] at hload
  rw [perform_reported_of_no_file hload hfile, hrun]
  exact ⟨_, rfl⟩

/-- A command with two files leaves its texts there. -/
theorem reads_of_into {header source : String} (hfile : c.logFile? = none)
    (hne : (Path.ofText header).resolve w.folder ≠ (Path.ofText source).resolve w.folder)
    (h : (reported (g.into header source)).perform w = (.ok (c, r), v)) :
    v.files.read (w.way (Path.ofText header)) = .ok r.header.toUTF8 ∧
      v.files.read (w.way (Path.ofText source)) = .ok r.source.toUTF8 := by
  obtain ⟨w₁, hprepare, hpublish⟩ := exists_of_reported_ok hfile h
  have hlogs := (onlyLogs_prepare _).of_perform hprepare
  have hfolder : w₁.folder = w.folder := hlogs.folder
  obtain ⟨hsource, hheader⟩ := publish_spec hlogs.logFiles_eq hpublish
  rw [← Workspace.way_congr hfolder, ← Workspace.way_congr hfolder]
  refine ⟨hheader _ rfl fun p' hp' => ?_, hsource _ rfl⟩
  obtain rfl : Path.ofText source = p' := Option.some.inj hp'
  rw [hfolder]
  exact hne

/--
Standard output holds the texts that have no file. The command without files for its texts writes
what it leaves in two different files if it is given these, with an empty line behind a header.
-/
theorem standard_output (harguments : Request.ofArguments arguments = .generate g) :
    (∀ w c r v, (reported g).perform w = (.ok (c, r), v) →
      ((command arguments).perform w).1 = .ok {
        exitCode := if r.ok then 0 else 1
        output := standardOutput r ((g.requestWith w.home c).headerPath? c)
          ((g.requestWith w.home c).sourcePath? c) }) ∧
    ∀ w c r v header source,
      Request.ofArguments arguments' = .generate (g.into header source) →
      (reported (g.into header source)).perform w = (.ok (c, r), v) →
      g.header? = none → g.source? = none → c.header? = none → c.source? = none →
      c.logFile? = none →
      (Path.ofText header).resolve w.folder ≠ (Path.ofText source).resolve w.folder →
      ∃ H S code,
        ((command arguments').perform w).2.files.read (w.way (Path.ofText header)) =
          .ok H.toUTF8 ∧
        ((command arguments').perform w).2.files.read (w.way (Path.ofText source)) =
          .ok S.toUTF8 ∧
        ((command arguments').perform w).1 = .ok { exitCode := code, output := "" } ∧
        ((command arguments).perform w).1 =
          .ok { exitCode := code, output := H ++ (if H ≠ "" then "\n" else "") ++ S } := by
  refine ⟨fun w c r v h => (perform_command_of_report harguments h).1, ?_⟩
  intro w c r v header source harguments' h hheader hsource hcheader hcsource hfile hne
  obtain ⟨v', h'⟩ := reported_of_into hheader hsource ⟨hcheader, hcsource⟩ hfile h
  obtain ⟨w₁, hprepare, -⟩ := exists_of_reported_ok hfile h
  obtain ⟨hholds, hholds'⟩ := reads_of_into hfile hne h
  obtain ⟨hinto, hfiles⟩ := perform_command_of_report harguments' h
  obtain ⟨hout, -⟩ := perform_command_of_report harguments h'
  obtain ⟨hnone, hnone'⟩ := paths_requestWith_eq_none hheader hsource ⟨hcheader, hcsource⟩ w.home
  rw [hnone, hnone', (paired_of_prepare hprepare).standardOutput_eq] at hout
  exact ⟨r.header, r.source, _, hfiles ▸ hholds, hfiles ▸ hholds', hinto, hout⟩

/-- A project with one signal and no configuration. -/
def oneSignal : Workspace where
  folder := Path.ofText "/r"
  home := Path.ofText "/h"
  time := "now"
  files := {
    entries := [
      (["r"], .folder),
      (["r", "b.yml"], .file 0 "free_signals: [{qobject: B, name: b}]".toUTF8)]
    next := 1 }

theorem standard_output_oneSignal :
    ∃ H S code,
      ((command ["generate", "b.yml", "--header", "h", "--source=s"]).perform
        oneSignal).2.files.read (oneSignal.way (Path.ofText "h")) = .ok H.toUTF8 ∧
      ((command ["generate", "b.yml", "--header", "h", "--source=s"]).perform
        oneSignal).2.files.read (oneSignal.way (Path.ofText "s")) = .ok S.toUTF8 ∧
      ((command ["generate", "b.yml", "--header", "h", "--source=s"]).perform oneSignal).1 =
        .ok { exitCode := code, output := "" } ∧
      ((command ["generate", "b.yml"]).perform oneSignal).1 =
        .ok { exitCode := code, output := H ++ (if H ≠ "" then "\n" else "") ++ S } := by
  let g : Generate := { bridge := "b.yml" }
  have harguments : Request.ofArguments ["generate", "b.yml"] = .generate g := by decide +kernel
  have hinto : Request.ofArguments ["generate", "b.yml", "--header", "h", "--source=s"] =
      .generate (g.into "h" "s") := by decide +kernel
  have hreported : ((reported (g.into "h" "s")).perform oneSignal).1.map
      (fun a => (a.1.header?, a.1.source?, a.1.logFile?)) = .ok (none, none, none) := by
    decide +kernel
  obtain ⟨⟨c, r⟩, h, hpaths⟩ := map_eq_ok_iff.1 hreported
  obtain ⟨hheader, hpaths⟩ := Prod.mk.inj hpaths
  obtain ⟨hsource, hfile⟩ := Prod.mk.inj hpaths
  exact (standard_output harguments).2 oneSignal c r _ "h" "s" hinto (perform_eq_of_result h) rfl
    rfl hheader hsource hfile (by decide +kernel)

end Session

end SignalBinding
