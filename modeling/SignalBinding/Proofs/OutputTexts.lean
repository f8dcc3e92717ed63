import SignalBinding.Proofs.CompletedRuns
import SignalBinding.Proofs.LogFiles

/-!
# Where the texts of a run end up

The header is written before the source. So the file of the source holds the source after a run,
wherever it is, and the file of the header holds the header unless it is the same file: nothing
looks at how the two paths relate.
-/

namespace SignalBinding

namespace FileTree

variable {tree tree' : FileTree} {folder way : List String} {content : ByteArray}

/-- A file that has been written holds its content. -/
theorem read_writeInto (h : tree.writeInto folder way content = (none, tree')) :
    tree'.read way = .ok content := by
  rw [writeInto] at h
  split at h
  next => cases h
  next made _ =>
    split at h
    next hwrite =>
      cases h
      exact read_write hwrite
    next => cases h

/-- Files elsewhere keep what they hold. -/
theorem read_writeInto_of_ne {way' : List String} {content' : ByteArray}
    (h : tree.writeInto folder way content = (none, tree')) (hread : tree.read way' = .ok content')
    (hne : Path.cancel [] way' ≠ Path.cancel [] way) : tree'.read way' = .ok content' := by
  have hmade := extends_makeFolders tree folder
  rw [writeInto] at h
  split at h
  next => cases h
  next made hmake =>
    rw [hmake] at hmade
    split at h
    next hwrite =>
      cases h
      exact read_write_of_ne (hmade.read hread) hwrite hne
    next => cases h

end FileTree

namespace Session

variable {q : RunRequest} {w w' : Workspace} {c : Config} {r : Report}

/-- An output holds its text, and leaves files elsewhere as they are. -/
theorem output_spec {target? : Option Path} {text : String} (hlog : w.logFiles = [])
    (h : (output target? text).perform w = (.ok (), w')) :
    w'.folder = w.folder ∧ w'.logger = w.logger ∧
      (∀ p, target? = some p → w'.files.read (w.way p) = .ok text.toUTF8) ∧
      ∀ way content, w.files.read way = .ok content →
        (∀ p, target? = some p → Path.cancel [] way ≠ (p.resolve w.folder).steps) →
        w'.files.read way = .ok content := by
  cases target? with
  | none =>
    cases h
    exact ⟨rfl, rfl, by simp, fun _ _ hread _ => hread⟩
  | some p =>
    obtain ⟨⟨⟩, w₁, hwrite, htell⟩ := perform_bind_eq_ok_iff.1 h
    rw [perform_tell] at htell
    rw [perform_writeText] at hwrite
    rcases hinto : w.files.writeInto (w.way p.parent) (w.way p) text.toUTF8 with ⟨_ | e, tree⟩
    · rw [hinto] at hwrite
      cases hwrite
      cases htell
      have hrecord := Workspace.onlyLogs_record { w with files := tree } (wroteRecord p)
      have hfiles := hrecord.files_eq hlog
      refine ⟨hrecord.folder, hrecord.logger, ?_, fun way content hread hne => ?_⟩
      · rintro _ ⟨⟩
        rw [hfiles]
        exact FileTree.read_writeInto hinto
      · rw [hfiles]
        exact FileTree.read_writeInto_of_ne hinto hread (hne p rfl)
    · rw [hinto] at hwrite
      cases hwrite

theorem publish_spec (hlog : w.logFiles = []) (h : (publish q c r).perform w = (.ok (), w')) :
    (∀ p, q.sourcePath? c = some p → w'.files.read (w.way p) = .ok r.source.toUTF8) ∧
      ∀ p, q.headerPath? c = some p →
        (∀ p', q.sourcePath? c = some p' → p.resolve w.folder ≠ p'.resolve w.folder) →
        w'.files.read (w.way p) = .ok r.header.toUTF8 := by
  obtain ⟨⟨⟩, w₁, hheader, h⟩ := perform_bind_eq_ok_iff.1 h
  obtain ⟨⟨⟩, w₂, hsource, h⟩ := perform_bind_eq_ok_iff.1 h
  obtain ⟨hfolder, hlog₁, hholds, -⟩ := output_spec hlog hheader
  have hnone : w₁.logFiles = [] := by
    rw [Workspace.logFiles, hlog₁]; exact hlog
  obtain ⟨-, hlog₂, hholds', hkeeps⟩ := output_spec hnone hsource
  have hend : w'.files = w₂.files := by
    rw [perform_tell] at h
    cases h
    exact (Workspace.onlyLogs_record w₂ _).files_eq (by rw [Workspace.logFiles, hlog₂]; exact hnone)
  refine ⟨fun p hp => ?_, fun p hp hne => ?_⟩
  · rw [hend, ← Workspace.way_congr hfolder]
    exact hholds' p hp
  · rw [hend]
    refine hkeeps _ _ (hholds p hp) fun p' hp' hsame => hne p' hp' ?_
    rw [hfolder] at hsame
    exact congrArg (Path.mk .top) hsame

/-- A run that has its texts has loaded its configuration from the files that were there. -/
theorem exists_of_prepare_ok (hlog : w.logFiles = [])
    (h : (prepare q).perform w = (.ok (c, r), w')) :
    ((configuration q (q.path w)).perform w).1 = .ok c := by
  obtain ⟨b, hc, -⟩ := (prepare_eq_ok_iff hlog).1 h
  exact hc

/--
After a run without a log file, the file of the source holds the source, and the file of the header
holds the header unless the source goes to the same file.
-/
theorem outputs_hold_texts (hlog : w.logFiles = []) (h : (run q).perform w = (.ok r, w')) :
    ∃ c, ((configuration q (q.path w)).perform w).1 = .ok c ∧
      (∀ p, q.sourcePath? c = some p → w'.files.read (w.way p) = .ok r.source.toUTF8) ∧
      ∀ p, q.headerPath? c = some p →
        (∀ p', q.sourcePath? c = some p' → p.resolve w.folder ≠ p'.resolve w.folder) →
        w'.files.read (w.way p) = .ok r.header.toUTF8 := by
  obtain ⟨c, w₁, hprepare, hpublish⟩ := exists_of_run_ok h
  have hlogs := (onlyLogs_prepare q).of_perform hprepare
  obtain ⟨hsource, hheader⟩ := publish_spec (hlogs.logFiles_eq.trans hlog) hpublish
  simp only [Workspace.way_congr hlogs.folder, hlogs.folder] at hsource hheader
  exact ⟨c, exists_of_prepare_ok hlog hprepare, hsource, hheader⟩

/-- A project with one signal, whose templates make each of the two texts a single letter. -/
def shortTemplates : Workspace where
  folder := Path.ofText "/r"
  home := Path.ofText "/h"
  time := "now"
  files := {
    entries := [
      (["r"], .folder),
      (["r", "b.yml"], .file 0 "free_signals: [{qobject: B, name: b}]".toUTF8),
      (["r", ".signalgen.yml"], .file 1 "templates_dir: t".toUTF8),
      (["r", "t"], .folder),
      (["r", "t", "signals"], .folder),
      (["r", "t", "signals", "free_connect_header.j2"], .file 2 "h".toUTF8),
      (["r", "t", "signals", "free_connect_source.j2"], .file 3 "s".toUTF8)]
    next := 4 }

/-- The texts stay apart, however the paths of their files are spelled. -/
theorem outputs_hold_texts_shortTemplates :
    let q : RunRequest := {
      bridge := Path.ofText "b.yml"
      header? := some (Path.ofText "x/../o.h")
      source? := some (Path.ofText "/r/o.cpp") }
    ∃ r w', (run q).perform shortTemplates = (.ok r, w') ∧ r.header = "h\n" ∧ r.source = "s\n" ∧
      w'.files.read (shortTemplates.way (Path.ofText "x/../o.h")) = .ok r.header.toUTF8 ∧
      w'.files.read (shortTemplates.way (Path.ofText "/r/o.cpp")) = .ok r.source.toUTF8 := by
  intro q
  have htexts : ((run q).perform shortTemplates).1.map (fun r => (r.header, r.source)) =
      .ok ("h\n", "s\n") := by decide +kernel
  obtain ⟨r, hr, htexts⟩ := map_eq_ok_iff.1 htexts
  obtain ⟨hh, hs⟩ := Prod.mk.inj htexts
  have hrun := perform_eq_of_result hr
  obtain ⟨c, -, hsource, hheader⟩ := outputs_hold_texts rfl hrun
  refine ⟨r, _, hrun, hh, hs, hheader _ rfl fun p' hp' => ?_, hsource _ rfl⟩
  obtain rfl : Path.ofText "/r/o.cpp" = p' := Option.some.inj hp'
  decide +kernel

/-- Where both texts go to the same file, the header is lost. -/
theorem header_overwritten_shortTemplates :
    let q : RunRequest := {
      bridge := Path.ofText "b.yml"
      header? := some (Path.ofText "o")
      source? := some (Path.ofText "o") }
    ¬∀ r w', shortTemplates.logFiles = [] → (run q).perform shortTemplates = (.ok r, w') →
      ∃ c, ((configuration q (q.path shortTemplates)).perform shortTemplates).1 = .ok c ∧
        (∀ p, q.headerPath? c = some p →
          w'.files.read (shortTemplates.way p) = .ok r.header.toUTF8) ∧
        ∀ p, q.sourcePath? c = some p →
          w'.files.read (shortTemplates.way p) = .ok r.source.toUTF8 := by
  intro q hclaim
  have htexts : ((run q).perform shortTemplates).1.map (fun r => (r.header, r.source)) =
      .ok ("h\n", "s\n") := by decide +kernel
  obtain ⟨r, hr, htexts⟩ := map_eq_ok_iff.1 htexts
  obtain ⟨hh, hs⟩ := Prod.mk.inj htexts
  obtain ⟨c, -, hheader, hsource⟩ := hclaim r _ rfl (perform_eq_of_result hr)
  have hsame := (hheader _ rfl).symm.trans (hsource _ rfl)
  have htext : r.header = r.source := String.toByteArray_inj.1 (Except.ok.inj hsame)
  rw [hh, hs] at htext
  exact absurd htext (by decide)

end Session

end SignalBinding
