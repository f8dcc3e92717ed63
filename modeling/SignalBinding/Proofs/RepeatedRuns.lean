import SignalBinding.Proofs.CompletedRuns
import SignalBinding.Proofs.OutputTexts
import SignalBinding.Proofs.PreparedRuns

/-!
# Runs that are done again

A run whose texts go to none of the files that it reads can be done again, with the same report and
without a change to any file. This is so because the first run changes nothing that it has read, not
even where something was missing: the configuration file, the bridge, and the templates in their
folder. There is one exception. The way to the templates may pass a folder and leave it again by a
step back. If this folder is missing, no template is found; if the run makes it for one of its
texts, the next run finds them.

## Main definitions

- `RunRequest.written`, `RunRequest.made`: where a run puts its texts, and the folders for them
- `RunRequest.Apart`: places that are none of what a run reads
- `RunRequest.Direct`: whether the way to the templates leaves no folder that a run makes
- `Workspace.Built`: a workspace after such places have been written and made

## Main statements

- `Session.rooted_run`: a run leaves everything in a folder
- `Session.run_again`: a run gives the same again, and changes nothing
-/

namespace SignalBinding

namespace RunRequest

/-- The paths of the texts of the run. -/
def targets (q : RunRequest) (c : Config) : List Path :=
  (q.headerPath? c).toList ++ (q.sourcePath? c).toList

/-- The places of the texts of the run. -/
def written (q : RunRequest) (w : Workspace) (c : Config) : List Place :=
  (q.targets c).map fun p => (p.resolve w.folder).steps

/-- The places where folders come into being for the texts of the run. -/
def made (q : RunRequest) (w : Workspace) (c : Config) : List Place :=
  (w.placesOf ((q.targets c).map Path.parent)).filter fun p => ( w.files.entry? p).isNone

/-- The folder in which the run looks for templates. -/
def templateFolder? (q : RunRequest) (c : Config) : Option Path :=
  match q.ownTemplates? with
  | some own => some (Path.ofText own)
  | none => c.templates?

/-- The place is neither that of the bridge, nor that of the configuration file that the run looks
for, nor below the folder of the templates. -/
structure Apart (q : RunRequest) (w : Workspace) (c : Config) (place : Place) : Prop where
  bridge : place ≠ (q.path w).steps
  config : ∀ p, q.configPath? w = some p → place ≠ (Session.configFile w p).steps
  templates : ∀ folder, q.templateFolder? c = some folder →
    (folder.resolve w.folder).steps <+: place → place = (folder.resolve w.folder).steps

/-- The way to the folder leaves none of the folders that the run makes: those that it passes are
above its end. -/
def Direct (q : RunRequest) (w : Workspace) (c : Config) (folder : Path) : Prop :=
  ∀ place ∈ q.made w c, place ∈ FileTree.placesOnWay [] (w.way folder) →
    place <+: (folder.resolve w.folder).steps

end RunRequest

theorem RunRequest.Apart.of_ne {q : RunRequest} {w : Workspace} {c : Config} {place : Place}
    {p folder : Path} (hp : q.configPath? w = some p) (hfolder : q.templateFolder? c = some folder)
    (hbridge : place ≠ (q.path w).steps) (hconfig : place ≠ (Session.configFile w p).steps)
    (htemplates : ¬(folder.resolve w.folder).steps <+: place) : q.Apart w c place := by
  refine ⟨hbridge, fun p' hp' => ?_, fun folder' hfolder' habove => ?_⟩
  · obtain rfl : p = p' := Option.some.inj (hp.symm.trans hp')
    exact hconfig
  · obtain rfl : folder = folder' := Option.some.inj (hfolder.symm.trans hfolder')
    exact absurd habove htemplates

namespace Workspace

/-- From `w` to `w'`, the run has written its texts and made folders for them. -/
structure Built (q : RunRequest) (c : Config) (w w' : Workspace) : Prop where
  libraries : w'.libraries = w.libraries
  folder : w'.folder = w.folder
  home : w'.home = w.home
  files : FileTree.Built (· ∈ q.written w c) (· ∈ w.placesOf ((q.targets c).map Path.parent))
    w.files w'.files

theorem way_child (w : Workspace) (p : Path) (name : String) :
    w.way (p.child name) = w.way p ++ [name] := by
  obtain ⟨root, steps⟩ := p
  cases root <;> simp [way, Path.child, Path.append, Path.isAbsolute]

/-- A template is two steps below its folder. -/
theorem cancel_template (w : Workspace) (folder : Path) (name : TemplateName) :
    Path.cancel [] (w.way ((folder.child "signals").child name.fileName)) =
      (folder.resolve w.folder).steps ++ ["signals"] ++ [name.fileName] := by
  have hname : name.fileName ≠ ".." := by cases name <;> decide
  rw [way_child, way_child, Path.cancel_concat hname, Path.cancel_concat (by decide)]
  rfl

/-- Behind the folder of a template, the way to it leads down. -/
theorem mem_placesOnWay_template {w : Workspace} {folder : Path} {name : TemplateName}
    {place : Place} (h : place ∈ FileTree.placesOnWay []
      (w.way ((folder.child "signals").child name.fileName))) :
    place ∈ FileTree.placesOnWay [] (w.way folder) ∨
      place <+: Path.cancel [] (w.way ((folder.child "signals").child name.fileName)) := by
  have hname : name.fileName ≠ ".." := by cases name <;> decide
  rw [way_child, way_child, FileTree.placesOnWay_concat hname,
    FileTree.placesOnWay_concat (by decide), List.mem_append, List.mem_append] at h
  rw [way_child, way_child, Path.cancel_concat hname, Path.cancel_concat (by decide)]
  obtain (hon | hfolder) | hend := h
  · exact .inl hon
  · rw [List.mem_singleton.1 hfolder]
    exact .inr (List.prefix_append _ _)
  · rw [List.mem_singleton.1 hend, List.reverse_nil, Path.cancel_concat (by decide)]
    exact .inr (List.prefix_refl _)

theorem mem_placesOf {w : Workspace} {paths : List Path} {place : Place} :
    place ∈ w.placesOf paths ↔ ∃ p ∈ paths, place ∈ FileTree.placesOnWay [] (w.way p) := by
  rw [placesOf, List.mem_eraseDups, List.mem_flatMap]

end Workspace

theorem RunRequest.Apart.ne_template {q : RunRequest} {w : Workspace} {c : Config} {place : Place}
    {folder : Path} (h : q.Apart w c place) (hfolder : q.templateFolder? c = some folder)
    (name : TemplateName) :
    place ≠ Path.cancel [] (w.way ((folder.child "signals").child name.fileName)) := by
  rintro rfl
  have habove := h.templates folder hfolder
  rw [w.cancel_template, List.append_assoc] at habove
  simpa using habove (List.prefix_append _ _)

namespace Session

variable {q : RunRequest} {w w' : Workspace} {c c' : Config} {b : Bridge} {r : Report}
  {tree : FileTree} {p : Path} {place : Place}

/-! ### What a run changes -/

/-- What a run leaves has been built. -/
theorem built_of_yields (h : q.Yields w c b r tree) :
    FileTree.Built (· ∈ q.written w c) (· ∈ w.placesOf ((q.targets c).map Path.parent))
      w.files tree := by
  have htarget {t t' : FileTree} {target? : Option Path} {content : ByteArray}
      (hsub : ∀ p, target? = some p → p ∈ q.targets c)
      (h : t.writeOut (w.ways? target?) content = (none, t')) :
      FileTree.Built (· ∈ q.written w c) (· ∈ w.placesOf ((q.targets c).map Path.parent)) t t' := by
    refine (FileTree.built_writeOut h).mono ?_ ?_
    · rintro place ⟨ways, hways, rfl⟩
      obtain ⟨p, hp, rfl⟩ := Option.map_eq_some_iff.1 hways
      exact List.mem_map.2 ⟨p, hsub p hp, rfl⟩
    · rintro place ⟨ways, hways, hplace⟩
      obtain ⟨p, hp, rfl⟩ := Option.map_eq_some_iff.1 hways
      exact Workspace.mem_placesOf.2 ⟨p.parent, List.mem_map_of_mem (hsub p hp), hplace⟩
  obtain ⟨made, hmade, htree⟩ := h.files
  refine (htarget (fun p hp => ?_) hmade).trans (htarget (fun p hp => ?_) htree)
  · simp [RunRequest.targets, hp]
  · simp [RunRequest.targets, hp]

/-- The step leaves everything in a folder. -/
def KeepsRooted {α : Type} (step : Session α) : Prop :=
  ∀ w : Workspace, w.files.Rooted → (step.perform w).2.files.Rooted

theorem keepsRooted_of_onlyLogs {α : Type} {step : Session α} (h : step.OnlyLogs) :
    KeepsRooted step := by
  intro w hw
  obtain ⟨lines, -, hlines⟩ := (h w).files
  exact hlines ▸ hw.receive lines

theorem stepKind_keepsRooted : StepKind KeepsRooted where
  pure _ _ h := h
  bind {α β x f} hx hf w h := by
    have hfirst := hx w h
    rw [perform_bind]
    rcases hperform : x.perform w with ⟨e | a, w₁⟩ <;> rw [hperform] at hfirst
    · exact hfirst
    · exact hf a w₁ hfirst
  tell r := keepsRooted_of_onlyLogs (onlyLogs_tell r)

/-- A run leaves everything in a folder, however it ends. -/
theorem rooted_run (q : RunRequest) (h : w.files.Rooted) : ((run q).perform w).2.files.Rooted := by
  refine stepKind_keepsRooted.run (keepsRooted_of_onlyLogs (onlyLogs_prepare q))
    (fun p text w hw => ?_) w h
  rw [perform_writeText]
  exact hw.writeInto _ _ _

/-! ### What a run finds again -/

/-- What is loaded from a folder is no configuration. -/
theorem find?_ne_folder_of_loadConfig (h : ((loadConfig p).perform w).1 = .ok c) :
    w.files.find? (w.way (configFile w p)) ≠ some .folder := by
  intro hfolder
  have hread := FileTree.read_of_find? hfolder
  rw [loadConfig, perform_bind_of_ok (perform_get w)] at h
  simp only [hfolder, Option.isNone_some, Bool.false_eq_true, if_false] at h
  rw [perform_bind, readText, perform_bind_of_ok (perform_get w), perform_bind, perform_check,
    hread] at h
  cases h

section Again

variable (hbuilt : w.Built q c w') (hrooted : w.files.Rooted) (hrooted' : w'.files.Rooted)

include hbuilt hrooted hrooted'

/-- At a place that is neither written nor made, there is what has been there. -/
theorem find?_resolve_again (p : Path) (hwritten : (p.resolve w.folder).steps ∉ q.written w c)
    (hmade : (p.resolve w.folder).steps ∉ q.made w c) :
    w'.files.find? (p.resolve w.folder).steps = w.files.find? (p.resolve w.folder).steps := by
  have hback : ".." ∉ (p.resolve w.folder).steps := Path.dotdot_not_mem_cancel (by simp)
  rw [hrooted.find? hback, hrooted'.find? hback]
  refine hbuilt.files.entry hwritten fun hnone hplace => hmade ?_
  exact List.mem_filter.2 ⟨hplace, by rw [hnone]; rfl⟩

/-- The configuration is looked for at the same place again. -/
theorem configFile_again (h : ((loadConfig p).perform w).1 = .ok c')
    (hwritten : (configFile w p).steps ∉ q.written w c)
    (hmade : (configFile w p).steps ∉ q.made w c) : configFile w' p = configFile w p := by
  have hnofolder := find?_ne_folder_of_loadConfig h
  unfold configFile at hwritten hmade hnofolder ⊢
  dsimp only at hwritten hmade hnofolder ⊢
  rw [hbuilt.home, hbuilt.folder, Workspace.way_congr hbuilt.folder]
  by_cases hfolder : w.files.isFolder (w.way (p.expandHome w.home)) = true
  · have hfolder' := FileTree.isFolder_iff.2
      (hbuilt.files.find?_folder (FileTree.isFolder_iff.1 hfolder))
    rw [if_pos hfolder, if_pos hfolder']
  · rw [if_neg hfolder] at hwritten hmade hnofolder ⊢
    refine if_neg fun hfolder' => hnofolder ?_
    -- A folder there is now would be at the place where the file was looked for. Nothing has been
    -- made at this place, so loading would have met the folder the first time.
    obtain ⟨place, hlocate, hentry⟩ :=
      FileTree.find?_eq_folder_iff.1 (FileTree.isFolder_iff.1 hfolder')
    have hback : ".." ∉ ((p.expandHome w.home).resolve w.folder).steps :=
      Path.dotdot_not_mem_cancel (by simp)
    have hplace : place = ((p.expandHome w.home).resolve w.folder).steps :=
      FileTree.eq_cancel_of_locate hlocate
    rw [hplace, ← hrooted'.find? hback,
      find?_resolve_again hbuilt hrooted hrooted' _ hwritten hmade] at hentry
    exact hentry

/-- The configuration that was found is found again. -/
theorem loadConfig_again (h : ((loadConfig p).perform w).1 = .ok c')
    (hwritten : (configFile w p).steps ∉ q.written w c)
    (hmade : (configFile w p).steps ∉ q.made w c) : ((loadConfig p).perform w').1 = .ok c' := by
  have hfind : w'.files.find? (w'.way (configFile w p)) =
      w.files.find? (w.way (configFile w p)) := by
    rw [Workspace.way_congr hbuilt.folder]
    obtain ⟨p', hp'⟩ := exists_configFile_eq_resolve w p
    rw [hp'] at hwritten hmade ⊢
    exact find?_resolve_again hbuilt hrooted hrooted' p' hwritten hmade
  rw [← h]
  refine loadConfig_congr hbuilt.libraries hbuilt.home
    (configFile_again hbuilt hrooted hrooted' h hwritten hmade)
    (by rw [hfind]) fun hsome => FileTree.read_congr hfind hsome

/-- The bridge that was found is found again. -/
theorem loadBridge_again (hwritten : (q.path w).steps ∉ q.written w c)
    (hmade : (q.path w).steps ∉ q.made w c) :
    ((loadBridge (q.path w)).perform w').1 = ((loadBridge (q.path w)).perform w).1 := by
  have hfind : w'.files.find? (w'.way ((q.path w).expandHome w.home)) =
      w.files.find? (w.way ((q.path w).expandHome w.home)) := by
    rw [Workspace.way_congr hbuilt.folder]
    exact find?_resolve_again hbuilt hrooted hrooted' _ hwritten hmade
  refine loadBridge_congr hbuilt.libraries hbuilt.home ?_ fun hfile =>
    FileTree.read_congr hfind fun hnone => ?_
  · rw [FileTree.isFile, FileTree.isFile, hfind]
  · rw [FileTree.isFile, hnone] at hfile
    cases hfile

theorem configuration_again
    (happart : ∀ place ∈ q.written w c ++ q.made w c, q.Apart w c place)
    (h : ((configuration q (q.path w)).perform w).1 = .ok c') :
    ((configuration q (q.path w)).perform w').1 = .ok c' := by
  have hload (p : Path) (hp : q.configPath? w = some p)
      (h : ((loadConfig p).perform w).1 = .ok c') : ((loadConfig p).perform w').1 = .ok c' :=
    loadConfig_again hbuilt hrooted hrooted' h
      (fun hwritten => (happart _ (List.mem_append_left _ hwritten)).config p hp rfl)
      fun hmade => (happart _ (List.mem_append_right _ hmade)).config p hp rfl
  unfold configuration at h ⊢
  cases hconfig : q.config with
  | given c =>
    rw [hconfig] at h
    exact h
  | «at» p =>
    rw [hconfig] at h
    exact hload p (by rw [RunRequest.configPath?, hconfig]) h
  | besideBridge =>
    rw [hconfig] at h
    exact hload (q.path w).parent (by rw [RunRequest.configPath?, hconfig]) h

end Again

section Templates

variable {folder : Path} {name : TemplateName} (hbuilt : w.Built q c w')

include hbuilt

/-- A template of the user's that is not written stays. -/
theorem override?_of_some {x : Writer}
    (hwritten : Path.cancel [] (w.way ((folder.child "signals").child name.fileName)) ∉
      q.written w c)
    (h : w.override? folder name = some x) : w'.override? folder name = some x := by
  rw [Workspace.override?] at h ⊢
  rw [Workspace.way_congr hbuilt.folder]
  cases hread : w.files.read (w.way ((folder.child "signals").child name.fileName)) with
  | error e =>
    rw [hread] at h
    cases h
  | ok bytes =>
    rw [hbuilt.files.read hwritten hread, hbuilt.libraries]
    rwa [hread] at h

/-- A template that a generator with a folder of its own has used is the same afterwards: the ones
in its folder stay, and the built-in ones are kept even if the folder gets files for them. -/
theorem ownTemplate_again {own : String} {used : List TemplateName}
    (hwritten : Path.cancel [] (w.way (((Path.ofText own).child "signals").child name.fileName)) ∉
      q.written w c)
    (hsettled : w'.settledFor own = w.settledFor own ++
      used.filter fun name => (w.override? (Path.ofText own) name).isNone)
    (hused : name ∈ used) :
    w'.templates (Path.ofText own) (w'.settledFor own) name =
      w.templates (Path.ofText own) (w.settledFor own) name := by
  rw [Workspace.templates, Workspace.templates, hsettled]
  by_cases hold : name ∈ w.settledFor own
  · rw [if_pos (List.mem_append_left _ hold), if_pos hold]
  · rw [if_neg hold]
    cases hoverride : w.override? (Path.ofText own) name with
    | none =>
      rw [if_pos (List.mem_append_right _ (List.mem_filter.2 ⟨hused, by rw [hoverride]; rfl⟩))]
      rfl
    | some x =>
      rw [if_neg (by simp [hold, hoverride]), override?_of_some hbuilt hwritten hoverride]

/-- A template of the configuration is found again, and none is found where there was none, unless
the run has made a folder for the way to the templates to pass and leave. -/
theorem override?_again (hrooted : w.files.Rooted)
    (hfolder : q.templateFolder? c = some folder)
    (happart : ∀ place ∈ q.written w c ++ q.made w c, q.Apart w c place)
    (hdirect : q.Direct w c folder) :
    w'.override? folder name = w.override? folder name := by
  have hend := w.cancel_template folder name
  have hfind : w'.files.find? (w.way ((folder.child "signals").child name.fileName)) =
      w.files.find? (w.way ((folder.child "signals").child name.fileName)) := by
    refine hbuilt.files.find? hrooted (fun hwritten => ?_) fun place hplace hnone => ?_
    · exact (happart _ (List.mem_append_left _ hwritten)).ne_template hfolder name rfl
    · have hmade : place ∈ q.made w c := List.mem_filter.2 ⟨hplace, by rw [hnone]; rfl⟩
      refine ⟨(happart _ (List.mem_append_right _ hmade)).ne_template hfolder name, fun hon => ?_⟩
      obtain hon | habove := Workspace.mem_placesOnWay_template hon
      · rw [hend, List.append_assoc]
        exact (hdirect place hmade hon).trans (List.prefix_append _ _)
      · exact habove
  rw [Workspace.override?, Workspace.override?, Workspace.way_congr hbuilt.folder,
    hbuilt.libraries]
  cases hfound : w.files.find? (w.way ((folder.child "signals").child name.fileName)) with
  | none =>
    obtain ⟨e, he⟩ := FileTree.exists_read_eq_error hfound
    obtain ⟨e', he'⟩ := FileTree.exists_read_eq_error (hfind.trans hfound)
    rw [he, he']
  | some found => rw [FileTree.read_congr hfind (by simp [hfound])]

end Templates

/-- The report that was generated is generated again. -/
theorem generate_again (hbuilt : w.Built q c w') (hrooted : w.files.Rooted)
    (happart : ∀ place ∈ q.written w c ++ q.made w c, q.Apart w c place)
    (hdirect : q.ownTemplates? = none → ∀ folder, c.templates? = some folder →
      q.Direct w c folder)
    (hsettled : w'.settled = (w.settle b c q.ownTemplates?).settled)
    (h : (b.generate (some c.table) (w.templatesFor c q.ownTemplates?)).result = .ok r) :
    (b.generate (some c.table) (w'.templatesFor c q.ownTemplates?)).result = .ok r := by
  rw [← h]
  refine b.result_generate_congr _ fun name hname => ?_
  cases hown : q.ownTemplates? with
  | none =>
    cases hfolder : c.templates? with
    | none => simp only [Workspace.templatesFor, hfolder]
    | some folder =>
      have hoverride : w'.override? folder name = w.override? folder name :=
        override?_again hbuilt hrooted (by rw [RunRequest.templateFolder?, hown]; exact hfolder)
          happart (hdirect hown folder hfolder)
      simp only [Workspace.templatesFor, hfolder, Workspace.templates, hoverride]
  | some own =>
    rw [hown] at h hsettled hname
    have hnone : (b.renderings (some c.table)).findSome?
        (w.templatesFor c (some own)).failure? = none := by
      rw [← b.drives_generate (some c.table) (w.templatesFor c (some own)), h]
      rfl
    have hused := Bridge.mem_usedBefore hnone hname
    have hsettledFor : w'.settledFor own = w.settledFor own ++
        (usedBefore (w.templatesFor c (some own)) (b.renderings (some c.table))).filter
          fun name => (w.override? (Path.ofText own) name).isNone := by
      rw [Workspace.settledFor, hsettled]
      simp [Workspace.settle]
    refine ownTemplate_again hbuilt (fun hwritten => ?_) hsettledFor hused
    refine (happart _ (List.mem_append_left _ hwritten)).ne_template ?_ name rfl
    rw [RunRequest.templateFolder?, hown]

/-! ### Doing a run again -/

/--
In files in which everything is in a folder, a run without a log file that has given a report gives
the same report again and leaves every file as it is, if its texts and the folders made for them are
none of the bridge, the configuration file that it looks for and what is below the folder of the
templates. Where this folder is named by the configuration, the way to it must not leave a folder
that was made for a text.
-/
theorem run_again {w₁ : Workspace} (hrooted : w.files.Rooted) (hlog : w.logFiles = [])
    (hc : ((configuration q (q.path w)).perform w).1 = .ok c)
    (happart : ∀ place ∈ q.written w c ++ q.made w c, q.Apart w c place)
    (hdirect : q.ownTemplates? = none → ∀ folder, c.templates? = some folder →
      q.Direct w c folder)
    (h : (run q).perform w = (.ok r, w₁)) :
    ∃ w₂, (run q).perform w₁ = (.ok r, w₂) ∧ w₂.files = w₁.files := by
  have hrooted₁ := rooted_run q hrooted
  have hkeeps := keeps_run q w
  rw [h] at hrooted₁ hkeeps
  obtain ⟨hlibraries, hfolder, hhome, -⟩ : _ ∧ _ ∧ _ ∧ _ := by
    simpa [Workspace.setting] using hkeeps
  obtain ⟨c', b, tree, hyields, hw₁⟩ := (run_eq_ok_iff hlog).1 h
  obtain rfl : c' = c := Except.ok.inj (hyields.config.symm.trans hc)
  have hfiles : w₁.files = tree := by rw [hw₁]; rfl
  have hlog₁ : w₁.logFiles = [] := by rw [hw₁]; exact hlog
  have hsettled : w₁.settled = (w.settle b c' q.ownTemplates?).settled := by rw [hw₁]; rfl
  have hpath : q.path w₁ = q.path w := by rw [RunRequest.path, RunRequest.path, hfolder, hhome]
  have hways (target? : Option Path) : w₁.ways? target? = w.ways? target? := by
    simp only [Workspace.ways?, Workspace.way_congr hfolder]
  have hbuilt : w.Built q c' w₁ :=
    ⟨hlibraries, hfolder, hhome, hfiles ▸ built_of_yields hyields⟩
  have hyields₁ : q.Yields w₁ c' b r tree := by
    constructor
    · rw [hpath]
      exact configuration_again hbuilt hrooted hrooted₁ happart hc
    · rw [hpath, ← hyields.bridge]
      exact loadBridge_again hbuilt hrooted hrooted₁
        (fun hwritten => (happart _ (List.mem_append_left _ hwritten)).bridge rfl)
        fun hmade => (happart _ (List.mem_append_right _ hmade)).bridge rfl
    · exact generate_again hbuilt hrooted happart hdirect hsettled hyields.report
    · obtain ⟨made, hmade, htree⟩ := hyields.files
      simp only [hfiles, hways]
      exact FileTree.writeOut_again hmade htree
  exact ⟨_, (run_eq_ok_iff hlog₁).2 ⟨c', b, tree, hyields₁, rfl⟩, hfiles.symm⟩

/-- Both texts go to folders that the first run makes. -/
theorem run_again_shortTemplates :
    let q : RunRequest := {
      bridge := Path.ofText "b.yml"
      header? := some (Path.ofText "out/deep/o.h")
      source? := some (Path.ofText "out/o.cpp") }
    ∃ r w₁ w₂, (run q).perform shortTemplates = (.ok r, w₁) ∧
      (run q).perform w₁ = (.ok r, w₂) ∧ w₂.files = w₁.files := by
  intro q
  have hc : ((configuration q (q.path shortTemplates)).perform shortTemplates).1.map
      Config.templates? = .ok (some (Path.ofText "/r/t")) := by decide +kernel
  have hr : ((run q).perform shortTemplates).1.map Report.header = .ok "h\n" := by decide +kernel
  obtain ⟨c, hc, htemplates⟩ := map_eq_ok_iff.1 hc
  obtain ⟨r, hr, -⟩ := map_eq_ok_iff.1 hr
  have htargets : q.targets c = [Path.ofText "out/deep/o.h", Path.ofText "out/o.cpp"] := rfl
  have hplaces : q.written shortTemplates c ++ q.made shortTemplates c =
      [["r", "out", "deep", "o.h"], ["r", "out", "o.cpp"], ["r", "out"], ["r", "out", "deep"]] := by
    rw [RunRequest.written, RunRequest.made, htargets]
    decide +kernel
  have hall : ∀ place ∈ q.written shortTemplates c ++ q.made shortTemplates c,
      place ≠ (q.path shortTemplates).steps ∧
      place ≠ (configFile shortTemplates (q.path shortTemplates).parent).steps ∧
      ¬((Path.ofText "/r/t").resolve shortTemplates.folder).steps <+: place ∧
      place ∉ FileTree.placesOnWay [] (shortTemplates.way (Path.ofText "/r/t")) := by
    rw [hplaces]
    decide +kernel
  have hrun := perform_eq_of_result hr
  obtain ⟨w₂, hagain, hfiles⟩ := run_again (FileTree.rooted_of_entries (by decide +kernel)) rfl hc
    (fun place hplace => .of_ne rfl htemplates (hall place hplace).1 (hall place hplace).2.1
      (hall place hplace).2.2.1)
    (fun _ folder hfolder place hplace hon => by
      obtain rfl : Path.ofText "/r/t" = folder := Option.some.inj (htemplates.symm.trans hfolder)
      exact absurd hon (hall place (List.mem_append_right _ hplace)).2.2.2) hrun
  exact ⟨r, _, w₂, hrun, hagain, hfiles⟩

/-- A project whose folder of templates is named by a way through a folder that is not there. -/
def templatesBehindMissing : Workspace where
  folder := Path.ofText "/r"
  home := Path.ofText "/h"
  time := "now"
  files := {
    entries := [
      (["r"], .folder),
      (["r", "b.yml"], .file 0 "free_signals: [{qobject: B, name: b}]".toUTF8),
      (["r", ".signalgen.yml"], .file 1 "templates_dir: out/../tpl".toUTF8),
      (["r", "tpl"], .folder),
      (["r", "tpl", "signals"], .folder),
      (["r", "tpl", "signals", "free_connect_header.j2"], .file 2 "h".toUTF8)]
    next := 3 }

/-- The first run does not find the templates, and makes the folder that leads to them. -/
theorem run_differs_templatesBehindMissing :
    let q : RunRequest := {
      bridge := Path.ofText "b.yml"
      header? := some (Path.ofText "out/h") }
    let w := templatesBehindMissing
    ¬∀ c r w₁, w.files.Rooted → w.logFiles = [] →
      ((configuration q (q.path w)).perform w).1 = .ok c →
      (∀ place ∈ q.written w c ++ q.made w c, q.Apart w c place) →
      (run q).perform w = (.ok r, w₁) →
      ∃ w₂, (run q).perform w₁ = (.ok r, w₂) ∧ w₂.files = w₁.files := by
  intro q w hclaim
  have hc : ((configuration q (q.path w)).perform w).1.map
      (fun c => (c.source?, c.templates?)) = .ok (none, some (Path.ofText "/r/out/../tpl")) := by
    decide +kernel
  have hfirst : ((run q).perform w).1.map (fun r => r.header == "h\n") = .ok false := by
    decide +kernel
  have hsecond : ((run q).perform ((run q).perform w).2).1.map (fun r => r.header == "h\n") =
      .ok true := by
    decide +kernel
  obtain ⟨c, hc, hpaths⟩ := map_eq_ok_iff.1 hc
  obtain ⟨hsource, htemplates⟩ := Prod.mk.inj hpaths
  obtain ⟨r, hr, hheader⟩ := map_eq_ok_iff.1 hfirst
  have htargets : q.targets c = [Path.ofText "out/h"] := by
    change [Path.ofText "out/h"] ++ c.source?.toList = _
    rw [hsource]
    rfl
  have hall : ∀ place ∈ q.written w c ++ q.made w c, place ≠ (q.path w).steps ∧
      place ≠ (configFile w (q.path w).parent).steps ∧
      ¬((Path.ofText "/r/out/../tpl").resolve w.folder).steps <+: place := by
    rw [RunRequest.written, RunRequest.made, htargets]
    decide +kernel
  obtain ⟨w₂, hagain, -⟩ := hclaim c r _ (FileTree.rooted_of_entries (by decide +kernel)) rfl hc
    (fun place hplace => .of_ne rfl htemplates (hall place hplace).1 (hall place hplace).2.1
      (hall place hplace).2.2) (perform_eq_of_result hr)
  rw [hagain] at hsecond
  exact Bool.false_ne_true (hheader.symm.trans (Except.ok.inj hsecond))

end Session

end SignalBinding
