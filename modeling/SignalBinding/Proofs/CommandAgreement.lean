import SignalBinding.Proofs.CommandSteps
import SignalBinding.Proofs.OutputTexts

/-!
# The command and the run agree

The command finds its configuration and the files of its texts by itself and hands a run what it
has found, while a run with the same paths finds all that on its own. Both go through the same
steps: they leave the same files, and the way in which the command ends tells how the run ends.

## Main definitions

- `CommandAgrees`: how the end of a command corresponds to the end of a run
-/

namespace SignalBinding

open CommandLine

/-- Expanding a path twice is expanding it once, as a home folder is an absolute path. -/
theorem Path.expandHome_expandHome {home : Path} (hhome : home.isAbsolute) (p : Path) :
    (p.expandHome home).expandHome home = p.expandHome home := by
  by_cases h : p.root = .here ∧ ∃ rest, p.steps = "~" :: rest
  · obtain ⟨root, steps⟩ := p
    obtain ⟨rfl, rest, rfl⟩ := h
    obtain ⟨homeRoot, homeSteps⟩ := home
    cases homeRoot with
    | here => simp [isAbsolute] at hhome
    | top => rfl
    | doubleTop => rfl
  · have hsame : p.expandHome home = p := by
      rw [expandHome]
      split
      next hroot hsteps => exact absurd ⟨hroot, _, hsteps⟩ h
      next => rfl
    rw [hsame, hsame]

namespace Session

variable {q q' : RunRequest} {g : Generate} {w : Workspace} {c : Config} {e : Failure}

/-- Runs that have the same paths and get the same configuration are the same. -/
theorem perform_run_congr (hpath : q.path w = q'.path w) (hheader : q.header? = q'.header?)
    (hsource : q.source? = q'.source?) (hown : q.ownTemplates? = q'.ownTemplates?)
    (hconfig : (configuration q (q.path w)).perform (w.record (startRecord (q.path w))) =
      (configuration q' (q.path w)).perform (w.record (startRecord (q.path w)))) :
    (run q).perform w = (run q').perform w := by
  have hprepare : (prepare q).perform w = (prepare q').perform w := by
    rw [prepare, prepare, perform_bind_of_ok (perform_get w), perform_bind_of_ok (perform_get w),
      ← hpath, ← hown, perform_bind_of_ok (perform_tell _ w), perform_bind_of_ok (perform_tell _ w),
      perform_bind, hconfig, ← perform_bind]
  have hpublish (c : Config) (r : Report) : publish q c r = publish q' c r := by
    simp only [publish, RunRequest.headerPath?, RunRequest.sourcePath?, hheader, hsource]
  rw [run_eq, run_eq, perform_bind, hprepare, ← perform_bind]
  simp only [hpublish]

/-- The command looks for its configuration where the run does. -/
theorem configuration_request (g : Generate) (w : Workspace) :
    configuration g.request (g.request.path w) = loadConfig (g.configPath w.folder w.home) := by
  cases h : nonempty g.config? with
  | none =>
    simp only [configuration, Generate.request, Generate.configPath, h]
    rfl
  | some p => simp only [configuration, Generate.request, Generate.configPath, h]

/-- A run that is given the configuration which the run with the same paths finds is the same. -/
theorem perform_request (hhome : w.home.isAbsolute) (hlog : w.logFiles = [])
    (hload : ((loadConfig (g.configPath w.folder w.home)).perform w).1 = .ok c) :
    (run g.request).perform w = (run (g.requestWith w.home c)).perform w := by
  have hpath : g.request.path w = (g.requestWith w.home c).path w := by
    change Path.resolve ((Path.ofText g.bridge).expandHome w.home) _ =
      Path.resolve (((Path.ofText g.bridge).expandHome w.home).expandHome w.home) _
    rw [Path.expandHome_expandHome hhome]
  refine perform_run_congr hpath rfl rfl rfl ?_
  rw [configuration_request, (reads_loadConfig _).perform_record hlog, hload]
  rfl

/-- The run fails, too, if the command cannot load its configuration. -/
theorem perform_request_of_load_error (hlog : w.logFiles = [])
    (hload : ((loadConfig (g.configPath w.folder w.home)).perform w).1 = .error e) :
    (run g.request).perform w = (.error e, w.record (startRecord (g.request.path w))) := by
  apply run_of_prepare_error
  rw [prepare, perform_bind_of_ok (perform_get w), perform_bind_of_ok (perform_tell _ w)]
  apply perform_bind_of_error
  rw [configuration_request, (reads_loadConfig _).perform_record hlog, hload]

/--
Up to its end, the command does what the run with the same paths does. It shows nothing else but
records on the way.
-/
theorem reported_agrees (hhome : w.home.isAbsolute) (hlog : w.logFiles = [])
    (hconfig : ∀ c, ((loadConfig (g.configPath w.folder w.home)).perform w).1 = .ok c →
      c.logFile? = none) :
    ((reported g).perform w).1.map Prod.snd = ((run g.request).perform w).1 ∧
      ((reported g).perform w).2.files = ((run g.request).perform w).2.files ∧
      ∃ rs : List Record, ((reported g).perform w).2.shown =
        w.shown ++ String.join (rs.map Record.shown) := by
  cases hload : ((loadConfig (g.configPath w.folder w.home)).perform w).1 with
  | error e =>
    rw [perform_reported_of_load_error hload, perform_request_of_load_error hlog hload]
    exact ⟨rfl, ((w.onlyLogs_record _).files_eq hlog).symm, [], by simp⟩
  | ok c =>
    obtain ⟨rs, result, w', htraces⟩ := traced_run (g.requestWith w.home c) w
    have hcommand := htraces (g.logger c) w.shown Logger.files_setUp
    have hrun : (run (g.requestWith w.home c)).perform w = _ := htraces w.logger w.shown hlog
    rw [perform_reported_of_no_file hload (hconfig c hload), perform_request hhome hlog hload,
      hcommand, hrun]
    refine ⟨?_, rfl, _, congrArg (w.shown ++ ·) (Logger.shownOf_setUp _ _ rs)⟩
    cases result <;> rfl

end Session

/-! ### The ends of a command -/

namespace CommandLine

/-- The message about signals that are left out, which `labels` lists. -/
def failedFor (labels : String) : String :=
  "signalgen generate failed for: " ++ labels ++ "\n"

theorem append_append_inj (before after s t : String) :
    before ++ s ++ after = before ++ t ++ after ↔ s = t := by
  refine ⟨fun h => ?_, fun h => h ▸ rfl⟩
  have hchars := congrArg String.toList h
  simp only [String.toList_append] at hchars
  exact String.toList_inj.1 (List.append_cancel_left (List.append_cancel_right hchars))

theorem failedFor_inj {labels labels' : String} :
    failedFor labels = failedFor labels' ↔ labels = labels' :=
  append_append_inj ..

theorem startsWith_iff {start s : String} : startsWith start s ↔ start.toList <+: s.toList := by
  rw [startsWith, List.isPrefixOf_iff_prefix]

theorem startsWith_self (start : String) : startsWith start start :=
  startsWith_iff.2 List.prefix_rfl

theorem startsWith_append {start s : String} (h : startsWith start s) (rest : String) :
    startsWith start (s ++ rest) := by
  rw [startsWith_iff, String.toList_append]
  exact (startsWith_iff.1 h).trans (List.prefix_append _ _)

/-- Of two starts of a text, one is a start of the other. -/
theorem startsWith_or {start start' s : String} (h : startsWith start s)
    (h' : startsWith start' s) : startsWith start start' ∨ startsWith start' start := by
  rw [startsWith_iff, startsWith_iff]
  exact List.prefix_or_prefix_of_prefix (startsWith_iff.1 h) (startsWith_iff.1 h')

/-- How messages about failures start. -/
def messageStarts : List String :=
  [Config.fileName, "Invalid mappings in ", "Failed to parse ", "Bridge description not found: ",
    "signalgen generate failed: "]

theorem exists_start_of_endMessage? {e : Failure} {text : String} (h : endMessage? e = some text) :
    ∃ start ∈ messageStarts, startsWith start text := by
  have hself (start rest : String) : startsWith start (start ++ rest) :=
    startsWith_append (startsWith_self start) rest
  cases e with
  | config fault =>
    cases fault with
    | content f =>
      cases f with
      | notMap =>
        cases h
        exact ⟨Config.fileName, by simp [messageStarts], startsWith_append (hself _ _) _⟩
      | table f =>
        cases h
        exact ⟨"Invalid mappings in ", by simp [messageStarts],
          startsWith_append (startsWith_append (startsWith_append (hself _ _) _) _) _⟩
    | notYaml name =>
      cases h
      exact ⟨"Failed to parse ", by simp [messageStarts],
        startsWith_append (startsWith_append (hself _ _) _) _⟩
    | unconvertible => cases h
  | bridge fault =>
    cases fault with
    | content f | notYaml name =>
      cases h
      exact ⟨"signalgen generate failed: ", by simp [messageStarts],
        startsWith_append (hself _ _) _⟩
    | unconvertible => cases h
  | bridgeMissing p =>
    cases h
    exact ⟨"Bridge description not found: ", by simp [messageStarts],
      startsWith_append (hself _ _) _⟩
  | template | file | notText => cases h

/-- No failure has a message like the one about signals that are left out. -/
theorem endMessage?_ne_failedFor (e : Failure) (labels : String) :
    endMessage? e ≠ some (failedFor labels) := by
  intro h
  obtain ⟨start, hmem, hstart⟩ := exists_start_of_endMessage? h
  have hlabels : startsWith "signalgen generate failed for: " (failedFor labels) :=
    startsWith_append (startsWith_append (startsWith_self _) _) _
  have hother : ∀ start ∈ messageStarts, ¬(startsWith start "signalgen generate failed for: " ∨
      startsWith "signalgen generate failed for: " start) := by decide +kernel
  exact hother start hmem (startsWith_or hstart hlabels)

end CommandLine

theorem Workspace.show_inj {v : Workspace} {text text' : String} :
    v.show text = v.show text' ↔ text = text' := by
  refine ⟨fun h => ?_, congrArg v.show⟩
  have hshown : v.shown ++ text = v.shown ++ text' := congrArg Workspace.shown h
  have hchars := congrArg String.toList hshown
  rw [String.toList_append, String.toList_append] at hchars
  exact String.toList_inj.1 (List.append_cancel_left hchars)

section Ends

variable (main : Except Failure CommandResult × Workspace) (v : Workspace)

/-- Without a message, the command ends with exit code 0, and leaves `v`. -/
def EndsWell : Prop :=
  ∃ output, main = (.ok { exitCode := 0, output }, v)

/-- In `v`, the command ends with the message about the signals `labels`, and exit code 1. -/
def EndsSkipping (labels : String) : Prop :=
  ∃ output, main = (.ok { exitCode := 1, output }, v.show (failedFor labels))

/-- In `v`, the command ends with the message `text` of a failure, and exit code 1. -/
def EndsTelling (text : String) : Prop :=
  main = (.ok { exitCode := 1 }, v.show text) ∧ ∃ e, endMessage? e = some text

/--
The ends of the command and of a run tell of each other, when `v` is what the command leaves before
it says how it has ended.
-/
structure CommandAgrees (api : Except Failure Report × Workspace) : Prop where
  files : main.2.files = api.2.files
  report : (EndsWell main v ∨ ∃ labels, EndsSkipping main v labels) ↔ ∃ r, api.1 = .ok r
  ok : EndsWell main v ↔ ∃ r, api.1 = .ok r ∧ r.ok = true
  skipping : ∀ labels, EndsSkipping main v labels ↔
    ∃ r, api.1 = .ok r ∧ r.ok = false ∧ labels = ", ".intercalate (r.skipped.map Skipped.label)
  telling : ∀ text, EndsTelling main v text ↔ ∃ e, api.1 = .error e ∧ endMessage? e = some text
  escaping : ∀ e, main.1 = .error e ↔ api.1 = .error e ∧ endMessage? e = none

end Ends

namespace Session

variable {g : Generate} {w v : Workspace} {api : Except Failure Report × Workspace}

theorem commandAgrees_of_report {c : Config} {r : Report}
    (h : (reported g).perform w = (.ok (c, r), v)) (hapi : api.1 = .ok r)
    (hfiles : v.files = api.2.files) : CommandAgrees ((generateCommand g).perform w) v api := by
  have hmain := perform_generateCommand g w
  rw [h] at hmain
  dsimp only at hmain
  rw [perform_finish] at hmain
  cases hok : r.ok with
  | true =>
    rw [hok, if_pos rfl] at hmain
    rw [hmain]
    constructor <;> simp [EndsWell, EndsSkipping, EndsTelling, hapi, hok, hfiles]
  | false =>
    let labels := ", ".intercalate (r.skipped.map Skipped.label)
    rw [hok, if_neg (by simp)] at hmain
    have hskipped : skippedMessage r = failedFor labels := rfl
    rw [hmain, hskipped]
    constructor
    · exact hfiles
    · exact ⟨fun _ => ⟨r, hapi⟩, fun _ => .inr ⟨labels, _, rfl⟩⟩
    · simp [EndsWell, hapi, hok]
    · intro others
      constructor
      · rintro ⟨output, heq⟩
        have htext := failedFor_inj.1 (Workspace.show_inj.1 (congrArg Prod.snd heq))
        exact ⟨r, hapi, hok, htext.symm⟩
      · rintro ⟨r', hr', -, rfl⟩
        obtain rfl : r = r' := Except.ok.inj (hapi.symm.trans hr')
        exact ⟨_, rfl⟩
    · intro text
      constructor
      · rintro ⟨heq, e, he⟩
        have htext := Workspace.show_inj.1 (congrArg Prod.snd heq)
        exact absurd (htext ▸ he) (endMessage?_ne_failedFor e labels)
      · rintro ⟨e, he, -⟩
        rw [hapi] at he
        cases he
    · simp [hapi]

theorem commandAgrees_of_failure {e : Failure} (h : (reported g).perform w = (.error e, v))
    (hapi : api.1 = .error e) (hfiles : v.files = api.2.files) :
    CommandAgrees ((generateCommand g).perform w) v api := by
  have hmain := perform_generateCommand g w
  rw [h] at hmain
  dsimp only at hmain
  rw [endedBy] at hmain
  have hsame {e' : Failure} (he' : api.1 = .error e') : e = e' :=
    Except.error.inj (hapi.symm.trans he')
  cases he : endMessage? e with
  | none =>
    rw [he] at hmain
    rw [hmain]
    constructor
    · exact hfiles
    · simp [EndsWell, EndsSkipping, hapi]
    · simp [EndsWell, hapi]
    · simp [EndsSkipping, hapi]
    · intro text
      constructor
      · rintro ⟨heq, -⟩
        cases heq
      · rintro ⟨e', he', htext⟩
        rw [← hsame he', he] at htext
        cases htext
    · intro e'
      constructor
      · rintro ⟨⟩
        exact ⟨hapi, he⟩
      · rintro ⟨he', -⟩
        rw [hsame he']
  | some message =>
    rw [he] at hmain
    dsimp only at hmain
    rw [hmain]
    have hnotSkipping (labels : String) : message ≠ failedFor labels := by
      rintro rfl
      exact endMessage?_ne_failedFor e labels he
    constructor
    · exact hfiles
    · simp [EndsWell, EndsSkipping, hapi, Workspace.show_inj, hnotSkipping]
    · simp [EndsWell, hapi]
    · simp [EndsSkipping, hapi, Workspace.show_inj, hnotSkipping]
    · intro text
      constructor
      · rintro ⟨heq, -⟩
        obtain rfl := Workspace.show_inj.1 (congrArg Prod.snd heq)
        exact ⟨e, hapi, he⟩
      · rintro ⟨e', he', htext⟩
        rw [← hsame he', he] at htext
        cases htext
        exact ⟨rfl, e, he⟩
    · intro e'
      constructor
      · rintro ⟨⟩
      · rintro ⟨he', hnone⟩
        rw [← hsame he', he] at hnone
        cases hnone

/-- A run never meets a missing file but that of its bridge. -/
theorem run_ne_missing (g : Generate) (w : Workspace) :
    ((run g.request).perform w).1 ≠ .error (.file .missing) := by
  intro h
  have hconfig (w' : Workspace) :
      FailsIn Failure.OfConfig (configuration g.request (g.request.path w)) w' := by
    rw [configuration_request]
    exact failsIn_loadConfig _ w'
  have hfails := failsIn_run g.request w hconfig _ _ (perform_eq_of_result h)
  exact hfails.elim (· rfl) (· rfl)

/--
The command agrees with the run with the same paths, when no log file is open and the configuration
names none. Before it says how it has ended, the command shows nothing but records.
-/
theorem command_agrees {arguments : List String}
    (harguments : Request.ofArguments arguments = .generate g) (hhome : w.home.isAbsolute)
    (hlog : w.logFiles = [])
    (hconfig : ∀ c, ((loadConfig (g.configPath w.folder w.home)).perform w).1 = .ok c →
      c.logFile? = none) :
    ((run g.request).perform w).1 ≠ .error (.file .missing) ∧
      ∃ (v : Workspace) (rs : List Record),
        v.shown = w.shown ++ String.join (rs.map Record.shown) ∧
        CommandAgrees ((command arguments).perform w) v ((run g.request).perform w) := by
  obtain ⟨hresult, hfiles, rs, hshown⟩ := reported_agrees hhome hlog hconfig
  refine ⟨run_ne_missing g w, ((reported g).perform w).2, rs, hshown, ?_⟩
  rw [command_of_request harguments]
  rcases hreported : (reported g).perform w with ⟨e | ⟨c, r⟩, v⟩ <;>
    rw [hreported] at hresult hfiles
  · exact commandAgrees_of_failure hreported hresult.symm hfiles
  · exact commandAgrees_of_report hreported hresult.symm hfiles

theorem command_agrees_shortTemplates :
    ∃ v, EndsWell ((command ["generate", "b.yml", "--header", "o"]).perform shortTemplates) v := by
  let g : Generate := { bridge := "b.yml", header? := some "o" }
  have harguments : Request.ofArguments ["generate", "b.yml", "--header", "o"] = .generate g := by
    decide +kernel
  have hload : ((loadConfig (Path.ofText "/r")).perform shortTemplates).1.map Config.logFile? =
      .ok none := by decide +kernel
  have hpath : g.configPath shortTemplates.folder shortTemplates.home = Path.ofText "/r" := by
    decide +kernel
  have hrun : ((run g.request).perform shortTemplates).1.map Report.ok = .ok true := by
    decide +kernel
  obtain ⟨-, v, -, -, hagrees⟩ := command_agrees harguments rfl rfl fun c hc => by
    obtain ⟨c', hc', hfile⟩ := map_eq_ok_iff.1 hload
    rw [hpath, hc'] at hc
    exact Except.ok.inj hc ▸ hfile
  obtain ⟨r, hr, hok⟩ := map_eq_ok_iff.1 hrun
  exact ⟨v, hagrees.ok.2 ⟨r, hr, hok⟩⟩

end Session

end SignalBinding
