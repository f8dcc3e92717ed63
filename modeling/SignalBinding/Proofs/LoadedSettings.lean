import SignalBinding.Proofs.FileContents
import SignalBinding.Proofs.SessionSteps
import SignalBinding.Proofs.TolerantSettings

/-!
# Loading a configuration

When a configuration file is refused, and what an accepted one comes to. Three things are refused:
a text that is not YAML, a value that is no map, and a name table that is none. Anything else that
is not as it should be might as well not be there, and all paths start at the folder of the file.

## Main definitions

- `Config.Gives`: the entries that a text has at its root
- `Config.Refuses`: what is wrong with a text
- `Workspace.Holds`: the text of a file

## Main statements

- `Config.ofText_eq_error_iff`: a text is refused for one of the three reasons only
- `Session.loadConfig_tolerates`: loading a file is tolerant of all else
-/

namespace SignalBinding

open Description
open Entries (field)

/-- The file at the path holds the text. -/
def Workspace.Holds (w : Workspace) (p : Path) (text : String) : Prop :=
  ∃ bytes, w.files.read (w.way p) = .ok bytes ∧ Text.ofBytes? bytes = some text

theorem Path.isAbsolute_append {p : Path} (h : p.isAbsolute = true) (q : Path) :
    (p.append q).isAbsolute = true := by
  rw [append]
  split
  next hq => exact hq
  next => exact h

namespace Config

open Session (mapError_eq_ok_iff mapError_eq_error_iff)

variable {decode : Yaml.Decoder} {home root : Path} {name text : String}

/-- The text has the entries at its root, as the decoder reads it. A blank text and null have none.
-/
inductive Gives (decode : Yaml.Decoder) (text : String) : List (Atom × Yaml.Value) → Prop
  | blank (hblank : Text.allBlank text = true) : Gives decode text []
  | null {d : Yaml.Value} (hblank : Text.allBlank text = false) (hd : decode text = .ok d)
      (hroot : layer d = .atom .null) : Gives decode text []
  | map {d : Yaml.Value} {entries : List (Atom × Yaml.Value)} (hblank : Text.allBlank text = false)
      (hd : decode text = .ok d) (hroot : layer d = .map entries) : Gives decode text entries

/-- What is wrong with the text of the file `name`. -/
inductive Refuses (decode : Yaml.Decoder) (name text : String) : TextFault ConfigFault → Prop
  | notYaml (hblank : Text.allBlank text = false) (hd : decode text = .error .malformed) :
      Refuses decode name text (.notYaml name)
  | notMap {d : Yaml.Value} (hblank : Text.allBlank text = false) (hd : decode text = .ok d)
      (hnull : layer d ≠ .atom .null) (hmap : ¬ IsMap (layer d)) :
      Refuses decode name text (.content .notMap)
  | table {entries : List (Atom × Yaml.Value)} {f : Fault} (hentries : Gives decode text entries)
      (htable : tableOf (field "mappings" entries) = .error f) :
      Refuses decode name text (.content (.table f))

/-- Without entries, a configuration says nothing but where its file is. -/
theorem ofEntries_nil : ofEntries home root ([] : List (Atom × Yaml.Value)) = .ok { root } := rfl

theorem decodeFile_of_ok {ε : Type} {d : Yaml.Value} (h : decode text = .ok d) :
    (decodeFile decode name text : Except (TextFault ε) Yaml.Value) = .ok d := by
  rw [decodeFile, h]

/-- A text means what its entries mean. -/
theorem ofText_of_gives {entries : List (Atom × Yaml.Value)} (h : Gives decode text entries) :
    ofText decode home root name text = (ofEntries home root entries).mapError .content := by
  cases h with
  | blank hblank =>
    rw [ofText, if_pos hblank, ofEntries_nil]
    rfl
  | null hblank hd hroot =>
    rw [ofText, hblank, decodeFile_of_ok hd]
    simp only [Bool.false_eq_true, if_false, bind, Except.bind, hroot, ofEntries_nil]
    rfl
  | map hblank hd hroot =>
    rw [ofText, hblank, decodeFile_of_ok hd]
    simp only [Bool.false_eq_true, if_false, bind, Except.bind, hroot, ofDocument_of_map hroot]
    cases ofEntries home root entries <;> rfl

theorem ofEntries_eq_error_iff {entries : List (Atom × Yaml.Value)} {e : ConfigFault} :
    ofEntries home root entries = .error e ↔
      ∃ f, e = .table f ∧ tableOf (field "mappings" entries) = .error f := by
  rw [ofEntries]
  cases tableOf (field "mappings" entries) <;> simp [eq_comm]

theorem ofText_of_malformed (hblank : Text.allBlank text = false)
    (hd : decode text = .error .malformed) :
    ofText decode home root name text = .error (.notYaml name) := by
  rw [ofText, hblank, decodeFile, hd]
  rfl

theorem ofText_of_not_map {d : Yaml.Value} (hblank : Text.allBlank text = false)
    (hd : decode text = .ok d) (hnull : layer d ≠ .atom .null) (hmap : ¬ IsMap (layer d)) :
    ofText decode home root name text = .error (.content .notMap) := by
  have hdocument : ofDocument home root d = .error .notMap := by
    rw [ofDocument]
    split
    next hroot => exact absurd (hroot ▸ trivial) hmap
    next => rfl
  rw [ofText, hblank, decodeFile_of_ok hd]
  simp only [Bool.false_eq_true, if_false, bind, Except.bind, hdocument]
  rfl

/-- A text gives entries unless it is not YAML or has something else than a map at its root. -/
theorem gives_or_not_map (hscalars : decode text ≠ .error .unconvertible) :
    (∃ entries, Gives decode text entries) ∨
      (Text.allBlank text = false ∧ decode text = .error .malformed) ∨
      ∃ d, Text.allBlank text = false ∧ decode text = .ok d ∧
        layer d ≠ .atom .null ∧ ¬ IsMap (layer d) := by
  cases hblank : Text.allBlank text with
  | true => exact .inl ⟨[], .blank hblank⟩
  | false =>
    cases hd : decode text with
    | error fault =>
      cases fault with
      | malformed => exact .inr (.inl ⟨rfl, rfl⟩)
      | unconvertible => exact absurd hd hscalars
    | ok d =>
      by_cases hnull : layer d = .atom .null
      · exact .inl ⟨[], .null hblank hd hnull⟩
      · cases hroot : layer d with
        | map entries => exact .inl ⟨entries, .map hblank hd hroot⟩
        | atom a => exact .inr (.inr ⟨d, rfl, rfl, hnull, by rw [hroot]; exact id⟩)
        | list items => exact .inr (.inr ⟨d, rfl, rfl, hnull, by rw [hroot]; exact id⟩)
        | other isEmpty => exact .inr (.inr ⟨d, rfl, rfl, hnull, by rw [hroot]; exact id⟩)

/-- A text is refused for one of three reasons, and for no other. -/
theorem ofText_eq_error_iff (hscalars : decode text ≠ .error .unconvertible)
    {e : TextFault ConfigFault} :
    ofText decode home root name text = .error e ↔ Refuses decode name text e := by
  constructor
  · intro he
    obtain ⟨entries, hentries⟩ | ⟨hblank, hd⟩ | ⟨d, hblank, hd, hnull, hmap⟩ :=
      gives_or_not_map hscalars
    · rw [ofText_of_gives hentries, mapError_eq_error_iff] at he
      obtain ⟨_, hof, rfl⟩ := he
      obtain ⟨f, rfl, htable⟩ := ofEntries_eq_error_iff.1 hof
      exact .table hentries htable
    · rw [ofText_of_malformed hblank hd] at he
      cases he
      exact .notYaml hblank hd
    · rw [ofText_of_not_map hblank hd hnull hmap] at he
      cases he
      exact .notMap hblank hd hnull hmap
  · rintro (⟨hblank, hd⟩ | ⟨hblank, hd, hnull, hmap⟩ | ⟨hentries, htable⟩)
    · exact ofText_of_malformed hblank hd
    · exact ofText_of_not_map hblank hd hnull hmap
    · rw [ofText_of_gives hentries, ofEntries_eq_error_iff.2 ⟨_, rfl, htable⟩]
      rfl

/-- The configuration of a text is that of the entries which the text gives. -/
theorem exists_gives_of_ofText {c : Config} (h : ofText decode home root name text = .ok c)
    (hscalars : decode text ≠ .error .unconvertible) :
    ∃ entries, Gives decode text entries ∧ ofEntries home root entries = .ok c := by
  obtain ⟨entries, hentries⟩ | ⟨hblank, hd⟩ | ⟨d, hblank, hd, hnull, hmap⟩ :=
    gives_or_not_map hscalars
  · rw [ofText_of_gives hentries, mapError_eq_ok_iff] at h
    exact ⟨entries, hentries, h⟩
  · rw [ofText_of_malformed hblank hd] at h
    cases h
  · rw [ofText_of_not_map hblank hd hnull hmap] at h
    cases h

end Config

/-! ### Loading -/

namespace Session

open Config (Gives Refuses)

variable {w : Workspace} {p : Path} {text : String}

theorem perform_readText_of_holds (h : w.Holds p text) :
    (readText p).perform w = (.ok text, w) := by
  obtain ⟨bytes, hread, htext⟩ := h
  have hcheck : (check (w.files.read (w.way p))).perform w = (.ok bytes, w) := by
    rw [perform_check, hread]
    rfl
  rw [readText, perform_bind_of_ok (perform_get w), perform_bind_of_ok hcheck, htext]
  rfl

/-- What is loaded is what the text of the file means, in the folder of the file. -/
theorem perform_loadConfig_of_holds (h : w.Holds (configFile w p) text) :
    (loadConfig p).perform w =
      ((Config.ofText w.libraries.decode w.home (configFile w p).parent (configFile w p).name
        text).mapError .config, w) := by
  have hfind : (w.files.find? (w.way (configFile w p))).isNone = false := by
    obtain ⟨bytes, hread, -⟩ := h
    cases hfind : w.files.find? (w.way (configFile w p)) with
    | none =>
      obtain ⟨e, he⟩ := FileTree.exists_read_eq_error hfind
      rw [hread] at he
      cases he
    | some => rfl
  rw [loadConfig, perform_bind_of_ok (perform_get w)]
  simp only [hfind, Bool.false_eq_true, if_false]
  rw [perform_bind_of_ok (perform_readText_of_holds h)]
  cases Config.ofText w.libraries.decode w.home (configFile w p).parent
      (configFile w p).name text with
  | ok c => rfl
  | error e => rfl

theorem isAbsolute_configFile_parent (w : Workspace) (p : Path) :
    (configFile w p).parent.isAbsolute = true := by
  obtain ⟨p', hp'⟩ := exists_configFile_eq_resolve w p
  rw [hp']
  rfl

theorem dotdot_not_mem_configFile_parent (w : Workspace) (p : Path) :
    ".." ∉ (configFile w p).parent.steps := by
  obtain ⟨p', hp'⟩ := exists_configFile_eq_resolve w p
  rw [hp']
  exact fun h => Path.dotdot_not_mem_cancel List.not_mem_nil (List.dropLast_subset _ h)

/--
Loading a configuration file is refused, with the reason, only over a text that is not YAML, a root
that is no map, or a name table that is none. Dropping entries that say nothing changes nothing.
Each path of the configuration is what the text of its setting means from the folder of the file.
-/
theorem loadConfig_tolerates (htext : w.Holds (configFile w p) text)
    (hscalars : w.libraries.decode text ≠ .error .unconvertible) :
    (∀ e, ((loadConfig p).perform w).1 = .error e ↔
      ∃ f, e = .config f ∧ Refuses w.libraries.decode (configFile w p).name text f) ∧
    (∀ entries f, Gives w.libraries.decode text entries →
      tableOf (field "mappings" entries) = .error f →
      ∃ e, ((loadConfig p).perform w).1 = .error (.config e) ∧
        (Failure.config e).message? = some ("Invalid mappings in .signalgen.yml: " ++ f.message)) ∧
    (∀ w' text' entries entries' (g : Config.Group) key,
      w'.home = w.home → w'.libraries = w.libraries →
      configFile w' p = configFile w p → w'.Holds (configFile w p) text' →
      Gives w.libraries.decode text entries → Gives w.libraries.decode text' entries' →
      g.IsIdle key entries → g.Drops key entries entries' →
      ((loadConfig p).perform w').1 = ((loadConfig p).perform w).1) ∧
    ∀ c, ((loadConfig p).perform w).1 = .ok c →
      c.root = (configFile w p).parent ∧ c.root.isAbsolute = true ∧ ".." ∉ c.root.steps ∧
      ∃ entries, Gives w.libraries.decode text entries ∧ ∀ g name q, (g, name, some q) ∈ c.paths →
        q.isAbsolute = true ∧ ∃ s, field name (g.entries entries) = .atom (.text s) ∧
          q = c.root.append ((Path.ofText s).expandHome w.home) := by
  have hload := congrArg Prod.fst (perform_loadConfig_of_holds htext)
  refine ⟨fun e => ?_, fun entries f hentries htable => ?_, ?_, fun c hc => ?_⟩
  · rw [hload]
    simp only [mapError_eq_error_iff, Config.ofText_eq_error_iff hscalars]
    exact ⟨fun ⟨f, hf, he⟩ => ⟨f, he.symm, hf⟩, fun ⟨f, he, hf⟩ => ⟨f, hf, he.symm⟩⟩
  · refine ⟨.content (.table f), ?_, rfl⟩
    rw [hload, (Config.ofText_eq_error_iff hscalars).2 (.table hentries htable)]
    rfl
  · intro w' text' entries entries' g key hhome hlibraries hfile htext' hentries hentries' hidle
      hdrops
    have hload' := congrArg Prod.fst (perform_loadConfig_of_holds (hfile.symm ▸ htext'))
    have hsame := Config.ofEntries_eq_of_drops hdrops hidle w.home (configFile w p).parent
    rw [hload', hload, hhome, hlibraries, hfile, Config.ofText_of_gives hentries,
      Config.ofText_of_gives hentries', hsame]
  · rw [hload, mapError_eq_ok_iff] at hc
    obtain ⟨entries, hentries, hof⟩ := Config.exists_gives_of_ofText hc hscalars
    obtain ⟨hroot, hpaths⟩ := Config.paths_of_ofEntries hof
    have habsolute : c.root.isAbsolute = true := hroot ▸ isAbsolute_configFile_parent w p
    refine ⟨hroot, habsolute, hroot ▸ dotdot_not_mem_configFile_parent w p, entries, hentries, ?_⟩
    intro g name q hq
    obtain ⟨s, hs, -, rfl⟩ := Config.path?_eq_some_iff.1 (hpaths _ hq).symm
    rw [← hroot]
    exact ⟨Path.isAbsolute_append habsolute _, s, hs, rfl⟩

/-! ### A header that is no path -/

/-- A project with nothing but a configuration file. -/
def configured (text : String) : Workspace where
  folder := Path.ofText "/r"
  home := Path.ofText "/h"
  time := "now"
  files := {
    entries := [(["r"], .folder), (["r", ".signalgen.yml"], .file 0 text.toUTF8)]
    next := 1 }

/-- The value of a configuration that has a list where the path of the header should be. -/
def listedHeader : Yaml.Value where
  cells := #[
    some (.map [(⟨.text "output", some 1⟩, 2)]),
    some (.single ⟨.text "output", some 1⟩),
    some (.map [(⟨.text "header", some 3⟩, 4), (⟨.text "source", some 6⟩, 7)]),
    some (.single ⟨.text "header", some 3⟩),
    some (.list [5]),
    some (.single ⟨.text "x", some 5⟩),
    some (.single ⟨.text "source", some 6⟩),
    some (.single ⟨.text "a.cpp", some 7⟩)]
  id := 0

/-- The value of the same configuration without the header. -/
def noHeader : Yaml.Value where
  cells := #[
    some (.map [(⟨.text "output", some 1⟩, 2)]),
    some (.single ⟨.text "output", some 1⟩),
    some (.map [(⟨.text "source", some 3⟩, 4)]),
    some (.single ⟨.text "source", some 3⟩),
    some (.single ⟨.text "a.cpp", some 4⟩)]
  id := 0

theorem loadConfig_tolerates_listedHeader :
    let text := "output: {header: [x], source: a.cpp}"
    let text' := "output: {source: a.cpp}"
    let here := Path.ofText "."
    Yaml.decode text = .ok listedHeader ∧ Yaml.decode text' = .ok noHeader ∧
      ((loadConfig here).perform (configured text')).1 =
        ((loadConfig here).perform (configured text)).1 := by
  intro text text' here
  have hd : Yaml.decode text = .ok listedHeader := by decide +kernel
  have hd' : Yaml.decode text' = .ok noHeader := by decide +kernel
  have hfile : configFile (configured text') here = configFile (configured text) here := by
    decide +kernel
  have htext : (configured text).Holds (configFile (configured text) here) text :=
    ⟨text.toUTF8, by decide +kernel, by decide +kernel⟩
  have htext' : (configured text').Holds (configFile (configured text) here) text' :=
    ⟨text'.toUTF8, by decide +kernel, by decide +kernel⟩
  have hgives : Gives Yaml.decode text _ := .map (by decide) hd rfl
  have hgives' : Gives Yaml.decode text' _ := .map (by decide) hd' rfl
  have hidle : Config.Group.output.IsIdle (.text "header")
      [(.text "output", { listedHeader with id := 2 })] := by
    intro s hs hkey
    obtain rfl | rfl : s = ("header", .path) ∨ s = ("source", .path) := by
      simpa [Config.Group.settings] using hs
    · exact id
    · exact absurd hkey (by decide)
  have hdrops : Config.Group.output.Drops (.text "header")
      [(.text "output", { listedHeader with id := 2 })]
      [(.text "output", { noHeader with id := 2 })] := by
    have hsource : Same { listedHeader with id := 7 } { noHeader with id := 4 } :=
      same_of_atom rfl rfl rfl
    exact .cons ⟨rfl, Config.Group.DropsIn.map (.cons ⟨rfl, hsource⟩ .nil)⟩ .nil
  obtain ⟨-, -, hdropped, -⟩ := loadConfig_tolerates htext (by simp [configured, hd])
  exact ⟨hd, hd', hdropped _ _ _ _ .output (.text "header") rfl rfl hfile htext' hgives hgives'
    hidle hdrops⟩

end Session

end SignalBinding
