import SignalBinding.Proofs.LoadedSettings

/-!
# Loading a bridge

A bridge file is read as the document that its text means. Null stands for the empty bridge, as do
six more kinds of empty values, which are refused when they are handed over as documents and when
they are found in a configuration file.

## Main definitions

- `Layer.IsHollow`: empty values that are neither null nor maps

## Main statements

- `Layer.isVoid_iff`: empty values are null, the empty map and the hollow ones
- `Session.loadBridge_reads_value`: loading a file and reading the document in it differ for hollow
  values only
-/

namespace SignalBinding

open Description

variable {δ : Type}

/-- The value is an empty one of a kind that a description cannot have at its root. -/
inductive Layer.IsHollow : Layer δ → Prop
  | false : IsHollow (.atom (.bool false))
  | int : IsHollow (.atom (.int 0))
  | float {x : Binary64} (h : x.isZero = true) : IsHollow (.atom (.float x))
  | text : IsHollow (.atom (.text ""))
  | bytes : IsHollow (.atom (.bytes []))
  | list : IsHollow (.list [])
  | other : IsHollow (.other true)

theorem Layer.isVoid_iff {l : Layer δ} :
    l.isVoid = true ↔ l = .atom .null ∨ l = .map [] ∨ l.IsHollow := by
  constructor
  · intro h
    cases l with
    | atom a =>
      cases a with
      | null => exact .inl rfl
      | bool b =>
        cases b with
        | false => exact .inr (.inr .false)
        | true => cases h
      | int n =>
        obtain rfl : n = 0 := by simpa [isVoid, Atom.isVoid] using h
        exact .inr (.inr .int)
      | float x => exact .inr (.inr (.float h))
      | text s =>
        obtain rfl : s = "" := by simpa [isVoid, Atom.isVoid] using h
        exact .inr (.inr .text)
      | bytes b =>
        obtain rfl : b = [] := List.isEmpty_iff.1 h
        exact .inr (.inr .bytes)
      | date d => cases h
      | moment t => cases h
    | list items =>
      obtain rfl : items = [] := List.isEmpty_iff.1 h
      exact .inr (.inr .list)
    | map entries =>
      obtain rfl : entries = [] := List.isEmpty_iff.1 h
      exact .inr (.inl rfl)
    | other isEmpty =>
      obtain rfl : isEmpty = true := h
      exact .inr (.inr .other)
  · rintro (rfl | rfl | h)
    · rfl
    · rfl
    · cases h with
      | float h => exact h
      | _ => rfl

theorem Layer.IsHollow.not_isMap {l : Layer δ} (h : l.IsHollow) : ¬ IsMap l := by
  cases h <;> exact id

theorem Layer.IsHollow.ne_null {l : Layer δ} (h : l.IsHollow) : l ≠ .atom .null := by
  cases h <;> simp

namespace Bridge

section Documents

variable [Layered δ] {d : δ}

theorem ofDocument_of_not_map (h : ¬ IsMap (layer d)) :
    ofDocument d = .error { place := [], problem := .notMap } := by
  rw [ofDocument]
  cases hroot : layer d with
  | map entries => exact absurd (hroot ▸ trivial) h
  | atom a => rfl
  | list items => rfl
  | other isEmpty => rfl

theorem ofDocument_of_empty_map (h : layer d = .map []) : ofDocument d = .ok {} := by
  rw [ofDocument, h]
  rfl

theorem ofValue_of_null (h : layer d = .atom .null) : ofValue d = .ok {} := by
  rw [ofValue, h]
  rfl

theorem ofValue_of_hollow (h : (layer d).IsHollow) : ofValue d = .ok {} := by
  rw [ofValue, if_pos (Layer.isVoid_iff.2 (.inr (.inr h)))]

/-- All other values are read as documents. -/
theorem ofValue_of_solid (hnull : layer d ≠ .atom .null) (hhollow : ¬ (layer d).IsHollow) :
    ofValue d = ofDocument d := by
  rw [ofValue]
  split
  next hvoid =>
    have hempty : layer d = .map [] :=
      ((Layer.isVoid_iff.1 hvoid).resolve_left hnull).resolve_right hhollow
    exact (ofDocument_of_empty_map hempty).symm
  next => rfl

end Documents

theorem ofText_of_decode {decode : Yaml.Decoder} {name text : String} {d : Yaml.Value}
    (hd : decode text = .ok d) : ofText decode name text = (ofValue d).mapError .content := by
  rw [ofText, Config.decodeFile_of_ok hd]
  simp only [bind, Except.bind]
  cases ofValue d <;> rfl

end Bridge

namespace Session

variable {w : Workspace} {p : Path} {text : String} {d : Yaml.Value}

theorem isFile_of_holds (h : w.Holds p text) : w.files.isFile (w.way p) = true := by
  obtain ⟨bytes, hread, -⟩ := h
  obtain ⟨place, n, hlocate, hentry⟩ := FileTree.read_eq_ok_iff.1 hread
  rw [FileTree.isFile, FileTree.find?, hlocate]
  simp only [hentry]

/-- What is loaded is what the value of the text means. -/
theorem perform_loadBridge_of_holds (h : w.Holds (p.expandHome w.home) text)
    (hd : w.libraries.decode text = .ok d) :
    ((loadBridge p).perform w).1 =
      (Bridge.ofValue d).mapError fun f => .bridge (.content f) := by
  rw [loadBridge, perform_bind_of_ok (perform_get w)]
  simp only [isFile_of_holds h, if_true]
  rw [perform_bind_of_ok (perform_readText_of_holds h), Bridge.ofText_of_decode hd]
  cases Bridge.ofValue d <;> rfl

theorem loadConfig_of_not_map (h : w.Holds (configFile w p) text)
    (hblank : Text.allBlank text = false) (hd : w.libraries.decode text = .ok d)
    (hnull : layer d ≠ .atom .null) (hmap : ¬ IsMap (layer d)) :
    ((loadConfig p).perform w).1 = .error (.config (.content .notMap)) := by
  rw [perform_loadConfig_of_holds h, Config.ofText_of_not_map hblank hd hnull hmap]
  rfl

/--
Loading a bridge file gives what reading its value as a document gives, the bridge or the fault, and
the empty bridge for null. Only hollow values make a difference: they are loaded as the empty bridge
too, whereas as documents they are refused. Any other value that is no map is refused here as in a
configuration file, where hollow values are refused as well.
-/
theorem loadBridge_reads_value (htext : w.Holds (p.expandHome w.home) text)
    (hd : w.libraries.decode text = .ok d) :
    (layer d = .atom .null → ((loadBridge p).perform w).1 = .ok {}) ∧
    (layer d ≠ .atom .null →
      (((loadBridge p).perform w).1 =
          (Bridge.ofDocument d).mapError (fun f => .bridge (.content f)) ↔
        ¬ (layer d).IsHollow)) ∧
    ((layer d).IsHollow → ((loadBridge p).perform w).1 = .ok {}) ∧
    (layer d ≠ .atom .null → ¬ IsMap (layer d) →
      (¬ (layer d).IsHollow → ∃ e, ((loadBridge p).perform w).1 = .error e ∧
        e.message? = some "Bridge description must contain a mapping at the root") ∧
      ∀ w' p', w'.libraries = w.libraries → w'.Holds (configFile w' p') text →
        Text.allBlank text = false → ∃ e, ((loadConfig p').perform w').1 = .error e ∧
          e.message? = some ".signalgen.yml must contain a mapping at the root") := by
  have hload := perform_loadBridge_of_holds htext hd
  refine ⟨?_, ?_, ?_, ?_⟩
  · intro hnull
    rw [hload, Bridge.ofValue_of_null hnull]
    rfl
  · intro hnull
    constructor
    · intro hsame hhollow
      -- A hollow value is loaded, but no document.
      rw [hload, Bridge.ofValue_of_hollow hhollow,
        Bridge.ofDocument_of_not_map hhollow.not_isMap] at hsame
      cases hsame
    · intro hhollow
      rw [hload, Bridge.ofValue_of_solid hnull hhollow]
  · intro hhollow
    rw [hload, Bridge.ofValue_of_hollow hhollow]
    rfl
  · intro hnull hmap
    constructor
    · intro hhollow
      refine ⟨.bridge (.content { place := [], problem := .notMap }), ?_, rfl⟩
      rw [hload, Bridge.ofValue_of_solid hnull hhollow, Bridge.ofDocument_of_not_map hmap]
      rfl
    · intro w' p' hlibraries htext' hblank
      exact ⟨_, loadConfig_of_not_map htext' hblank (hlibraries ▸ hd) hnull hmap, rfl⟩

/-! ### A signal without an object, and a file that says `false` -/

/-- A folder where the bridge file and the configuration file have the same text. -/
def twinFiles (text : String) : Workspace where
  folder := Path.ofText "/r"
  home := Path.ofText "/h"
  time := "now"
  files := {
    entries := [(["r"], .folder), (["r", "bridge.yml"], .file 0 text.toUTF8),
      (["r", ".signalgen.yml"], .file 1 text.toUTF8)]
    next := 2 }

/-- The value of a description with a free signal that names no object. -/
def strayFreeSignal : Yaml.Value where
  cells := #[
    some (.map [(⟨.text "free_signals", some 1⟩, 2)]),
    some (.single ⟨.text "free_signals", some 1⟩),
    some (.list [3]),
    some (.map [(⟨.text "name", some 4⟩, 5)]),
    some (.single ⟨.text "name", some 4⟩),
    some (.single ⟨.text "b", some 5⟩)]
  id := 0

theorem loadBridge_reads_value_strayFreeSignal :
    let text := "free_signals: [{name: b}]"
    let w := twinFiles text
    let p := Path.ofText "bridge.yml"
    Yaml.decode text = .ok strayFreeSignal ∧
      ((loadBridge p).perform w).1 = .error (.bridge (.content
        { place := [.key "free_signals", .index 0], problem := .missing "qobject" })) := by
  intro text w p
  have hd : Yaml.decode text = .ok strayFreeSignal := by decide +kernel
  have htext : w.Holds (p.expandHome w.home) text :=
    ⟨text.toUTF8, by decide +kernel, by decide +kernel⟩
  have hmap : IsMap (layer strayFreeSignal) := trivial
  have hsame := ((loadBridge_reads_value htext hd).2.1 nofun).2 fun h => h.not_isMap hmap
  exact ⟨hd, hsame.trans rfl⟩

/-- The value `false`. -/
def falseValue : Yaml.Value where
  cells := #[some (.single ⟨.bool false, some 0⟩)]
  id := 0

/-- As a document and as a configuration, `false` is refused, but as a bridge file it is the empty
bridge. -/
theorem loadBridge_overlooks_false :
    let text := "false"
    let w := twinFiles text
    Yaml.decode text = .ok falseValue ∧
      Bridge.ofDocument falseValue = .error { place := [], problem := .notMap } ∧
      ((loadConfig (Path.ofText ".")).perform w).1 = .error (.config (.content .notMap)) ∧
      ((loadBridge (Path.ofText "bridge.yml")).perform w).1 = .ok {} := by
  intro text w
  have hd : Yaml.decode text = .ok falseValue := by decide +kernel
  have hhollow : (layer falseValue).IsHollow := .false
  have htext : w.Holds (Path.ofText "bridge.yml") text :=
    ⟨text.toUTF8, by decide +kernel, by decide +kernel⟩
  have htext' : w.Holds (configFile w (Path.ofText ".")) text :=
    ⟨text.toUTF8, by decide +kernel, by decide +kernel⟩
  have hload := perform_loadBridge_of_holds (p := Path.ofText "bridge.yml") htext hd
  refine ⟨hd, Bridge.ofDocument_of_not_map hhollow.not_isMap,
    loadConfig_of_not_map htext' (by decide) hd hhollow.ne_null hhollow.not_isMap, ?_⟩
  rw [hload, Bridge.ofValue_of_hollow hhollow]
  rfl

end Session

end SignalBinding
