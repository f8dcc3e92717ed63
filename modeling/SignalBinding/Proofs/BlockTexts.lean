import Mathlib.Data.List.Forall2
import SignalBinding.Fragment.Shelf
import SignalBinding.Proofs.TextEnds

/-!
# The texts of blocks

The texts of fragments are put together from those of their parts, with a blank line between
definitions. They depend on the fragments in their order, not on how these are put into blocks, and
not on the line ends that close them. A step on a shelf changes the block that it names and no
other, so a block is not changed through another one that it was extended by, or that was extended
by it.

## Main definitions

- `Text.SameButLineEnds`: texts that differ only in the line ends that close them
- `Fragment.Alike`: fragments with such texts
- `Shelf.after`: the blocks that some steps build up

## Main statement

- `Shelf.texts_of_steps`: what the texts are put together from, and what an extension does to them
-/

namespace SignalBinding

/-- Two texts are the same but for the number of line ends that close them. -/
def Text.SameButLineEnds (s t : String) : Prop :=
  ∃ (u : String) (m n : Nat), s = u ++ String.ofList (List.replicate m '\n') ∧
    t = u ++ String.ofList (List.replicate n '\n')

namespace Fragment

/-- Two fragments of one kind are the same but for the line ends that close their texts. -/
inductive Alike : Fragment → Fragment → Prop
  | declaration {h h' : String} (hheader : Text.SameButLineEnds h h') :
      Alike (.declaration h) (.declaration h')
  | pair {h h' s s' : String} (hheader : Text.SameButLineEnds h h')
      (hsource : Text.SameButLineEnds s s') : Alike (.pair h s) (.pair h' s')

variable {f g : Fragment} {fs gs : List Fragment}

/-! ### Line ends at the end -/

theorem trimLineEnds_append (u : String) (n : Nat) :
    trimLineEnds (u ++ String.ofList (List.replicate n '\n')) = trimLineEnds u := by
  have hends : ∀ c ∈ List.replicate n '\n', (c == '\n') = true := by simp
  rw [trimLineEnds, String.toList_append, String.toList_ofList, Text.trimRight_append hends,
    trimLineEnds]

theorem trimLineEnds_eq {s t : String} (h : Text.SameButLineEnds s t) :
    trimLineEnds s = trimLineEnds t := by
  obtain ⟨u, m, n, rfl, rfl⟩ := h
  rw [trimLineEnds_append, trimLineEnds_append]

theorem Alike.trimLineEnds_header (h : Alike f g) :
    trimLineEnds f.header = trimLineEnds g.header := by
  cases h with
  | declaration hheader => exact trimLineEnds_eq hheader
  | pair hheader => exact trimLineEnds_eq hheader

theorem Alike.trimLineEnds_source? (h : Alike f g) :
    f.source?.map trimLineEnds = g.source?.map trimLineEnds := by
  cases h with
  | declaration => rfl
  | pair _ hsource => exact congrArg some (trimLineEnds_eq hsource)

theorem headerText_eq_of_alike (h : List.Forall₂ Alike fs gs) : headerText fs = headerText gs := by
  induction h with
  | nil => rfl
  | cons hfirst _ ih => rw [headerText, headerText, hfirst.trimLineEnds_header, ih]

theorem definitions_eq_filterMap (fs : List Fragment) :
    definitions fs = fs.filterMap fun f => f.source?.map trimLineEnds := by
  rw [definitions, List.map_filterMap]

theorem definitions_eq_of_alike (h : List.Forall₂ Alike fs gs) :
    definitions fs = definitions gs := by
  rw [definitions_eq_filterMap, definitions_eq_filterMap]
  induction h with
  | nil => rfl
  | cons hfirst _ ih =>
    rw [List.filterMap_cons, List.filterMap_cons, hfirst.trimLineEnds_source?, ih]

theorem sourceText_congr (h : definitions fs = definitions gs) : sourceText fs = sourceText gs := by
  rw [sourceText, h, sourceText]

/-! ### Fragments one after the other -/

theorem headerText_append (fs gs : List Fragment) :
    headerText (fs ++ gs) = headerText fs ++ headerText gs := by
  induction fs with
  | nil => rw [List.nil_append, headerText, String.empty_append]
  | cons f fs ih =>
    rw [List.cons_append, headerText, ih, headerText]
    simp only [String.append_assoc]

theorem definitions_append (fs gs : List Fragment) :
    definitions (fs ++ gs) = definitions fs ++ definitions gs := by
  rw [definitions, List.filterMap_append, List.map_append, definitions, definitions]

theorem sourceText_of_nil (h : definitions fs = []) : sourceText fs = "" := by
  rw [sourceText, h]

theorem sourceText_of_ne_nil (h : definitions fs ≠ []) :
    sourceText fs = "\n\n".intercalate (definitions fs) ++ "\n" := by
  rw [sourceText]
  split
  next hnil => exact absurd hnil h
  next => rfl

theorem sourceText_ne_empty_iff : sourceText fs ≠ "" ↔ definitions fs ≠ [] := by
  constructor
  · exact fun h hnil => h (sourceText_of_nil hnil)
  · intro h
    rw [sourceText_of_ne_nil h]
    simp

/-- The line end that closes the first text and one more make the blank line between the two. -/
theorem sourceText_append (fs gs : List Fragment) :
    sourceText (fs ++ gs) =
      sourceText fs ++ (if sourceText fs ≠ "" ∧ sourceText gs ≠ "" then "\n" else "") ++
        sourceText gs := by
  by_cases hfs : definitions fs = []
  · have hboth : definitions (fs ++ gs) = definitions gs := by
      rw [definitions_append, hfs, List.nil_append]
    rw [sourceText_congr hboth, sourceText_of_nil hfs]
    simp
  by_cases hgs : definitions gs = []
  · have hboth : definitions (fs ++ gs) = definitions fs := by
      rw [definitions_append, hgs, List.append_nil]
    rw [sourceText_congr hboth, sourceText_of_nil hgs]
    simp
  · have hboth : definitions (fs ++ gs) ≠ [] := by simp [definitions_append, hfs]
    have hblank : "\n\n" = "\n" ++ "\n" := rfl
    rw [if_pos ⟨sourceText_ne_empty_iff.2 hfs, sourceText_ne_empty_iff.2 hgs⟩,
      sourceText_of_ne_nil hboth, definitions_append, String.intercalate_append_of_ne_nil hfs hgs,
      sourceText_of_ne_nil hfs, sourceText_of_ne_nil hgs]
    conv_lhs =>
      arg 1
      arg 1
      arg 2
      rw [hblank]
    simp only [String.append_assoc]

end Fragment

/-! ### Blocks -/

namespace Block

theorem headerText_append (xs ys : List Block) :
    headerText (xs ++ ys) = headerText xs ++ headerText ys := by
  rw [headerText, List.flatten_append]
  exact Fragment.headerText_append _ _

theorem sourceText_append (xs ys : List Block) :
    sourceText (xs ++ ys) =
      sourceText xs ++ (if sourceText xs ≠ "" ∧ sourceText ys ≠ "" then "\n" else "") ++
        sourceText ys := by
  rw [sourceText, List.flatten_append]
  exact Fragment.sourceText_append _ _

theorem texts_eq_of_alike {xs ys : List Block}
    (h : List.Forall₂ Fragment.Alike xs.flatten ys.flatten) :
    headerText xs = headerText ys ∧ sourceText xs = sourceText ys :=
  ⟨Fragment.headerText_eq_of_alike h,
    Fragment.sourceText_congr (Fragment.definitions_eq_of_alike h)⟩

/-- A block and two that are put together to it have the same texts. -/
theorem texts_append (x y : Block) :
    headerText [x ++ y] = headerText ([x] ++ [y]) ∧
      sourceText [x ++ y] = sourceText ([x] ++ [y]) := by
  have hflatten : [x ++ y].flatten = ([x] ++ [y]).flatten := by simp
  rw [headerText, hflatten, sourceText, hflatten]
  exact ⟨rfl, rfl⟩

end Block

/-! ### Steps on a shelf -/

namespace Shelf

variable {shelf : Shelf} {name other third : String} {steps : List Step}

/-- The blocks that some steps build up, one after the other. -/
def after (steps : List Step) : Shelf :=
  steps.foldl apply {}

theorem after_append (steps later : List Step) :
    after (steps ++ later) = later.foldl apply (after steps) :=
  List.foldl_append

/-- A step changes only the block that it names. -/
theorem get_apply_of_ne {step : Step} (h : third ≠ step.name) :
    (shelf.apply step).get third = shelf.get third := by
  cases step with
  | append name fragment => exact (get_set _ _ _ _).trans (if_neg h)
  | extend name other => exact (get_set _ _ _ _).trans (if_neg h)

/-- Steps leave a block alone that none of them names. -/
theorem get_foldl_apply_of_forall_ne (h : ∀ step ∈ steps, third ≠ step.name) :
    (steps.foldl apply shelf).get third = shelf.get third := by
  induction steps generalizing shelf with
  | nil => rfl
  | cons step steps ih =>
    obtain ⟨hstep, hsteps⟩ := List.forall_mem_cons.1 h
    rw [List.foldl_cons, ih hsteps, get_apply_of_ne hstep]

theorem get_apply_extend :
    (shelf.apply (.extend name other)).get name = shelf.get name ++ shelf.get other :=
  (get_set _ _ _ _).trans (if_pos rfl)

/--
The texts of blocks are those of their parts, with a line end between sources that are not empty,
and depend only on the fragments in their order, up to the line ends that close these. So when a
block is extended by another one, or by itself, its texts are put together from those of the two; no
other block changes, and later steps change the blocks that they name only.
-/
theorem texts_of_steps :
    (∀ xs ys : List Block,
      Block.headerText (xs ++ ys) = Block.headerText xs ++ Block.headerText ys ∧
      Block.sourceText (xs ++ ys) =
        Block.sourceText xs ++
          (if Block.sourceText xs ≠ "" ∧ Block.sourceText ys ≠ "" then "\n" else "") ++
          Block.sourceText ys) ∧
    (∀ xs ys : List Block, List.Forall₂ Fragment.Alike xs.flatten ys.flatten →
      Block.headerText xs = Block.headerText ys ∧ Block.sourceText xs = Block.sourceText ys) ∧
    ∀ (steps : List Step) (name other : String),
      let before := after steps
      let extended := after (steps ++ [.extend name other])
      (Block.headerText [extended.get name] =
          Block.headerText [before.get name] ++ Block.headerText [before.get other] ∧
        Block.sourceText [extended.get name] =
          Block.sourceText [before.get name] ++
            (if Block.sourceText [before.get name] ≠ "" ∧ Block.sourceText [before.get other] ≠ ""
              then "\n" else "") ++
            Block.sourceText [before.get other] ∧
        (extended.get name).length = (before.get name).length + (before.get other).length) ∧
      (∀ third, third ≠ name → extended.get third = before.get third) ∧
      ∀ (later : List Step) (third : String), (∀ step ∈ later, third ≠ step.name) →
        (after (steps ++ .extend name other :: later)).get third = extended.get third := by
  refine ⟨?_, fun xs ys => Block.texts_eq_of_alike, ?_⟩
  · intro xs ys
    exact ⟨Block.headerText_append xs ys, Block.sourceText_append xs ys⟩
  · intro steps name other
    have hextended : after (steps ++ [.extend name other]) =
        (after steps).apply (.extend name other) := after_append _ _
    obtain ⟨hheader, hsource⟩ :=
      Block.texts_append ((after steps).get name) ((after steps).get other)
    dsimp only
    rw [hextended, get_apply_extend, hheader, hsource]
    refine ⟨⟨Block.headerText_append _ _, Block.sourceText_append _ _, List.length_append⟩,
      fun third hne => get_apply_of_ne hne, ?_⟩
    intro later third hlater
    rw [after_append, List.foldl_cons]
    exact get_foldl_apply_of_forall_ne hlater

/-- A block is extended by itself, and then it is appended to. -/
theorem texts_of_steps_doubled :
    let f : Fragment := .pair "extern int n;\n" "int n = 1;\n\n"
    let f' : Fragment := .pair "extern int n;" "int n = 1;"
    let g : Fragment := .declaration "class C;"
    let steps : List Step := [.append "f" f, .append "g" g]
    Block.sourceText [(after (steps ++ [.extend "f" "f"])).get "f"] =
        "int n = 1;\n\nint n = 1;\n" ∧
      (after (steps ++ .extend "f" "f" :: [.append "f" g])).get "g" = [g] ∧
      Block.sourceText [[g], [f]] = Block.sourceText [[g, f']] := by
  intro f f' g steps
  obtain ⟨-, halike, hsteps⟩ := texts_of_steps
  obtain ⟨⟨-, hsource, -⟩, hothers, hlater⟩ := hsteps steps "f" "f"
  have hg : ∀ step ∈ [Step.append "f" g], "g" ≠ step.name :=
    List.forall_mem_singleton.2 (by decide)
  have hblock : (after (steps ++ .extend "f" "f" :: [.append "f" g])).get "g" = [g] :=
    calc
      _ = (after (steps ++ [.extend "f" "f"])).get "g" := hlater [.append "f" g] "g" hg
      _ = (after steps).get "g" := hothers "g" (by decide)
      _ = [g] := rfl
  have hf : f.Alike f' :=
    .pair ⟨"extern int n;", 1, 0, rfl, rfl⟩ ⟨"int n = 1;", 2, 0, rfl, rfl⟩
  have hsame : g.Alike g := .declaration ⟨"class C;", 0, 0, rfl, rfl⟩
  obtain ⟨-, htext⟩ := halike [[g], [f]] [[g, f']] (.cons hsame (.cons hf .nil))
  exact ⟨hsource.trans (by decide), hblock, htext⟩

end Shelf

end SignalBinding
