import Mathlib.Data.List.Forall2
import SignalBinding.Proofs.SignalFate
import SignalBinding.Proofs.Outcomes

/-!
# Signals in one go

Writing several signals of a class in one go gives what writing them one by one gives, put together
in declared order, and stops where writing them one by one stops first. This holds for any
templates, also for such that fail.

## Main definitions

- `batch`: several signals in one go
- `Signal.HasShape`: the kinds of the fragments of a signal
-/

namespace SignalBinding

open Attempt

/-- What comes out of writing the signals of the class `owner` in one go. -/
def batch (templates : TemplateSet) (table : NameTable) (owner : String) (ss : List Signal) :
    Attempt :=
  (memberBlock templates table owner ss).result

variable {templates : TemplateSet} {table : NameTable} {owner : String} {s : Signal}
  {ss : List Signal} {block : Block}

/-! ### One signal after the other -/

theorem batch_nil : batch templates table owner [] = .ok (.ok []) := rfl

theorem batch_cons_eq_joined_member :
    batch templates table owner (s :: ss) =
      joined (s.member templates table owner).result (batch templates table owner ss) := by
  rw [batch, memberBlock]
  rcases hs : (s.member templates table owner).result with e | e | x
  · rw [Journaled.bind_of_error _ hs]
    rfl
  · rw [Journaled.result_bind_of_ok hs]
    rfl
  · rw [Journaled.result_bind_of_ok hs, batch]
    rcases hss : (memberBlock templates table owner ss).result with e | e | y
    · dsimp only
      rw [Journaled.bind_of_error _ hss]
      rfl
    · dsimp only
      rw [Journaled.result_bind_of_ok hss]
      rfl
    · dsimp only
      rw [Journaled.result_bind_of_ok hss]
      rfl

theorem batch_singleton :
    batch templates table owner [s] = (s.member templates table owner).result := by
  rw [batch_cons_eq_joined_member, batch_nil, joined_empty]

theorem batch_cons :
    batch templates table owner (s :: ss) =
      joined (batch templates table owner [s]) (batch templates table owner ss) := by
  rw [batch_cons_eq_joined_member, batch_singleton]

/-- Two lists in one go are the one after the other. -/
theorem batch_append (ss ss' : List Signal) :
    batch templates table owner (ss ++ ss') =
      joined (batch templates table owner ss) (batch templates table owner ss') := by
  induction ss with
  | nil => rw [List.nil_append, batch_nil, empty_joined]
  | cons s ss ih => rw [List.cons_append, batch_cons, ih, ← joined_assoc, ← batch_cons]

theorem succeeds_batch_iff :
    (batch templates table owner ss).Succeeds ↔
      ∀ s ∈ ss, (batch templates table owner [s]).Succeeds := by
  induction ss with
  | nil => simpa using ⟨[], batch_nil⟩
  | cons s ss ih => rw [batch_cons, succeeds_joined_iff, ih, List.forall_mem_cons]

/-- Signals in one go give the fragments of each of them, in declared order. -/
theorem batch_eq_ok_iff :
    batch templates table owner ss = .ok (.ok block) ↔
      ∃ parts,
        List.Forall₂ (fun s part => batch templates table owner [s] = .ok (.ok part)) ss parts ∧
          block = parts.flatten := by
  induction ss generalizing block with
  | nil => simp [batch_nil, eq_comm]
  | cons s ss ih =>
    rw [batch_cons, joined_eq_ok_iff]
    constructor
    · rintro ⟨part, rest, hs, hss, rfl⟩
      obtain ⟨parts, hparts, rfl⟩ := ih.1 hss
      exact ⟨part :: parts, .cons hs hparts, rfl⟩
    · rintro ⟨_, hall, rfl⟩
      obtain _ | ⟨hs, hparts⟩ := hall
      exact ⟨_, _, hs, ih.2 ⟨_, hparts, rfl⟩, rfl⟩

/-- A signal that stops decides, if no signal before it does. -/
theorem batch_eq_of_first_stop {before after : List Signal}
    (hbefore : ∀ s ∈ before, (batch templates table owner [s]).Succeeds)
    (hs : ¬ (batch templates table owner [s]).Succeeds) :
    batch templates table owner (before ++ s :: after) = batch templates table owner [s] := by
  rw [batch_append, batch_cons, joined_of_not_succeeds hs,
    joined_of_succeeds (succeeds_batch_iff.2 hbefore) hs]

theorem exists_first_stop (h : ∃ s ∈ ss, ¬ (batch templates table owner [s]).Succeeds) :
    ∃ before s after, ss = before ++ s :: after ∧
      (∀ s' ∈ before, (batch templates table owner [s']).Succeeds) ∧
      ¬ (batch templates table owner [s]).Succeeds := by
  induction ss with
  | nil => simp at h
  | cons s ss ih =>
    by_cases hs : (batch templates table owner [s]).Succeeds
    · have hrest : ∃ s ∈ ss, ¬ (batch templates table owner [s]).Succeeds := by
        obtain ⟨s', hmem, hs'⟩ := h
        obtain rfl | hmem := List.mem_cons.1 hmem
        · exact absurd hs hs'
        · exact ⟨s', hmem, hs'⟩
      obtain ⟨before, t, after, rfl, hbefore, ht⟩ := ih hrest
      exact ⟨s :: before, t, after, rfl, List.forall_mem_cons.2 ⟨hs, hbefore⟩, ht⟩
    · exact ⟨[], s, ss, rfl, by simp, hs⟩

/-! ### The fragments of one signal -/

/-- A declaration unless the signal is inherited, and then a declaration with its definition. -/
def Signal.HasShape (s : Signal) (part : Block) : Prop :=
  if s.inherit then ∃ h c, part = [.pair h c] else ∃ d h c, part = [.declaration d, .pair h c]

theorem Generation.exists_pair {header source : TemplateName} {subject : TemplateSet.Subject}
    {f : Fragment} (hf : pair templates header source subject = .ok f) : ∃ h c, f = .pair h c := by
  simp only [pair, bind_eq_ok_iff, pure_eq_ok_iff] at hf
  obtain ⟨⟨h, _⟩, -, ⟨c, _⟩, -, rfl⟩ := hf
  exact ⟨h, c, rfl⟩

theorem Signal.hasShape_of_batch
    (h : batch templates table owner [s] = .ok (.ok block)) : s.HasShape block := by
  rw [batch_singleton, member_eq] at h
  cases hrefusal : Parameter.firstRefusal? table s.parameters with
  | some e => simp [hrefusal] at h
  | none =>
    rw [hrefusal, Journaled.result_bind_of_ok rfl, Journaled.result_bind] at h
    obtain ⟨part, hpart, hblock⟩ := bind_eq_ok_iff.1 h
    cases hblock
    change Generation.memberFragments templates _ s.inherit = .ok block at hpart
    unfold HasShape
    unfold Generation.memberFragments at hpart
    split at hpart
    next hinherit =>
      obtain ⟨f, hf, hblock⟩ := bind_eq_ok_iff.1 hpart
      obtain ⟨h, c, rfl⟩ := Generation.exists_pair hf
      rw [if_pos hinherit]
      exact ⟨h, c, pure_eq_ok_iff.1 hblock⟩
    next hinherit =>
      obtain ⟨⟨d, _⟩, -, hrest⟩ := bind_eq_ok_iff.1 hpart
      obtain ⟨f, hf, hblock⟩ := bind_eq_ok_iff.1 hrest
      obtain ⟨h, c, rfl⟩ := Generation.exists_pair hf
      rw [if_neg hinherit]
      exact ⟨d, h, c, pure_eq_ok_iff.1 hblock⟩

/-! ### The report of a bridge -/

namespace Generation

/-- Where no signal stops, the signals of a class that are written one by one are a batch. -/
theorem result_memberSignals_of_batch (h : batch templates table owner ss = .ok (.ok block)) :
    (memberSignals templates table owner ss).result = .ok (block, []) := by
  induction ss generalizing block with
  | nil =>
    cases h
    rfl
  | cons s ss ih =>
    rw [batch_cons, joined_eq_ok_iff, batch_singleton] at h
    obtain ⟨part, rest, hs, hss, rfl⟩ := h
    rw [memberSignals, Journaled.result_bind_of_ok hs]
    dsimp only
    rw [Journaled.result_bind_of_ok (ih hss)]
    rfl

/-- What is reported of a class with the fragments `block`. -/
def reportOf (owner : String) (block : Block) : Report where
  owners := if block.isEmpty then [] else [{ name := owner, block }]

theorem result_object_of_batch {o : Object}
    (h : batch templates table o.className o.signals = .ok (.ok block)) :
    (object templates table o).result = .ok (reportOf o.className block) := by
  rw [object, Journaled.result_bind_of_ok (result_memberSignals_of_batch h), reportOf]
  dsimp only
  split
  · rfl
  · rfl

end Generation

open Generation

theorem Report.append_assoc (r₁ r₂ r₃ : Report) : r₁ ++ r₂ ++ r₃ = r₁ ++ (r₂ ++ r₃) := by
  change Report.mk _ _ = Report.mk _ _
  simp

theorem Report.empty_append (r : Report) : ({} : Report) ++ r = r := rfl

/-- The reports of two lists of things, one after the other. -/
theorem Generation.result_combine_append {α : Type} (report : α → Journaled TemplateError Report)
    (xs ys : List α) :
    (combine report (xs ++ ys)).result = do
      let r ← (combine report xs).result
      let r' ← (combine report ys).result
      return r ++ r' := by
  induction xs with
  | nil =>
    simp only [List.nil_append, combine, Journaled.result_pure, ok_eq_pure, pure_bind,
      Report.empty_append, bind_pure]
  | cons x xs ih =>
    simp only [List.cons_append, combine, Journaled.result_bind, Journaled.result_pure, ih,
      ok_eq_pure, pure_bind, bind_assoc, Report.append_assoc]

/-- An object that is reported on stands between what comes before it and what comes after it. -/
theorem Bridge.result_generate_split {b : Bridge} {table? : Option NameTable} {o : Object}
    {before after : List Object} {r : Report} (hb : b.objects = before ++ o :: after)
    (ho : (object templates (b.effectiveTable table?) o).result = .ok r) :
    (b.generate table? templates).result = do
      let r₁ ← ({ b with objects := before, freeSignals := [] : Bridge }.generate
        table? templates).result
      let r₂ ← ({ b with objects := after : Bridge }.generate table? templates).result
      return r₁ ++ r ++ r₂ := by
  have htable (b' : Bridge) (h : b'.table = b.table) :
      b'.effectiveTable table? = b.effectiveTable table? := by
    rw [effectiveTable, effectiveTable, h]
  simp only [generate, hb, htable, result_combine_append, combine, ho, Journaled.result_bind,
    Journaled.result_pure, ok_eq_pure, pure_bind, bind_assoc, Report.append_assoc,
    Report.empty_append]

/--
Signals of a class in one go succeed if each of them alone does, and give the fragments of each of
them in declared order; else they end as the first one that does not succeed. So a class of which
all signals succeed is reported with the fragments that its signals give in one go, whatever else
the bridge declares.
-/
theorem batch_eq_parts (templates : TemplateSet) (table : NameTable) (owner : String)
    (ss : List Signal) :
    ((batch templates table owner ss).Succeeds ↔
      ∀ s ∈ ss, (batch templates table owner [s]).Succeeds) ∧
    (∀ block, batch templates table owner ss = .ok (.ok block) →
      ∃ parts, block = parts.flatten ∧
        List.Forall₂ (fun s part =>
          batch templates table owner [s] = .ok (.ok part) ∧ s.HasShape part) ss parts) ∧
    ((∃ s ∈ ss, ¬ (batch templates table owner [s]).Succeeds) →
      ∃ before s after, ss = before ++ s :: after ∧
        (∀ s' ∈ before, (batch templates table owner [s']).Succeeds) ∧
        ¬ (batch templates table owner [s]).Succeeds ∧
        batch templates table owner ss = batch templates table owner [s]) ∧
    ∀ (b : Bridge) (table? : Option NameTable) (before : List Object) (o : Object)
      (after : List Object), b.effectiveTable table? = table → b.objects = before ++ o :: after →
      o.className = owner → o.signals = ss →
      (∀ s ∈ ss, (batch templates table owner [s]).Succeeds) →
      ∃ block, batch templates table owner ss = .ok (.ok block) ∧
        (b.generate table? templates).result = do
          let r₁ ← ({ b with objects := before, freeSignals := [] : Bridge }.generate
            table? templates).result
          let r₂ ← ({ b with objects := after : Bridge }.generate table? templates).result
          return r₁ ++
            { owners := if block.isEmpty then [] else [{ name := owner, block }] } ++ r₂ := by
  refine ⟨succeeds_batch_iff, ?_, ?_, ?_⟩
  · intro block h
    obtain ⟨parts, hparts, rfl⟩ := batch_eq_ok_iff.1 h
    exact ⟨parts, rfl, hparts.imp fun s part hs => ⟨hs, s.hasShape_of_batch hs⟩⟩
  · intro h
    obtain ⟨before, s, after, rfl, hbefore, hs⟩ := exists_first_stop h
    exact ⟨before, s, after, rfl, hbefore, hs, batch_eq_of_first_stop hbefore hs⟩
  · rintro b table? before o after rfl hb rfl rfl h
    obtain ⟨block, hblock⟩ := succeeds_batch_iff.2 h
    exact ⟨block, hblock, b.result_generate_split hb (result_object_of_batch hblock)⟩

/-- A signal of a button, one of its base class, and between them one with an empty type. -/
theorem batch_eq_parts_button :
    let clicked : Signal := { owner := "Button", name := ⟨"clicked", "clicked"⟩ }
    let pressed : Signal :=
      { owner := "Button", name := ⟨"pressed", "pressed"⟩, inherit := true }
    let odd : Signal :=
      { owner := "Button", name := ⟨"odd", "odd"⟩, parameters := [⟨"by", ""⟩] }
    let b : Bridge := { objects := [{ ident := "Button", signals := [clicked, pressed] }] }
    (∃ d h₁ c₁ h₂ c₂, batch .builtin {} "Button" [clicked, pressed] =
        .ok (.ok [.declaration d, .pair h₁ c₁, .pair h₂ c₂]) ∧
      b.generate.result = .ok { owners :=
        [{ name := "Button", block := [.declaration d, .pair h₁ c₁, .pair h₂ c₂] }] }) ∧
    ¬ (batch .builtin {} "Button" [odd]).Succeeds ∧
      batch .builtin {} "Button" [clicked, odd, pressed] = batch .builtin {} "Button" [odd] := by
  intro clicked pressed odd b
  have hsucceeds (s : Signal) (hs : s.parameters = []) :
      (batch .builtin {} "Button" [s]).Succeeds := by
    refine ⟨s.memberPieces TemplateSet.builtinTexts {} "Button", ?_⟩
    rw [batch_singleton, Signal.result_member (TemplateSet.builtin_gives _), Signal.outcome, hs]
    rfl
  have hodd : ¬ (batch .builtin {} "Button" [odd]).Succeeds := by
    have hempty : TypeExpr.spell {} "" = .error ⟨"", .empty⟩ := by
      have htokens : TypeExpr.tokens "".toList = .ok [] := TypeExpr.tokens_nil
      rw [TypeExpr.spell, TypeExpr.ofText, htokens]
      rfl
    have hrefusal : Parameter.firstRefusal? {} odd.parameters = some ⟨"", .empty⟩ := by
      simp [Parameter.firstRefusal?, Parameter.refusal?, odd, hempty]
    rintro ⟨block, hblock⟩
    rw [batch_singleton, Signal.result_member (TemplateSet.builtin_gives _), Signal.outcome,
      hrefusal] at hblock
    cases hblock
  obtain ⟨-, hparts, -, hreport⟩ := batch_eq_parts .builtin {} "Button" [clicked, pressed]
  obtain ⟨-, -, hstop, -⟩ := batch_eq_parts .builtin {} "Button" [clicked, odd, pressed]
  refine ⟨?_, hodd, ?_⟩
  · have hall : ∀ s ∈ [clicked, pressed], (batch .builtin {} "Button" [s]).Succeeds := by
      simp [hsucceeds clicked rfl, hsucceeds pressed rfl]
    obtain ⟨block, hblock, hgenerate⟩ := hreport b none [] _ [] rfl rfl rfl rfl hall
    obtain ⟨_, rfl, _ | ⟨⟨-, h₁⟩, _ | ⟨⟨-, h₂⟩, _ | _⟩⟩⟩ := hparts block hblock
    obtain ⟨d, h₁, c₁, rfl⟩ := h₁
    obtain ⟨h₂, c₂, rfl⟩ := h₂
    exact ⟨d, h₁, c₁, h₂, c₂, hblock, hgenerate⟩
  · obtain ⟨before, s, after, hsplit, hbefore, hs, heq⟩ := hstop ⟨odd, by simp, hodd⟩
    obtain _ | ⟨x, _ | ⟨y, before⟩⟩ := before
    · obtain ⟨rfl, -⟩ := List.cons.inj hsplit
      exact absurd (hsucceeds clicked rfl) hs
    · obtain ⟨-, hsplit⟩ := List.cons.inj hsplit
      obtain ⟨rfl, -⟩ := List.cons.inj hsplit
      exact heq
    · obtain ⟨-, hsplit⟩ := List.cons.inj hsplit
      obtain ⟨rfl, -⟩ := List.cons.inj hsplit
      exact absurd (hbefore odd (by simp)) hodd

end SignalBinding
