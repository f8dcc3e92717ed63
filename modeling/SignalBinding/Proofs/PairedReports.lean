import SignalBinding.Proofs.SignalBatch

/-!
# Reports with definitions

Every signal that is written has a definition, whatever the templates are. So every owner of a
report has one, and a report without a source has no header either.

## Main definitions

- `Report.Paired`: whether every owner of a report has a definition
-/

namespace SignalBinding

/-- Every owner has a declaration with its definition. -/
def Report.Paired (r : Report) : Prop :=
  ∀ o ∈ r.owners, ∃ h c, Fragment.pair h c ∈ o.block

namespace Report

variable {r s : Report}

theorem Paired.append (hr : r.Paired) (hs : s.Paired) : (r ++ s).Paired := by
  intro o ho
  rw [owners_append, List.mem_append] at ho
  exact ho.elim (hr o) (hs o)

theorem Paired.source_ne_empty (h : r.Paired) (hheader : r.header ≠ "") : r.source ≠ "" := by
  obtain ⟨o, ho⟩ : ∃ o, o ∈ r.owners := by
    refine List.exists_mem_of_ne_nil _ fun hnone => hheader ?_
    rw [header, blocks, hnone]
    rfl
  obtain ⟨hd, c, hpair⟩ := h o ho
  have hmem : Fragment.pair hd c ∈ r.blocks.flatten :=
    List.mem_flatten.2 ⟨o.block, List.mem_map_of_mem ho, hpair⟩
  have hdefinition : Fragment.trimLineEnds c ∈ Fragment.definitions r.blocks.flatten :=
    List.mem_map_of_mem (List.mem_filterMap.2 ⟨_, hmem, rfl⟩)
  rw [source, Block.sourceText, Fragment.sourceText]
  cases hds : Fragment.definitions r.blocks.flatten with
  | nil => simp [hds] at hdefinition
  | cons d ds => simp

end Report

namespace Generation

variable {templates : TemplateSet} {table : NameTable} {owner : String}

theorem exists_pair_of_member {s : Signal} {block : Block}
    (h : (s.member templates table owner).result = .ok (.ok block)) :
    ∃ h c, Fragment.pair h c ∈ block := by
  have hshape := Signal.hasShape_of_batch (batch_singleton.trans h)
  rw [Signal.HasShape] at hshape
  split at hshape
  · obtain ⟨hd, c, rfl⟩ := hshape
    exact ⟨hd, c, by simp⟩
  · obtain ⟨d, hd, c, rfl⟩ := hshape
    exact ⟨hd, c, by simp⟩

theorem exists_pair_of_free {s : Signal} {f : Fragment}
    (h : (s.free templates table).result = .ok (.ok f)) : ∃ h c, f = .pair h c := by
  rw [Signal.free_eq] at h
  cases hrefusal : Parameter.firstRefusal? table s.parameters with
  | some e => simp [hrefusal] at h
  | none =>
    rw [hrefusal, Journaled.result_bind_of_ok rfl, Journaled.result_bind] at h
    obtain ⟨f', hf, h⟩ := bind_eq_ok_iff.1 h
    cases h
    exact exists_pair hf

theorem exists_pair_of_memberSignals {ss : List Signal} {block : Block} {skipped : List Skipped}
    (h : (memberSignals templates table owner ss).result = .ok (block, skipped))
    (hne : block ≠ []) : ∃ h c, Fragment.pair h c ∈ block := by
  induction ss generalizing block skipped with
  | nil =>
    cases h
    exact absurd rfl hne
  | cons s ss ih =>
    rw [memberSignals, Journaled.result_bind] at h
    obtain ⟨outcome, hs, h⟩ := bind_eq_ok_iff.1 h
    cases outcome with
    | ok fragments =>
      dsimp only at h
      rw [Journaled.result_bind] at h
      obtain ⟨⟨rest, skipped'⟩, hrest, h⟩ := bind_eq_ok_iff.1 h
      cases h
      obtain ⟨hd, c, hpair⟩ := exists_pair_of_member hs
      exact ⟨hd, c, List.mem_append_left _ hpair⟩
    | error e =>
      dsimp only at h
      rw [Journaled.result_bind] at h
      obtain ⟨first, -, h⟩ := bind_eq_ok_iff.1 h
      rw [Journaled.result_bind] at h
      obtain ⟨⟨rest, skipped'⟩, hrest, h⟩ := bind_eq_ok_iff.1 h
      cases h
      exact ih hrest hne

theorem paired_object {o : Object} {r : Report} (h : (object templates table o).result = .ok r) :
    r.Paired := by
  rw [object, Journaled.result_bind] at h
  obtain ⟨⟨block, skipped⟩, hblock, h⟩ := bind_eq_ok_iff.1 h
  dsimp only at h
  split at h
  · cases h
    simp [Report.Paired]
  next hne =>
    cases h
    intro o ho
    obtain rfl := List.mem_singleton.1 ho
    exact exists_pair_of_memberSignals hblock (by simpa using hne)

theorem paired_freeSignal {s : Signal} {r : Report}
    (h : (freeSignal templates table s).result = .ok r) : r.Paired := by
  rw [freeSignal, Journaled.result_bind] at h
  obtain ⟨outcome, hs, h⟩ := bind_eq_ok_iff.1 h
  cases outcome with
  | ok f =>
    cases h
    intro o ho
    obtain rfl := List.mem_singleton.1 ho
    obtain ⟨hd, c, rfl⟩ := exists_pair_of_free hs
    exact ⟨hd, c, List.mem_singleton_self _⟩
  | error e =>
    dsimp only at h
    rw [Journaled.result_bind] at h
    obtain ⟨skipped, -, h⟩ := bind_eq_ok_iff.1 h
    cases h
    simp [Report.Paired]

theorem paired_combine {α : Type} {report : α → Journaled TemplateError Report} {xs : List α}
    {r : Report} (hreport : ∀ x r, (report x).result = .ok r → r.Paired)
    (h : (combine report xs).result = .ok r) : r.Paired := by
  induction xs generalizing r with
  | nil =>
    cases h
    simp [Report.Paired]
  | cons x xs ih =>
    rw [combine, Journaled.result_bind] at h
    obtain ⟨r₁, hx, h⟩ := bind_eq_ok_iff.1 h
    rw [Journaled.result_bind] at h
    obtain ⟨r₂, hxs, h⟩ := bind_eq_ok_iff.1 h
    cases h
    exact (hreport x r₁ hx).append (ih hxs)

theorem paired_generate {b : Bridge} {table? : Option NameTable} {r : Report}
    (h : (b.generate table? templates).result = .ok r) : r.Paired := by
  rw [Bridge.generate, Journaled.result_bind] at h
  obtain ⟨r₁, hobjects, h⟩ := bind_eq_ok_iff.1 h
  rw [Journaled.result_bind] at h
  obtain ⟨r₂, hfree, h⟩ := bind_eq_ok_iff.1 h
  cases h
  exact (paired_combine (fun _ _ => paired_object) hobjects).append
    (paired_combine (fun _ _ => paired_freeSignal) hfree)

end Generation

end SignalBinding
