import Mathlib.Data.List.DropRight
import SignalBinding.Text.Blank

/-!
# Ends of texts

Unwanted characters are taken off a text at one end or at both. What is left neither starts nor ends
with one of them. And a text is known by what stands before and behind the last of its separators.

## Main definitions

- `Text.IsTrimmed`: what is left of some characters without the unwanted ones at their ends

## Main statements

- `Text.isTrimmed_trim`: what trimming leaves
- `Text.append_cons_inj`: a text is cut at its last separator in one way only
-/

namespace SignalBinding.Text

variable {p : Char → Bool} {core cs ds : List Char}

/-- The characters `core` are what is left of `cs` without the characters in `p` at its ends. -/
structure IsTrimmed (p : Char → Bool) (core cs : List Char) : Prop where
  between : ∃ before after, cs = before ++ core ++ after ∧
    (∀ c ∈ before, p c = true) ∧ ∀ c ∈ after, p c = true
  first : ∀ c ∈ core.head?, p c = false
  last : ∀ c ∈ core.getLast?, p c = false

theorem eq_false_of_head?_dropWhile {c : Char} (h : c ∈ (cs.dropWhile p).head?) : p c = false := by
  have hnot := List.head?_dropWhile_not p cs
  rw [Option.mem_def.1 h] at hnot
  exact hnot

/-- Only unwanted characters are taken off at the end. -/
theorem exists_append_trimRight (p : Char → Bool) (cs : List Char) :
    ∃ ends, cs = trimRight p cs ++ ends ∧ ∀ c ∈ ends, p c = true :=
  ⟨cs.rtakeWhile p, List.rdropWhile_append_rtakeWhile.symm, fun _ => List.mem_rtakeWhile_imp⟩

/-- All of them are. -/
theorem eq_false_of_getLast?_trimRight {c : Char} (h : c ∈ (trimRight p cs).getLast?) :
    p c = false := by
  rw [trimRight, List.getLast?_reverse] at h
  exact eq_false_of_head?_dropWhile h

theorem isTrimmed_trim (p : Char → Bool) (cs : List Char) : IsTrimmed p (trim p cs) cs := by
  obtain ⟨after, hsplit, hafter⟩ := exists_append_trimRight p (cs.dropWhile p)
  refine ⟨⟨cs.takeWhile p, after, ?_, fun c => List.mem_takeWhile_imp, hafter⟩, ?_, ?_⟩
  · rw [trim, List.append_assoc, ← hsplit, List.takeWhile_append_dropWhile]
  · intro c hc
    have hinner : c ∈ (cs.dropWhile p).head? := by
      rw [hsplit, List.head?_append, ← trim, Option.mem_def.1 hc]
      rfl
    exact eq_false_of_head?_dropWhile hinner
  · intro c hc
    exact eq_false_of_getLast?_trimRight hc

theorem IsTrimmed.mem {c : Char} (h : IsTrimmed p core cs) (hc : c ∈ core) : c ∈ cs := by
  obtain ⟨before, after, hcs, -, -⟩ := h.between
  rw [hcs]
  exact List.mem_append_left _ (List.mem_append_right _ hc)

/-- With one unwanted character, only its repetitions are taken off. -/
theorem IsTrimmed.exists_replicate {x : Char} (h : IsTrimmed (· == x) core cs) :
    ∃ m n, cs = List.replicate m x ++ core ++ List.replicate n x := by
  obtain ⟨before, after, hcs, hbefore, hafter⟩ := h.between
  refine ⟨before.length, after.length, ?_⟩
  rw [← List.eq_replicate_iff.2 ⟨rfl, fun c hc => beq_iff_eq.1 (hbefore c hc)⟩,
    ← List.eq_replicate_iff.2 ⟨rfl, fun c hc => beq_iff_eq.1 (hafter c hc)⟩]
  exact hcs

theorem trim_eq_nil_iff : trim p cs = [] ↔ ∀ c ∈ cs, p c = true := by
  constructor
  · intro h
    obtain ⟨before, after, hcs, hbefore, hafter⟩ := (isTrimmed_trim p cs).between
    rw [h, List.append_nil] at hcs
    rw [hcs]
    exact List.forall_mem_append.2 ⟨hbefore, hafter⟩
  · intro h
    rw [trim, List.dropWhile_eq_nil_iff.2 h]
    rfl

/-- Unwanted characters at the end do not count. -/
theorem trimRight_append (h : ∀ c ∈ ds, p c = true) : trimRight p (cs ++ ds) = trimRight p cs := by
  have hreversed : ∀ c ∈ ds.reverse, p c = true := fun c hc => h c (List.mem_reverse.1 hc)
  rw [trimRight, List.reverse_append, List.dropWhile_append_of_pos hreversed]
  rfl

/-- What is behind the last `x` is told apart from what is before it. -/
theorem append_cons_inj {x : Char} {as bs cs ds : List Char} (hbs : x ∉ bs) (hds : x ∉ ds)
    (h : as ++ x :: bs = cs ++ x :: ds) : as = cs ∧ bs = ds := by
  rcases List.append_eq_append_iff.1 h with ⟨es, rfl, hes⟩ | ⟨es, rfl, hes⟩
  · cases es with
    | nil => exact ⟨by simp, (List.cons.inj hes).2⟩
    | cons e es =>
      obtain ⟨-, rfl⟩ := List.cons.inj hes
      simp at hbs
  · cases es with
    | nil => exact ⟨by simp, (List.cons.inj hes).2.symm⟩
    | cons e es =>
      obtain ⟨-, rfl⟩ := List.cons.inj hes
      simp at hds

end SignalBinding.Text
