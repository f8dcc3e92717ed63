import SignalBinding.Proofs.TextEnds

/-!
# Texts between blank lines

Texts put together with blank lines between them are found again at the blank lines, unless one of
them has a blank line itself or ends in a line end. A text is read with the one thing that matters
for that: whether a line end stands just before.

## Main definitions

- `Text.paragraphs`, `Text.splitBlankLines`: the pieces of a text between its blank lines
- `Text.atLineEnd`: whether a text ends in a line end, if it has no blank line
- `Text.OneLine`: texts without line ends

## Main statement

- `Text.splitBlankLines_intercalate`: the texts that a text was put together from
-/

namespace SignalBinding.Text

/-- The pieces between two line ends in a row, found from left to right. -/
def paragraphs : List Char → List (List Char)
  | [] => [[]]
  | '\n' :: '\n' :: rest => [] :: paragraphs rest
  | c :: rest => (paragraphs rest).modifyHead (c :: ·)

/-- The pieces of a text between its blank lines. -/
def splitBlankLines (s : String) : List String :=
  (paragraphs s.toList).map String.ofList

example : splitBlankLines "a\n\n\nb\nc\n\n" = ["a", "\nb\nc", ""] := by decide

/--
Whether a line end is the last of some characters, or stands before them if there are none; nothing
if they have a blank line. `before` says whether a line end stands before them.
-/
def atLineEnd (before : Bool) : List Char → Option Bool
  | [] => some before
  | c :: cs => if c = '\n' then (if before then none else atLineEnd true cs) else atLineEnd false cs

variable {before after : Bool} {c : Char} {cs ds : List Char}

theorem atLineEnd_of_ne (h : c ≠ '\n') : atLineEnd before (c :: cs) = atLineEnd false cs := by
  rw [atLineEnd, if_neg h]

theorem atLineEnd_lineEnd : atLineEnd false ('\n' :: cs) = atLineEnd true cs := rfl

theorem atLineEnd_append :
    atLineEnd before (cs ++ ds) = (atLineEnd before cs).bind fun b => atLineEnd b ds := by
  induction cs generalizing before with
  | nil => rfl
  | cons c cs ih =>
    rw [List.cons_append, atLineEnd, atLineEnd]
    split
    · split
      · rfl
      · exact ih
    · exact ih

/-- Characters without a line end take the reader off one, unless there are none. -/
theorem atLineEnd_of_notMem (h : '\n' ∉ cs) :
    atLineEnd before cs = some (before && cs.isEmpty) := by
  induction cs generalizing before with
  | nil => simp [atLineEnd]
  | cons c cs ih =>
    obtain ⟨hc, hcs⟩ := not_or.1 (mt List.mem_cons.2 h)
    rw [atLineEnd_of_ne (Ne.symm hc), ih hcs]
    simp

theorem atLineEnd_concat (h : atLineEnd before (cs ++ [c]) = some after) :
    after = (c == '\n') := by
  rw [atLineEnd_append] at h
  obtain ⟨b, -, h⟩ := Option.bind_eq_some_iff.1 h
  unfold atLineEnd at h
  split at h
  next hc =>
    split at h
    · cases h
    · cases h
      simp [hc]
  next hc =>
    cases h
    simp [hc]

/-- After a line end, a text without a blank line goes on with something else. -/
theorem exists_cons_of_atLineEnd (h : atLineEnd true cs = some after) (hne : cs ≠ []) :
    ∃ d ds, cs = d :: ds ∧ d ≠ '\n' ∧ atLineEnd false cs = some after := by
  cases cs with
  | nil => exact absurd rfl hne
  | cons d ds =>
    have hd : d ≠ '\n' := by
      rintro rfl
      cases h
    exact ⟨d, ds, rfl, hd, by rwa [atLineEnd_of_ne hd] at h ⊢⟩

theorem paragraphs_of_ne (h : c ≠ '\n') :
    paragraphs (c :: cs) = (paragraphs cs).modifyHead (c :: ·) := by
  rw [paragraphs]
  rintro rest rfl
  exact absurd rfl h

theorem paragraphs_lineEnd (h : c ≠ '\n') :
    paragraphs ('\n' :: c :: cs) = (paragraphs (c :: cs)).modifyHead ('\n' :: ·) := by
  rw [paragraphs]
  rintro rest - hrest
  exact h (List.cons.inj hrest).1

/-- A text without a blank line is in one piece. -/
theorem paragraphs_eq_singleton (h : atLineEnd false cs = some after) : paragraphs cs = [cs] := by
  induction cs with
  | nil => rfl
  | cons c cs ih =>
    by_cases hc : c = '\n'
    · subst hc
      rw [atLineEnd_lineEnd] at h
      cases cs with
      | nil => rfl
      | cons d ds =>
        obtain ⟨d', ds', hcons, hd, hds⟩ := exists_cons_of_atLineEnd h (by simp)
        obtain ⟨rfl, rfl⟩ := List.cons.inj hcons
        rw [paragraphs_lineEnd hd, ih hds]
        rfl
    · rw [atLineEnd_of_ne hc] at h
      rw [paragraphs_of_ne hc, ih h]
      rfl

/-- The first piece ends at the first blank line. -/
theorem paragraphs_append (h : atLineEnd false cs = some false) :
    paragraphs (cs ++ '\n' :: '\n' :: ds) = cs :: paragraphs ds := by
  induction cs with
  | nil => rfl
  | cons c cs ih =>
    by_cases hc : c = '\n'
    · subst hc
      rw [atLineEnd_lineEnd] at h
      cases cs with
      | nil => cases h
      | cons d ds =>
        obtain ⟨d', ds', hcons, hd, hds⟩ := exists_cons_of_atLineEnd h (by simp)
        obtain ⟨rfl, rfl⟩ := List.cons.inj hcons
        rw [List.cons_append, List.cons_append, paragraphs_lineEnd hd, ← List.cons_append, ih hds]
        rfl
    · rw [atLineEnd_of_ne hc] at h
      rw [List.cons_append, paragraphs_of_ne hc, ih h]
      rfl

theorem paragraphs_intercalate {pieces : List (List Char)} (hne : pieces ≠ [])
    (h : ∀ p ∈ pieces, atLineEnd false p = some false) :
    paragraphs (['\n', '\n'].intercalate pieces) = pieces := by
  induction pieces with
  | nil => exact absurd rfl hne
  | cons p ps ih =>
    obtain ⟨hp, hps⟩ := List.forall_mem_cons.1 h
    cases ps with
    | nil => rw [List.intercalate_singleton, paragraphs_eq_singleton hp]
    | cons q qs =>
      have hjoined : ['\n', '\n'].intercalate (p :: q :: qs) =
          p ++ '\n' :: '\n' :: ['\n', '\n'].intercalate (q :: qs) := by
        rw [List.intercalate_cons_cons, List.append_assoc]
        rfl
      rw [hjoined, paragraphs_append hp, ih (by simp) hps]

/-- Texts with a blank line between neighbours are found again at the blank lines. -/
theorem splitBlankLines_intercalate {texts : List String} (hne : texts ≠ [])
    (h : ∀ t ∈ texts, atLineEnd false t.toList = some false) :
    splitBlankLines ("\n\n".intercalate texts) = texts := by
  have hpieces : ∀ p ∈ texts.map String.toList, atLineEnd false p = some false := by
    simpa using h
  rw [splitBlankLines, String.toList_intercalate]
  change (paragraphs (['\n', '\n'].intercalate _)).map _ = _
  rw [paragraphs_intercalate (by simpa using hne) hpieces, List.map_map]
  simp [Function.comp_def]

/-- What is left of a text without a blank line when the line ends at its end are taken off. -/
theorem atLineEnd_trimRight (h : atLineEnd false cs = some after) :
    atLineEnd false (trimRight (· == '\n') cs) = some false := by
  obtain ⟨ends, hsplit, -⟩ := exists_append_trimRight (· == '\n') cs
  rw [hsplit, atLineEnd_append] at h
  obtain ⟨b, hb, -⟩ := Option.bind_eq_some_iff.1 h
  have hlast : ∀ c ∈ (trimRight (· == '\n') cs).getLast?, (c == '\n') = false :=
    fun c => eq_false_of_getLast?_trimRight
  generalize trimRight (· == '\n') cs = left at hb hlast
  cases left using List.reverseRecOn with
  | nil => rfl
  | append_singleton ds d _ =>
    rw [hb, atLineEnd_concat hb]
    exact congrArg some (hlast d List.getLast?_concat)

/-! ### Texts of one line -/

/-- The text has no line end. -/
def OneLine (s : String) : Prop :=
  '\n' ∉ s.toList

instance : DecidablePred OneLine := fun s => inferInstanceAs (Decidable ('\n' ∉ s.toList))

namespace OneLine

variable {s t sep : String} {texts : List String}

theorem append (hs : OneLine s) (ht : OneLine t) : OneLine (s ++ t) := by
  rw [OneLine, String.toList_append, List.mem_append]
  exact fun h => h.elim hs ht

theorem intercalate (hsep : OneLine sep) (h : ∀ t ∈ texts, OneLine t) :
    OneLine (sep.intercalate texts) := by
  induction texts with
  | nil => exact (by decide : OneLine "")
  | cons t ts ih =>
    obtain ⟨ht, hts⟩ := List.forall_mem_cons.1 h
    cases ts with
    | nil => simpa using ht
    | cons u us =>
      rw [String.intercalate_cons_cons]
      exact (ht.append hsep).append (ih hts)

theorem atLineEnd_eq (h : OneLine s) :
    atLineEnd before s.toList = some (before && s.toList.isEmpty) :=
  atLineEnd_of_notMem h

end OneLine

end SignalBinding.Text
