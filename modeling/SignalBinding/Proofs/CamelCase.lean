import Mathlib
import SignalBinding.Naming
import SignalBinding.Proofs.TextEnds

/-!
# Camel case, word by word

The words of a name stand between its underscores. The lower camel case of a name is its words one
after the other, the first one with a small first letter and all others with a capital one. So it is
the name without its underscores, up to case, and it is its own lower camel case.

## Main definitions

- `Naming.IsNameChar`: letters, digits and underscores
- `Naming.words`: the words of a name
- `Naming.camelOfWords`: words put together

## Main statement

- `Naming.lowerCamel_of_words`: the lower camel case of a name comes from its words
-/

namespace SignalBinding.Naming

/-! ### Letters, digits and underscores -/

/-- An ASCII letter or digit, or an underscore. -/
def IsNameChar (c : Char) : Prop :=
  c.isAlphanum ∨ c = '_'

instance : DecidablePred IsNameChar :=
  fun c => inferInstanceAs (Decidable (c.isAlphanum ∨ c = '_'))

theorem IsNameChar.toNat_lt {c : Char} (h : IsNameChar c) : c.toNat < 128 := by
  obtain h | rfl := h
  · simp only [Char.isAlphanum, Char.isAlpha, Char.isUpper, Char.isLower, Char.isDigit,
      Bool.or_eq_true, Bool.and_eq_true, decide_eq_true_eq, UInt32.le_iff_toNat_le, ge_iff_le] at h
    change c.val.toNat < 128
    have hz : 'z'.val.toNat = 122 := rfl
    have hZ : 'Z'.val.toNat = 90 := rfl
    have h9 : '9'.val.toNat = 57 := rfl
    omega
  · decide

variable {c : Char} {cs p : List Char} {ps : List (List Char)}

theorem lower_eq_toLower (h : IsNameChar c) : Text.lower c = [c.toLower] := by
  rw [Text.lower]
  exact if_pos h.toNat_lt

/-- The lower case of a character is a letter or digit if and only if the character is. -/
theorem isAlphanum_toLower (c : Char) : c.toLower.isAlphanum = c.isAlphanum := by
  by_cases hupper : c.isUpper
  · have halpha : c.isAlpha = true := by rw [Char.isAlpha, hupper, Bool.true_or]
    rw [Char.isAlphanum, Char.isAlpha_toLower_eq_isAlpha, Char.isAlphanum, halpha]
    rfl
  · rw [Char.toLower_eq_of_not_isUpper hupper]

theorem ne_underscore_of_isAlphanum (h : c.isAlphanum) : c ≠ '_' := by
  rintro rfl
  exact absurd h (by decide)

/-! ### Words -/

/-- The pieces of some characters between underscores, but for empty ones. -/
def words (cs : List Char) : List (List Char) :=
  (cs.splitOn '_').filter (· ≠ [])

/-- The words one after the other, the first with a small first letter, all others with a capital
one. -/
def camelOfWords : List (List Char) → List Char
  | [] => []
  | w :: ws => w.modifyHead Char.toLower ++ ws.flatMap (List.modifyHead Char.toUpper)

example : words "__Data__2_set_".toList = ["Data".toList, "2".toList, "set".toList] := by decide

theorem splitOn_underscore_cons : ('_' :: cs).splitOn '_' = [] :: cs.splitOn '_' :=
  List.splitOn_append_cons_self [] cs

theorem splitOn_cons_of_ne (h : c ≠ '_') :
    (c :: cs).splitOn '_' = (cs.splitOn '_').modifyHead (c :: ·) := by
  rw [List.splitOn, List.splitOnP_cons_eq_if_modifyHead, if_neg (by simpa using h)]
  rfl

theorem exists_splitOn_eq_cons (cs : List Char) : ∃ p ps, cs.splitOn '_' = p :: ps :=
  List.exists_cons_of_ne_nil (List.splitOn_ne_nil '_' cs)

theorem words_underscores_append (n : Nat) (cs : List Char) :
    words (List.replicate n '_' ++ cs) = words cs := by
  induction n with
  | zero => rfl
  | succ n ih => grind [words, splitOn_underscore_cons]

theorem words_append_underscores (cs : List Char) (n : Nat) :
    words (cs ++ List.replicate n '_') = words cs := by
  induction n generalizing cs with
  | zero => rw [List.replicate_zero, List.append_nil]
  | succ n ih =>
    rw [List.replicate_succ, List.append_cons, ih, words, List.splitOn_append_cons_self,
      List.splitOn_nil, List.filter_append]
    exact List.append_nil _

/-- Underscores at the ends separate nothing. -/
theorem words_trim (cs : List Char) : words (Text.trim (· == '_') cs) = words cs := by
  obtain ⟨m, n, hcs⟩ := (Text.isTrimmed_trim (· == '_') cs).exists_replicate
  conv_rhs => rw [hcs, words_append_underscores, words_underscores_append]

/-- The words have all characters but the underscores, in order. -/
theorem flatten_words (cs : List Char) : (words cs).flatten = cs.filter (· ≠ '_') := by
  rw [words, List.flatten_filter_ne_nil]
  induction cs with
  | nil => rfl
  | cons c cs ih =>
    obtain ⟨p, ps, hsplit⟩ := exists_splitOn_eq_cons cs
    by_cases hc : c = '_'
    · grind [splitOn_underscore_cons]
    · rw [hsplit] at ih
      rw [splitOn_cons_of_ne hc, hsplit, List.modifyHead_cons, List.flatten_cons, List.cons_append,
        List.filter_cons_of_pos (by simpa using hc), ← ih, List.flatten_cons]

/-- A text without underscores is one word. -/
theorem words_of_notMem (h : '_' ∉ cs) (hne : cs ≠ []) : words cs = [cs] := by
  rw [words, List.splitOn_eq_singleton h]
  simp [hne]

/-! ### Putting words together -/

/-- Joining goes piece by piece; a piece behind an underscore starts with a capital. -/
theorem joinWords_of_splitOn {gap : Nat} (hcs : ∀ c ∈ cs, IsNameChar c)
    (hlast : ∀ c ∈ cs.getLast?, c ≠ '_') (hgap : cs = [] → gap = 0)
    (hsplit : cs.splitOn '_' = p :: ps) :
    joinWords gap cs =
      (if gap = 0 then p else p.modifyHead Char.toUpper) ++
        ps.flatMap (List.modifyHead Char.toUpper) := by
  fun_induction joinWords gap cs generalizing p ps with
  | case1 gap =>
    cases hsplit
    rw [hgap rfl]
    rfl
  | case2 gap cs ih =>
    -- The last character is no underscore, so something follows this one.
    have hne : cs ≠ [] := by
      rintro rfl
      exact hlast '_' rfl rfl
    have hlast' : ∀ d ∈ cs.getLast?, d ≠ '_' := by grind
    obtain ⟨q, qs, hq⟩ := exists_splitOn_eq_cons cs
    rw [splitOn_underscore_cons, hq] at hsplit
    cases hsplit
    rw [ih (by grind) hlast' (by grind) hq, if_neg (by omega)]
    split <;> rfl
  | case3 gap c cs hc hword ih =>
    have hlast' : ∀ d ∈ cs.getLast?, d ≠ '_' := by grind
    obtain ⟨q, qs, hq⟩ := exists_splitOn_eq_cons cs
    rw [splitOn_cons_of_ne hc, hq, List.modifyHead_cons] at hsplit
    cases hsplit
    rw [ih (by grind) hlast' (by grind) hq, if_neg hword.1]
    rfl
  | case4 gap c cs hc hword ih =>
    -- Of the characters of a name, only underscores start no word.
    have hstarts : startsWord c := (hcs c List.mem_cons_self).resolve_right hc
    obtain rfl : gap = 0 := by grind
    have hlast' : ∀ d ∈ cs.getLast?, d ≠ '_' := by grind
    obtain ⟨q, qs, hq⟩ := exists_splitOn_eq_cons cs
    rw [splitOn_cons_of_ne hc, hq, List.modifyHead_cons] at hsplit
    cases hsplit
    rw [ih (by grind) hlast' (by grind) hq]
    rfl

theorem exists_words_eq_cons (h : ∃ c ∈ cs, c ≠ '_') :
    ∃ c w ws, words cs = (c :: w) :: ws := by
  obtain ⟨c, hc, hne⟩ := h
  have hmem : c ∈ (words cs).flatten := by
    rw [flatten_words]
    exact List.mem_filter.2 ⟨hc, by simpa using hne⟩
  cases hws : words cs with
  | nil => simp [hws] at hmem
  | cons w ws =>
    have hw : w ∈ words cs := hws ▸ List.mem_cons_self
    obtain ⟨d, w', rfl⟩ := List.exists_cons_of_ne_nil (by simpa using (List.mem_filter.1 hw).2)
    exact ⟨d, w', ws, rfl⟩

theorem flatMap_filter_ne_nil (ps : List (List Char)) :
    (ps.filter (· ≠ [])).flatMap (List.modifyHead Char.toUpper) =
      ps.flatMap (List.modifyHead Char.toUpper) := by
  induction ps with
  | nil => rfl
  | cons p ps ih =>
    cases p with
    | nil => exact ih
    | cons c p => rw [List.filter_cons_of_pos rfl, List.flatMap_cons, List.flatMap_cons, ih]

theorem map_toLower_modifyHead {f : Char → Char} (hf : ∀ c, (f c).toLower = c.toLower)
    (p : List Char) : (p.modifyHead f).map Char.toLower = p.map Char.toLower := by
  cases p with
  | nil => rfl
  | cons c p => rw [List.modifyHead_cons, List.map_cons, List.map_cons, hf]

theorem map_toLower_flatMap (ws : List (List Char)) :
    (ws.flatMap (List.modifyHead Char.toUpper)).map Char.toLower =
      ws.flatten.map Char.toLower := by
  induction ws with
  | nil => rfl
  | cons w ws ih =>
    rw [List.flatMap_cons, List.map_append, ih,
      map_toLower_modifyHead Char.toLower_toUpper_eq_toLower, List.flatten_cons, List.map_append]

/-- Up to case, words put together are the words one after the other. -/
theorem map_toLower_camelOfWords (ws : List (List Char)) :
    (camelOfWords ws).map Char.toLower = ws.flatten.map Char.toLower := by
  cases ws with
  | nil => rfl
  | cons w ws =>
    rw [camelOfWords, List.map_append, map_toLower_modifyHead Char.toLower_toLower_eq_toLower,
      map_toLower_flatMap, List.flatten_cons, List.map_append]

/-! ### The lower camel case of a name -/

variable {s : String}

theorem toList_lowerCamel_of_trim (h : Text.trim (· == '_') s.toList ≠ []) :
    (lowerCamel s).toList = lowerFirst (joinWords 0 (Text.trim (· == '_') s.toList)) := by
  rw [lowerCamel]
  split
  next hnil => exact absurd hnil h
  next => rw [String.toList_ofList]

theorem lowerCamel_of_underscores (h : ∀ c ∈ s.toList, c = '_') : lowerCamel s = s := by
  rw [lowerCamel, Text.trim_eq_nil_iff.2 (by simpa using h)]

section Names

variable (hs : ∀ c ∈ s.toList, IsNameChar c) (hword : ∃ c ∈ s.toList, c ≠ '_')

include hs hword

/-- The lower camel case of a name is its words put together. -/
theorem toList_lowerCamel : (lowerCamel s).toList = camelOfWords (words s.toList) := by
  have htrimmed := Text.isTrimmed_trim (· == '_') s.toList
  have hwords := words_trim s.toList
  have hne : Text.trim (· == '_') s.toList ≠ [] := by
    obtain ⟨c, hc, hne⟩ := hword
    exact fun hnil => hne (by simpa using Text.trim_eq_nil_iff.1 hnil c hc)
  have htrim : ∀ c ∈ Text.trim (· == '_') s.toList, IsNameChar c :=
    fun c hc => hs c (htrimmed.mem hc)
  rw [toList_lowerCamel_of_trim hne, ← hwords]
  generalize Text.trim (· == '_') s.toList = cs at htrimmed hne htrim ⊢
  cases cs with
  | nil => exact absurd rfl hne
  | cons c cs =>
    have hc : c ≠ '_' := by simpa using htrimmed.first c rfl
    have hlast : ∀ d ∈ (c :: cs).getLast?, d ≠ '_' := by simpa using htrimmed.last
    obtain ⟨p, ps, hp⟩ := exists_splitOn_eq_cons cs
    have hpieces : (c :: cs).splitOn '_' = (c :: p) :: ps := by
      rw [splitOn_cons_of_ne hc, hp, List.modifyHead_cons]
    have hwords' : words (c :: cs) = (c :: p) :: ps.filter (· ≠ []) := by
      rw [words, hpieces]
      rfl
    rw [joinWords_of_splitOn htrim hlast (fun _ => rfl) hpieces, if_pos rfl, hwords', camelOfWords,
      flatMap_filter_ne_nil, List.cons_append, lowerFirst,
      lower_eq_toLower (htrim c List.mem_cons_self)]
    rfl

/-- Up to case, it is the name without its underscores. -/
theorem map_toLower_lowerCamel :
    (lowerCamel s).toList.map Char.toLower =
      (s.toList.filter (· ≠ '_')).map Char.toLower := by
  rw [toList_lowerCamel hs hword, map_toLower_camelOfWords, flatten_words]

theorem isAlphanum_of_mem_lowerCamel (hc : c ∈ (lowerCamel s).toList) : c.isAlphanum := by
  have hlower := List.mem_map_of_mem (f := Char.toLower) hc
  rw [map_toLower_lowerCamel hs hword] at hlower
  obtain ⟨d, hd, hdc⟩ := List.mem_map.1 hlower
  obtain ⟨hmem, hne⟩ := List.mem_filter.1 hd
  have halnum : d.isAlphanum := (hs d hmem).resolve_right (by simpa using hne)
  rw [← isAlphanum_toLower, ← hdc, isAlphanum_toLower]
  exact halnum

theorem underscore_notMem_lowerCamel : '_' ∉ (lowerCamel s).toList :=
  fun h => ne_underscore_of_isAlphanum (isAlphanum_of_mem_lowerCamel hs hword h) rfl

/-- It starts with a character in lower case. -/
theorem exists_toList_lowerCamel :
    ∃ (c : Char) (cs : List Char), (lowerCamel s).toList = c.toLower :: cs := by
  obtain ⟨c, w, ws, hws⟩ := exists_words_eq_cons hword
  refine ⟨c, w ++ ws.flatMap (List.modifyHead Char.toUpper), ?_⟩
  rw [toList_lowerCamel hs hword, hws]
  rfl

theorem lowerCamel_lowerCamel : lowerCamel (lowerCamel s) = lowerCamel s := by
  obtain ⟨c, cs, hfirst⟩ := exists_toList_lowerCamel hs hword
  have halnum : ∀ d ∈ (lowerCamel s).toList, d.isAlphanum :=
    fun d => isAlphanum_of_mem_lowerCamel hs hword
  have hmem : c.toLower ∈ (lowerCamel s).toList := by
    rw [hfirst]
    exact List.mem_cons_self
  have hword' : ∃ d ∈ (lowerCamel s).toList, d ≠ '_' :=
    ⟨_, hmem, ne_underscore_of_isAlphanum (halnum _ hmem)⟩
  -- Its only word is the name itself, which starts with a small letter already.
  rw [← String.toList_inj, toList_lowerCamel (fun d hd => .inl (halnum d hd)) hword',
    words_of_notMem (underscore_notMem_lowerCamel hs hword) (List.ne_nil_of_mem hmem), hfirst,
    camelOfWords, List.modifyHead_cons, Char.toLower_toLower_eq_toLower]
  exact List.append_nil _

end Names

/--
The lower camel case of a name comes from its words. It has no underscore and no capital first
letter, is the name without its underscores up to case, and is its own lower camel case. A name
without words stays as it is.
-/
theorem lowerCamel_of_words (s : String) :
    ((∀ c ∈ s.toList, IsNameChar c) → (∃ c ∈ s.toList, c ≠ '_') →
      (lowerCamel s).toList = camelOfWords (words s.toList) ∧
      '_' ∉ (lowerCamel s).toList ∧
      (∀ c ∈ (lowerCamel s).toList.head?, c.isUpper = false) ∧
      (lowerCamel s).toList.map Char.toLower =
        (s.toList.filter (· ≠ '_')).map Char.toLower ∧
      lowerCamel (lowerCamel s) = lowerCamel s) ∧
    ((∀ c ∈ s.toList, c = '_') → lowerCamel s = s) := by
  refine ⟨?_, lowerCamel_of_underscores⟩
  intro hs hword
  have hfirst : ∀ c ∈ (lowerCamel s).toList.head?, c.isUpper = false := by
    intro c hc
    obtain ⟨d, cs, htoList⟩ := exists_toList_lowerCamel hs hword
    rw [htoList] at hc
    cases hc
    exact Char.isUpper_toLower_eq_false d
  exact ⟨toList_lowerCamel hs hword, underscore_notMem_lowerCamel hs hword, hfirst,
    map_toLower_lowerCamel hs hword, lowerCamel_lowerCamel hs hword⟩

/-- Underscores at the ends, in a row, and around a digit. -/
theorem lowerCamel_of_words_data2Set : lowerCamel "__Data__2_set_" = "data2Set" := by
  have hs : ∀ c ∈ "__Data__2_set_".toList, IsNameChar c :=
    List.all_iff_forall_prop.1 (by decide)
  have hword : ∃ c ∈ "__Data__2_set_".toList, c ≠ '_' := ⟨'D', by decide, by decide⟩
  obtain ⟨hwords, -⟩ := (lowerCamel_of_words "__Data__2_set_").1 hs hword
  have hcamel : camelOfWords (words "__Data__2_set_".toList) = "data2Set".toList := by decide
  exact String.toList_inj.1 (hwords.trans hcamel)

end SignalBinding.Naming
