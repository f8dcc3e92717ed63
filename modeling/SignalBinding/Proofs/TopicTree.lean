import SignalBinding.Log.Record

/-!
# Which topics are the library's

A topic is below the library's, whatever topics are in use, if its part behind the first point does
not begin with a point. All topics that such a topic is below are of this kind, too.

## Main definitions

- `Topic.IsNested`: names that have the root's in front, and no second point next to its point

## Main statement

- `Topic.isFiled_topic`: the reporters whose records go where the library's go
-/

namespace SignalBinding

namespace Topic

variable {reversed part rest : List Char} {c : Char} {used : List String} {t : String}

theorem above_eq (reversed : List Char) :
    above reversed =
      match reversed.dropWhile (· != '.') with
      | [] | [_] => []
      | _ :: c :: rest => (c :: rest) :: above rest := by
  rw [above]
  split
  next h => simp only [h]
  next h => simp only [h]
  next h => simp only [h]

theorem head_dropWhile {cs : List Char} (h : reversed.dropWhile (· != '.') = c :: cs) :
    c = '.' := by
  have hhead := List.head?_dropWhile_not (· != '.') reversed
  simpa [h] using hhead

/-- A point is in front of each part. -/
theorem suffix_of_mem_above (h : part ∈ above reversed) : '.' :: part <:+ reversed := by
  induction hn : reversed.length using Nat.strongRecOn generalizing reversed with
  | _ n ih =>
    have hdrop : reversed.dropWhile (· != '.') <:+ reversed := List.dropWhile_suffix _
    rw [above_eq] at h
    split at h
    next => cases h
    next => cases h
    next p c rest heq =>
      rw [heq] at hdrop
      obtain rfl := head_dropWhile heq
      obtain rfl | hmem := List.mem_cons.1 h
      · exact hdrop
      · have hrest : rest <:+ reversed :=
          ((List.suffix_cons c rest).trans (List.suffix_cons '.' (c :: rest))).trans hdrop
        have hshort : rest.length < n := by
          have := hdrop.length_le
          simp only [List.length_cons] at this
          omega
        exact (ih _ hshort hmem rfl).trans hrest

/-- A name is cut at a point if the point behind it, if there is one, is not next to it. -/
theorem mem_above {before : List Char} (hlast : before.getLast? ≠ some '.') (c : Char)
    (rest : List Char) : c :: rest ∈ above (before ++ '.' :: c :: rest) := by
  induction hn : before.length using Nat.strongRecOn generalizing before with
  | _ n ih =>
    rw [above_eq, List.dropWhile_append]
    rcases hdrop : before.dropWhile (· != '.') with _ | ⟨p, _ | ⟨d, before'⟩⟩
    · simp
    · have hsuffix : [p] <:+ before := hdrop ▸ List.dropWhile_suffix _
      obtain ⟨front, rfl⟩ := hsuffix
      rw [head_dropWhile hdrop] at hlast
      simp at hlast
    · have hsuffix : p :: d :: before' <:+ before := hdrop ▸ List.dropWhile_suffix _
      obtain ⟨front, rfl⟩ := hsuffix
      have hlast' : before'.getLast? ≠ some '.' := fun h => hlast (by
        simp [List.getLast?_append, List.getLast?_cons, h])
      have hmem := ih before'.length (by simp at hn; omega) hlast' rfl
      simp [hmem]

/-- The root's name from right to left. -/
def reversedRoot : List Char := rootTopic.toList.reverse

/-- A topic, from right to left, that has the root's name in front, and something else than a point
behind the point next to that. -/
def IsNested (reversed : List Char) : Prop :=
  ∃ before c, c ≠ '.' ∧ reversed = before ++ c :: '.' :: reversedRoot

/-- A nested topic is below the root, and the topics in between are nested. -/
theorem IsNested.above (h : IsNested reversed) :
    reversedRoot ∈ above reversed ∧
      ∀ part ∈ Topic.above reversed, part = reversedRoot ∨ IsNested part := by
  obtain ⟨before, c, hc, rfl⟩ := h
  obtain ⟨d, rest, hroot, hpoint⟩ : ∃ d rest, reversedRoot = d :: rest ∧ '.' ∉ reversedRoot :=
    ⟨_, _, rfl, by decide⟩
  constructor
  · have hlast : (before ++ [c]).getLast? ≠ some '.' := by simpa using hc
    simpa [hroot] using mem_above hlast d rest
  · intro part hpart
    obtain ⟨front, hfront⟩ := suffix_of_mem_above hpart
    obtain ⟨more, -, hmore⟩ | ⟨more, -, hmore⟩ := List.append_eq_append_iff.1 hfront
    · rcases more with _ | ⟨x, more⟩
      · exact absurd (List.cons.inj hmore).1.symm hc
      · exact .inr ⟨more, c, hc, (List.cons.inj hmore).2⟩
    · rcases more with _ | ⟨x, _ | ⟨y, more⟩⟩
      · exact absurd (List.cons.inj hmore).1 hc
      · have hroot' : '.' :: reversedRoot = '.' :: part := (List.cons.inj hmore).2
        exact .inl (List.cons.inj hroot').2.symm
      · have hrest : '.' :: reversedRoot = y :: more ++ '.' :: part := (List.cons.inj hmore).2
        have hmem : '.' ∈ reversedRoot := by
          rw [(List.cons.inj hrest).2]
          exact List.mem_append_right more List.mem_cons_self
        exact absurd hmem hpoint

theorem IsNested.exists_parent (used : List String) (h : IsNested t.toList.reverse) :
    ∃ t', parent? (rootTopic :: used) t = some t' ∧ t'.length < t.length ∧
      (t' = rootTopic ∨ IsNested t'.toList.reverse) := by
  obtain ⟨hroot, hparts⟩ := h.above
  cases hparent : Topic.parent? (rootTopic :: used) t with
  | none =>
    have hnone := List.find?_eq_none.1 hparent rootTopic
      (List.mem_map.2 ⟨reversedRoot, hroot, by simp [reversedRoot]⟩)
    simp at hnone
  | some t' =>
    obtain ⟨part, hpart, rfl⟩ := List.mem_map.1 (List.mem_of_find?_eq_some hparent)
    refine ⟨_, rfl, ?_, ?_⟩
    · have hshort := (suffix_of_mem_above hpart).length_le
      simp only [List.length_cons, List.length_reverse, String.length_toList] at hshort
      simpa using Nat.lt_of_succ_le hshort
    · simpa [String.ext_iff, reversedRoot, List.reverse_eq_iff] using hparts part hpart

theorem isBelow_of_isNested {bound : Nat} (h : t = rootTopic ∨ IsNested t.toList.reverse)
    (hbound : t.length < bound) : isBelow (rootTopic :: used) bound t = true := by
  induction bound generalizing t with
  | zero => omega
  | succ bound ih =>
    rw [isBelow, Bool.or_eq_true]
    obtain rfl | h := h
    · exact .inl (beq_self_eq_true rootTopic)
    · obtain ⟨t', hparent, hlength, ht'⟩ := h.exists_parent used
      rw [hparent]
      exact .inr (ih ht' (by omega))

/-- What a reporter reports is the library's, unless its name begins with a point. -/
theorem isFiled_topic (used : List String) {name? : Option String}
    (h : ∀ name, name? = some name → name.toList.head? ≠ some '.') :
    isFiled used (topic name?) = true := by
  refine isBelow_of_isNested ?_ (Nat.lt_succ_self _)
  cases name? with
  | none => exact .inl rfl
  | some name =>
    rw [topic]
    split
    next => exact .inl rfl
    next hname =>
      obtain ⟨c, cs, hcs⟩ : ∃ c cs, name.toList = c :: cs :=
        List.exists_cons_of_ne_nil (by simpa using hname)
      refine .inr ⟨cs.reverse, c, fun hc => h name rfl (by rw [hcs, hc]; rfl), ?_⟩
      simp [hcs, reversedRoot]

end Topic

end SignalBinding
