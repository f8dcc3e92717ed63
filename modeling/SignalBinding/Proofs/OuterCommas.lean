import SignalBinding.Proofs.Nesting

/-!
# Texts between commas

Items put together with commas between them are found again at the commas that stand outside of all
brackets, as long as each item closes the brackets that it opens and has no such comma itself. A
text is read with the number of brackets that are open.

## Main definitions

- `Text.splitOuterCommas`: the pieces of a text between its outer commas
- `Text.depth`: how many brackets a text leaves open, if it has no outer comma
- `Text.IsItem`: what is found again as one piece
- `Text.IsUnbroken`: texts without brackets and commas

## Main statement

- `Text.splitOuterCommas_intercalate`: the items that a text was put together from
-/

namespace SignalBinding.Text

open BracketKind

/-- How many brackets are open after a character if `n` are open before it. -/
def depthAfter (c : Char) (n : Nat) : Nat :=
  if (opens? c).isSome then n + 1 else if (closes? c).isSome then n - 1 else n

/-- The pieces between commas with a blank behind them, as far as no brackets are open; `n` are open
before. -/
def commaPieces (n : Nat) : List Char → List (List Char)
  | [] => [[]]
  | ',' :: ' ' :: rest =>
    if n = 0 then [] :: commaPieces 0 rest else (commaPieces n (' ' :: rest)).modifyHead (',' :: ·)
  | c :: rest => (commaPieces (depthAfter c n) rest).modifyHead (c :: ·)

/-- The pieces of a text between commas with a blank behind them that stand outside of all
brackets. -/
def splitOuterCommas (s : String) : List String :=
  (commaPieces 0 s.toList).map String.ofList

example : splitOuterCommas "a<b, c>, (d, [e, f]), ,g" = ["a<b, c>", "(d, [e, f])", ",g"] := by
  decide

/--
How many brackets are open after some characters if `n` are open before them; nothing if a comma
stands outside of all brackets, or a bracket closes none.
-/
def depth (n : Nat) : List Char → Option Nat
  | [] => some n
  | c :: cs => if n = 0 ∧ (c = ',' ∨ (closes? c).isSome) then none else depth (depthAfter c n) cs

variable {n m k : Nat} {c : Char} {cs ds : List Char}

theorem depth_append : depth n (cs ++ ds) = (depth n cs).bind fun m => depth m ds := by
  induction cs generalizing n with
  | nil => rfl
  | cons c cs ih =>
    rw [List.cons_append, depth, depth]
    split
    · rfl
    · exact ih

theorem depthAfter_add (h : n ≠ 0 ∨ closes? c = none) :
    depthAfter c (n + k) = depthAfter c n + k := by
  unfold depthAfter
  split
  · omega
  · split
    next hcloses =>
      have hn : n ≠ 0 := h.resolve_right (Option.isSome_iff_ne_none.1 hcloses)
      omega
    · rfl

/-- Brackets that are open around a text stay open. -/
theorem depth_add (h : depth n cs = some m) : depth (n + k) cs = some (m + k) := by
  induction cs generalizing n with
  | nil =>
    obtain rfl := Option.some.inj h
    rfl
  | cons c cs ih =>
    unfold depth at h
    split at h
    · cases h
    next hc =>
      have hcloses : n ≠ 0 ∨ closes? c = none := by
        rcases Nat.eq_zero_or_pos n with hn | hn
        · simp only [hn, true_and, not_or, Option.not_isSome_iff_eq_none] at hc
          exact .inr hc.2
        · exact .inl (Nat.ne_of_gt hn)
      have hadd : ¬ (n + k = 0 ∧ (c = ',' ∨ (closes? c).isSome)) :=
        fun hnk => hc ⟨by omega, hnk.2⟩
      rw [depth, if_neg hadd, depthAfter_add hcloses, ih h]

theorem commaPieces_cons (h : ¬ (n = 0 ∧ c = ',')) :
    commaPieces n (c :: cs) = (commaPieces (depthAfter c n) cs).modifyHead (c :: ·) := by
  rw [commaPieces.eq_def n (c :: cs)]
  split
  · contradiction
  next rest heq =>
    cases heq
    have hn : n ≠ 0 := fun hn => h ⟨hn, rfl⟩
    rw [if_neg hn]
    rfl
  next heq =>
    cases heq
    rfl

theorem depth_cons (h : depth n (c :: cs) = some m) :
    ¬ (n = 0 ∧ c = ',') ∧ depth (depthAfter c n) cs = some m := by
  unfold depth at h
  split at h
  · cases h
  next hc => exact ⟨fun hcomma => hc ⟨hcomma.1, .inl hcomma.2⟩, h⟩

/-- Characters without an outer comma are in one piece. -/
theorem commaPieces_eq_singleton (h : depth n cs = some m) : commaPieces n cs = [cs] := by
  induction cs generalizing n with
  | nil => rfl
  | cons c cs ih =>
    obtain ⟨hc, hcs⟩ := depth_cons h
    rw [commaPieces_cons hc, ih hcs]
    rfl

/-- The first piece ends at the first outer comma. -/
theorem commaPieces_append (h : depth n cs = some 0) :
    commaPieces n (cs ++ ',' :: ' ' :: ds) = cs :: commaPieces 0 ds := by
  induction cs generalizing n with
  | nil =>
    obtain rfl := Option.some.inj h
    rfl
  | cons c cs ih =>
    obtain ⟨hc, hcs⟩ := depth_cons h
    rw [List.cons_append, commaPieces_cons hc, ih hcs]
    rfl

/-! ### Items -/

/-- The text closes the brackets that it opens, and has commas only inside of them. -/
def IsItem (s : String) : Prop :=
  depth 0 s.toList = some 0

instance : DecidablePred IsItem := fun s =>
  inferInstanceAs (Decidable (depth 0 s.toList = some 0))

/-- Items with commas between them are found again. -/
theorem splitOuterCommas_intercalate {items : List String} (hne : items ≠ [])
    (h : ∀ s ∈ items, IsItem s) : splitOuterCommas (", ".intercalate items) = items := by
  unfold splitOuterCommas
  induction items with
  | nil => exact absurd rfl hne
  | cons s items ih =>
    obtain ⟨hs, hitems⟩ := List.forall_mem_cons.1 h
    cases items with
    | nil => simp [commaPieces_eq_singleton hs]
    | cons t ts =>
      have hcomma (u : String) : (s ++ ", " ++ u).toList = s.toList ++ ',' :: ' ' :: u.toList := by
        simp
      rw [String.intercalate_cons_cons, hcomma, commaPieces_append hs, List.map_cons,
        ih (by simp) hitems, String.ofList_toList]

namespace IsItem

variable {s t : String}

theorem depth_eq (h : IsItem s) (n : Nat) : depth n s.toList = some n := by
  simpa using depth_add (k := n) h

theorem append (hs : IsItem s) (ht : IsItem t) : IsItem (s ++ t) := by
  rw [IsItem, String.toList_append, depth_append, hs.depth_eq]
  exact ht

/-- An item between two texts of which the second closes what the first opens. -/
theorem between {l r : String} (hl : depth 0 l.toList = some n) (hr : depth n r.toList = some 0)
    (h : IsItem s) : IsItem (l ++ s ++ r) := by
  rw [IsItem, String.toList_append, String.toList_append, depth_append, depth_append, hl]
  change ((depth n s.toList).bind _) = _
  rw [h.depth_eq]
  exact hr

end IsItem

/-! ### Unbroken texts -/

/-- The character is neither a bracket nor a comma. -/
structure IsUnbrokenChar (c : Char) : Prop where
  plain : IsPlain c
  comma : c ≠ ','

instance : DecidablePred IsUnbrokenChar := fun c =>
  decidable_of_iff (IsPlain c ∧ c ≠ ',') ⟨fun h => ⟨h.1, h.2⟩, fun h => ⟨h.1, h.2⟩⟩

/-- The text has neither brackets nor commas. -/
def IsUnbroken (s : String) : Prop :=
  ∀ c ∈ s.toList, IsUnbrokenChar c

instance : DecidablePred IsUnbroken := fun s =>
  List.decidableBAll IsUnbrokenChar s.toList

theorem depth_of_unbroken (h : ∀ c ∈ cs, IsUnbrokenChar c) : depth n cs = some n := by
  induction cs with
  | nil => rfl
  | cons c cs ih =>
    obtain ⟨⟨⟨hopens, hcloses⟩, hcomma⟩, hcs⟩ := List.forall_mem_cons.1 h
    simpa [depth, depthAfter, hopens, hcloses, hcomma] using ih hcs

theorem IsUnbroken.isItem {s : String} (h : IsUnbroken s) : IsItem s :=
  depth_of_unbroken h

end SignalBinding.Text
