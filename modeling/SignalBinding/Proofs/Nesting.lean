import SignalBinding.Proofs.TextEnds

/-!
# Nested brackets

Texts in which every bracket is closed by one of its own kind, and only after all brackets between
the two. A text is read with a stack of the brackets that are still open, which decides whether it
is nested and says how far a piece of a text is.

## Main definitions

- `Nested`: the grammar of nested brackets
- `unclosed`: the brackets that are open after a text, if all fit so far
- `nested_iff`: a text is nested if it leaves nothing open
- `NestedText`, `PlainText`: nested texts, and texts without brackets
-/

namespace SignalBinding

/-- The kinds of brackets. -/
inductive BracketKind
  | round
  | square
  | curly
  | angle
  deriving DecidableEq, Repr

namespace BracketKind

def opens? : Char → Option BracketKind
  | '(' => some round
  | '[' => some square
  | '\x7b' => some curly
  | '<' => some angle
  | _ => none

def closes? : Char → Option BracketKind
  | ')' => some round
  | ']' => some square
  | '\x7d' => some curly
  | '>' => some angle
  | _ => none

end BracketKind

open BracketKind

/-- The character is no bracket. -/
structure IsPlain (c : Char) : Prop where
  opens : opens? c = none
  closes : closes? c = none

instance : DecidablePred IsPlain := fun c =>
  decidable_of_iff (opens? c = none ∧ closes? c = none) ⟨fun h => ⟨h.1, h.2⟩, fun h => ⟨h.1, h.2⟩⟩

/-- Characters of which the brackets are properly nested. -/
inductive Nested : List Char → Prop
  | nil : Nested []
  | plain {c : Char} {cs : List Char} (h : IsPlain c) (rest : Nested cs) : Nested (c :: cs)
  | pair {l r : Char} {b : BracketKind} {inner rest : List Char} (hl : opens? l = some b)
      (hr : closes? r = some b) (hinner : Nested inner) (hrest : Nested rest) :
      Nested (l :: (inner ++ r :: rest))

/--
The brackets that are open after some characters, the innermost first, if those of `before` are open
before them; nothing if a bracket closes one of another kind, or none at all.
-/
def unclosed (before : List BracketKind) : List Char → Option (List BracketKind)
  | [] => some before
  | c :: cs =>
    match opens? c with
    | some b => unclosed (b :: before) cs
    | none =>
      match closes? c with
      | none => unclosed before cs
      | some b =>
        match before with
        | [] => none
        | b' :: outer => if b = b' then unclosed outer cs else none

variable {c : Char} {cs ds : List Char} {b : BracketKind} {bs : List BracketKind}

/-- No character both opens and closes. -/
theorem opens?_eq_none_of_closes? (h : closes? c = some b) : opens? c = none := by
  unfold closes? at h
  split at h
  all_goals first
    | rfl
    | cases h

theorem unclosed_plain (h : IsPlain c) : unclosed bs (c :: cs) = unclosed bs cs := by
  rw [unclosed, h.opens, h.closes]

theorem unclosed_open (h : opens? c = some b) : unclosed bs (c :: cs) = unclosed (b :: bs) cs := by
  rw [unclosed, h]

theorem unclosed_close (h : closes? c = some b) :
    unclosed (b :: bs) (c :: cs) = unclosed bs cs := by
  rw [unclosed, opens?_eq_none_of_closes? h, h]
  simp

theorem unclosed_append :
    unclosed bs (cs ++ ds) = (unclosed bs cs).bind fun bs' => unclosed bs' ds := by
  induction cs generalizing bs with
  | nil => rfl
  | cons c cs ih =>
    rw [List.cons_append, unclosed, unclosed]
    split
    · exact ih
    · split
      · exact ih
      · split
        · rfl
        · split
          · exact ih
          · rfl

/-! ### The stack finds what is nested -/

/-- What is nested leaves as much open as was open before. -/
theorem Nested.unclosed_eq (h : Nested cs) : unclosed bs cs = some bs := by
  induction h generalizing bs with
  | nil => rfl
  | plain h _ ih => rw [unclosed_plain h, ih]
  | pair hl hr _ _ hinner hrest =>
    rw [unclosed_open hl, unclosed_append, hinner]
    change unclosed (_ :: bs) (_ :: _) = _
    rw [unclosed_close hr, hrest]

/-- The characters close all of `bs`, the first of them first, and are nested between that. -/
def Closes : List BracketKind → List Char → Prop
  | [], cs => Nested cs
  | b :: bs, cs =>
    ∃ inner r rest, cs = inner ++ r :: rest ∧ Nested inner ∧ closes? r = some b ∧ Closes bs rest

theorem Closes.plain (hc : IsPlain c) (h : Closes bs cs) : Closes bs (c :: cs) := by
  cases bs with
  | nil => exact .plain hc h
  | cons b bs =>
    obtain ⟨inner, r, rest, rfl, hinner, hr, hrest⟩ := h
    exact ⟨c :: inner, r, rest, rfl, .plain hc hinner, hr, hrest⟩

theorem Closes.opened (hc : opens? c = some b) (h : Closes (b :: bs) cs) : Closes bs (c :: cs) := by
  obtain ⟨inner, r, rest, rfl, hinner, hr, hrest⟩ := h
  cases bs with
  | nil => exact .pair hc hr hinner hrest
  | cons b' bs =>
    obtain ⟨inner', r', rest', rfl, hinner', hr', hrest'⟩ := hrest
    exact ⟨c :: (inner ++ r :: inner'), r', rest', by simp, .pair hc hr hinner hinner', hr', hrest'⟩

/-- The stack is emptied only by characters that close all of it. -/
theorem closes_of_unclosed (h : unclosed bs cs = some []) : Closes bs cs := by
  -- The induction is on the characters; what they have to close changes from one to the next.
  induction cs generalizing bs with
  | nil =>
    obtain rfl := Option.some.inj h
    exact .nil
  | cons c cs ih =>
    cases ho : opens? c with
    | some b =>
      rw [unclosed_open ho] at h
      exact (ih h).opened ho
    | none =>
      cases hc : closes? c with
      | none =>
        rw [unclosed_plain ⟨ho, hc⟩] at h
        exact (ih h).plain ⟨ho, hc⟩
      | some b =>
        rw [unclosed, ho, hc] at h
        dsimp only at h
        split at h
        · cases h
        · split at h
          next hb =>
            subst hb
            exact ⟨[], c, cs, rfl, .nil, hc, ih h⟩
          · cases h

/-- Characters are nested if and only if they leave nothing open. -/
theorem nested_iff : Nested cs ↔ unclosed [] cs = some [] :=
  ⟨Nested.unclosed_eq, closes_of_unclosed⟩

instance (cs : List Char) : Decidable (Nested cs) :=
  decidable_of_iff _ nested_iff.symm

example : Nested "f(a[0], \x7bg<h>()\x7d)".toList ∧ ¬ Nested "f(a[0)]".toList := by decide

theorem nested_of_plain (h : ∀ c ∈ cs, IsPlain c) : Nested cs := by
  induction cs with
  | nil => exact .nil
  | cons c cs ih => exact .plain (h c (by simp)) (ih fun d hd => h d (by simp [hd]))

/-- Characters at the end that are no brackets may be taken off. -/
theorem nested_trimRight {p : Char → Bool} (hp : ∀ c, p c → IsPlain c) (h : Nested cs) :
    Nested (Text.trimRight p cs) := by
  obtain ⟨ends, hsplit, hends⟩ := Text.exists_append_trimRight p cs
  have hend : Nested ends := nested_of_plain fun c hc => hp c (hends c hc)
  have hall : unclosed [] cs = some [] := h.unclosed_eq
  rw [hsplit, unclosed_append] at hall
  obtain ⟨bs, hbs, hrest⟩ := Option.bind_eq_some_iff.1 hall
  rw [hend.unclosed_eq] at hrest
  rw [nested_iff, hbs, hrest]

/-! ### Texts -/

/-- The brackets of the text are properly nested. -/
def NestedText (s : String) : Prop :=
  Nested s.toList

/-- The text has no brackets. -/
def PlainText (s : String) : Prop :=
  ∀ c ∈ s.toList, IsPlain c

instance : DecidablePred NestedText := fun s =>
  inferInstanceAs (Decidable (Nested s.toList))

instance : DecidablePred PlainText := fun s =>
  List.decidableBAll IsPlain s.toList

variable {s t : String}

theorem NestedText.unclosed_eq (h : NestedText s) : unclosed bs s.toList = some bs :=
  Nested.unclosed_eq h

theorem PlainText.nested (h : PlainText s) : NestedText s :=
  nested_of_plain h

theorem NestedText.append (hs : NestedText s) (ht : NestedText t) : NestedText (s ++ t) := by
  rw [NestedText, nested_iff, String.toList_append, unclosed_append, hs.unclosed_eq]
  exact ht.unclosed_eq

/-- A nested text between two texts of which the second closes what the first opens. -/
theorem NestedText.between {l r : String} (hl : unclosed [] l.toList = some bs)
    (hr : unclosed bs r.toList = some []) (h : NestedText s) : NestedText (l ++ s ++ r) := by
  rw [NestedText, nested_iff, String.toList_append, String.toList_append, unclosed_append,
    unclosed_append, hl]
  change (unclosed bs s.toList).bind _ = _
  rw [h.unclosed_eq]
  exact hr

theorem NestedText.intercalate (hs : NestedText s) {ts : List String}
    (hts : ∀ t ∈ ts, NestedText t) : NestedText (s.intercalate ts) := by
  induction ts with
  | nil => exact .nil
  | cons t ts ih =>
    obtain ⟨ht, hrest⟩ := List.forall_mem_cons.1 hts
    cases ts with
    | nil => simpa using ht
    | cons u us =>
      rw [String.intercalate_cons_cons]
      exact (ht.append hs).append (ih hrest)

end SignalBinding
