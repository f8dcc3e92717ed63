import SignalBinding.Proofs.Lexemes
import SignalBinding.TypeExpr.Reading

/-!
# Texts with other blanks

Blanks are all that is lost when the tokens of a text are read, and they decide nothing: the texts
of the tokens can be put together again with other blanks between them, and give the same tokens and
so the same type or the same fault.

## Main definitions

- `Spaced`: the texts of tokens with blanks between them

## Main statement

- `tokens_lose_blanks`: what the tokens of a text say about it, and what is told if it has none
-/

namespace SignalBinding.TypeExpr

variable {cs ys gap : List Char} {ts : List Token}

/-- The texts of the tokens, with blanks between any two of them and maybe at the ends. -/
inductive Spaced : List Token → List Char → Prop
  | nil {cs : List Char} (h : Blank cs) : Spaced [] cs
  | last {t : Token} {before after : List Char} (hbefore : Blank before) (hafter : Blank after) :
      Spaced [t] (before ++ t.text.toList ++ after)
  | cons {t u : Token} {ts : List Token} {before gap rest : List Char} (hbefore : Blank before)
      (hgap : Blank gap) (hne : gap ≠ []) (hrest : Spaced (u :: ts) rest) :
      Spaced (t :: u :: ts) (before ++ t.text.toList ++ (gap ++ rest))

/-! ### What the tokens say -/

theorem Layout.lexeme (h : Layout ts cs) : ∀ t ∈ ts, Lexeme t t.text.toList := by
  induction h with
  | blank _ => simp
  | token _ hw _ ih =>
    refine List.forall_mem_cons.2 ⟨?_, ih⟩
    rw [hw.lexeme.text_eq]
    exact hw.lexeme

theorem Blank.filter_eq_nil (h : Blank cs) : cs.filter (fun x => !Text.isBlank x) = [] := by
  refine List.filter_eq_nil_iff.2 fun x hx => ?_
  simp [h x hx]

/-- All but the blanks is in the tokens, in the order of the text. -/
theorem Layout.flatMap_text (h : Layout ts cs) :
    ts.flatMap (fun t => t.text.toList) = cs.filter (fun x => !Text.isBlank x) := by
  induction h with
  | blank h => exact h.filter_eq_nil.symm
  | @token t ts before w rest hbefore hw _ ih =>
    have hword : w.filter (fun x => !Text.isBlank x) = w :=
      List.filter_eq_self.2 fun x hx => by simp [hw.lexeme.isBlank x hx]
    rw [List.flatMap_cons, hw.lexeme.text_eq, ih, List.filter_append, List.filter_append,
      hbefore.filter_eq_nil, hword, List.nil_append]

/-! ### Other blanks -/

theorem Blank.tokens_append (h : Blank gap) : tokens (gap ++ cs) = tokens cs :=
  tokens_congr (List.dropWhile_append_of_pos h)

/-- No token goes on with a blank. -/
theorem breaks_of_blank (h : ∀ x ∈ ys.head?, Text.isBlank x = true) : Breaks ys := by
  intro x hx
  by_contra hrest
  have hblank := isBlank_of_isIdentRest (by simpa using hrest)
  simp [h x hx] at hblank

theorem Blank.breaks (h : Blank gap) : Breaks gap :=
  breaks_of_blank fun x hx => h x (List.mem_of_mem_head? hx)

theorem Blank.breaks_append (h : Blank gap) (hne : gap ≠ []) : Breaks (gap ++ cs) := by
  obtain ⟨x, xs, rfl⟩ := List.exists_cons_of_ne_nil hne
  refine breaks_of_blank fun y hy => ?_
  obtain rfl : x = y := by simpa using hy
  exact h x List.mem_cons_self

theorem Spaced.tokens_eq (h : Spaced ts cs) (hts : ∀ t ∈ ts, Lexeme t t.text.toList) :
    tokens cs = .ok ts := by
  induction h with
  | nil h => exact tokens_of_blank (List.dropWhile_eq_nil_iff.2 h)
  | @last t before after hbefore hafter =>
    have htoken := (hts t List.mem_cons_self).tokens_eq
    have hnone : tokens after = .ok [] := tokens_of_blank (List.dropWhile_eq_nil_iff.2 hafter)
    rw [List.append_assoc, hbefore.tokens_append]
    exact tokens_append htoken hafter.breaks hnone
  | @cons t u ts before gap rest hbefore hgap hne _ ih =>
    obtain ⟨ht, hrest⟩ := List.forall_mem_cons.1 hts
    have hmore : tokens (gap ++ rest) = .ok (u :: ts) := hgap.tokens_append.trans (ih hrest)
    rw [List.append_assoc, hbefore.tokens_append]
    exact tokens_append ht.tokens_eq (hgap.breaks_append hne) hmore

/-- Nothing but its tokens decides what a text denotes, or why it denotes nothing. -/
theorem spell_congr (table : NameTable) {s s' : String} (h : tokens s'.toList = tokens s.toList) :
    (spell table s').mapError Unresolved.fault = (spell table s).mapError Unresolved.fault := by
  have htext : ofText s' = ofText s := by rw [ofText, h, ofText]
  rw [spell, htext, spell]
  cases ofText s <;> rfl

theorem spell_of_stray (table : NameTable) {s : String} {c : Char}
    (h : tokens s.toList = .error c) :
    spell table s = .error { source := s, fault := .strayCharacter c } := by
  have htext : ofText s = .error (.strayCharacter c) := by rw [ofText, h]
  rw [spell, htext]

/--
The tokens of a text are what it is cut into, with the longest token at each place and nothing but
blanks left out. No token is empty or has a blank in it, and its text tells which token it is. Texts
that have the same tokens with other blanks between them denote the same, or nothing for the same
reason. A text that can not be cut is refused for the first of its characters that is not blank and
at which no token starts.
-/
theorem tokens_lose_blanks (table : NameTable) (s : String) :
    (∀ ts, tokens s.toList = .ok ts ↔ Layout ts s.toList) ∧
    (∀ ts, tokens s.toList = .ok ts →
      ts.flatMap (fun t => t.text.toList) = s.toList.filter (fun x => !Text.isBlank x) ∧
      (∀ t ∈ ts, t.text ≠ "" ∧ (∀ x ∈ t.text.toList, Text.isBlank x = false) ∧
        ∀ cs us, tokens cs = .ok us → ∀ u ∈ us, u.text = t.text → u = t) ∧
      ∀ s' : String, Spaced ts s'.toList → tokens s'.toList = .ok ts ∧
        (spell table s').mapError Unresolved.fault = (spell table s).mapError Unresolved.fault) ∧
    ∀ c, (tokens s.toList = .error c ↔ Strays c s.toList) ∧
      (tokens s.toList = .error c →
        spell table s = .error { source := s, fault := .strayCharacter c }) := by
  refine ⟨fun ts => tokens_eq_ok_iff, fun ts hts => ⟨?_, ?_, ?_⟩, fun c => ⟨?_, ?_⟩⟩
  · exact (tokens_eq_ok_iff.1 hts).flatMap_text
  · intro t ht
    have hlexeme := (tokens_eq_ok_iff.1 hts).lexeme t ht
    refine ⟨?_, hlexeme.isBlank, fun cs us hus u hu htext => ?_⟩
    · rintro hempty
      obtain ⟨c, cs, hcs⟩ := hlexeme.exists_cons
      simp [hempty] at hcs
    · have hother := (tokens_eq_ok_iff.1 hus).lexeme u hu
      rw [htext] at hother
      exact hother.unique hlexeme
  · intro s' hspaced
    have hs' := hspaced.tokens_eq (tokens_eq_ok_iff.1 hts).lexeme
    exact ⟨hs', spell_congr table (hs'.trans hts.symm)⟩
  · exact tokens_eq_error_iff
  · exact spell_of_stray table

theorem tokens_lose_blanks_pointer :
    tokens "*mut[u8;4]".toList =
        .ok [.star, .ident "mut", .lbracket, .ident "u8", .semicolon, .number "4", .rbracket] ∧
      Spaced [.star, .ident "mut", .lbracket, .ident "u8", .semicolon, .number "4", .rbracket]
        "\t* mut [ u8\u00a0; 4  ]".toList ∧
      tokens "\t* mut [ u8\u00a0; 4  ]".toList =
        .ok [.star, .ident "mut", .lbracket, .ident "u8", .semicolon, .number "4", .rbracket] ∧
      (spell {} "\t* mut [ u8\u00a0; 4  ]").mapError Unresolved.fault =
        (spell {} "*mut[u8;4]").mapError Unresolved.fault ∧
      tokens "Vec<u8:>".toList = .error ':' ∧ Strays ':' "Vec<u8:>".toList := by
  have htokens : tokens "*mut[u8;4]".toList =
      .ok [.star, .ident "mut", .lbracket, .ident "u8", .semicolon, .number "4", .rbracket] := by
    cbv
  have htab : Blank ['\t'] := by decide
  have hnone : Blank [] := by decide
  have hspace : Blank [' '] := by decide
  have hspaces : Blank [' ', ' '] := by decide
  have hfixed : Blank ['\u00a0'] := by decide
  have hspaced : Spaced
      [.star, .ident "mut", .lbracket, .ident "u8", .semicolon, .number "4", .rbracket]
      "\t* mut [ u8\u00a0; 4  ]".toList := by
    refine .cons htab hspace (by simp) ?_
    refine .cons hnone hspace (by simp) ?_
    refine .cons hnone hspace (by simp) ?_
    refine .cons hnone hfixed (by simp) ?_
    refine .cons hnone hspace (by simp) ?_
    refine .cons hnone hspaces (by simp) ?_
    exact .last hnone hnone
  have hstray : tokens "Vec<u8:>".toList = .error ':' := by cbv
  obtain ⟨-, hread, -⟩ := tokens_lose_blanks {} "*mut[u8;4]"
  obtain ⟨-, -, hrespaced⟩ := hread _ htokens
  obtain ⟨-, -, hrefused⟩ := tokens_lose_blanks {} "Vec<u8:>"
  exact ⟨htokens, hspaced, (hrespaced _ hspaced).1, (hrespaced _ hspaced).2, hstray,
    (hrefused _).1.1 hstray⟩

end SignalBinding.TypeExpr
