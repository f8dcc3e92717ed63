import SignalBinding.Text.Blank

/-!
# Tokens of type expressions

The words of a Rust type: lifetimes, identifiers, numbers and punctuation, with blanks between
them as the writer likes.

## Main definitions

- `Token.text`: a token as it is written
- `lexeme?`: the token at the start of a text
- `tokens`: all tokens of a text, or the first character at which none starts
-/

namespace SignalBinding.TypeExpr

/-- A word of a type expression. -/
inductive Token
  | lifetime (name : String)
  | ident (name : String)
  | number (digits : String)
  | pathSep
  | less
  | greater
  | comma
  | amp
  | star
  | lbracket
  | rbracket
  | semicolon
  | lparen
  | rparen
  deriving DecidableEq, Repr, Inhabited

/-- How the token is written; a lifetime's name follows a tick. -/
def Token.text : Token → String
  | lifetime name => "'" ++ name
  | ident name => name
  | number digits => digits
  | pathSep => "::"
  | less => "<"
  | greater => ">"
  | comma => ","
  | amp => "&"
  | star => "*"
  | lbracket => "["
  | rbracket => "]"
  | semicolon => ";"
  | lparen => "("
  | rparen => ")"

/-- An ASCII letter or an underscore. -/
def isIdentStart (c : Char) : Bool :=
  c.isAlpha || c == '_'

/-- An ASCII letter, an ASCII digit or an underscore. -/
def isIdentRest (c : Char) : Bool :=
  isIdentStart c || c.isDigit

/-- Punctuation of one character. -/
def punctuation? : Char → Option Token
  | '<' => some .less
  | '>' => some .greater
  | ',' => some .comma
  | '&' => some .amp
  | '*' => some .star
  | '[' => some .lbracket
  | ']' => some .rbracket
  | ';' => some .semicolon
  | '(' => some .lparen
  | ')' => some .rparen
  | _ => none

/-- The characters of `cs` before and after its first one outside `p`. -/
def run (p : Char → Bool) (cs : List Char) : String × List Char :=
  (String.ofList (cs.takeWhile p), cs.dropWhile p)

/-- The longest token that starts with the character `c` before `cs`, and what follows it. -/
def lexeme? (c : Char) (cs : List Char) : Option (Token × List Char) :=
  if c == '\'' then
    match cs with
    | d :: _ =>
      if isIdentStart d then some (.lifetime (run isIdentRest cs).1, (run isIdentRest cs).2)
      else none
    | [] => none
  else if isIdentStart c then
    some (.ident (run isIdentRest (c :: cs)).1, (run isIdentRest (c :: cs)).2)
  else if c.isDigit then
    some (.number (run Char.isDigit (c :: cs)).1, (run Char.isDigit (c :: cs)).2)
  else if c == ':' then
    match cs with
    | ':' :: rest => some (.pathSep, rest)
    | _ => none
  else
    (punctuation? c).map (·, cs)

theorem length_lexeme?_le {c : Char} {cs rest : List Char} {t : Token}
    (h : lexeme? c cs = some (t, rest)) : rest.length ≤ cs.length := by
  unfold lexeme? at h
  split at h
  · split at h
    · split at h
      · cases h; exact (List.dropWhile_suffix _).length_le
      · cases h
    · cases h
  · split at h
    · next hs =>
      cases h
      have : isIdentRest c = true := by simp [isIdentRest, hs]
      simpa [run, List.dropWhile_cons, this] using (List.dropWhile_suffix _).length_le
    · split at h
      · next hd =>
        cases h
        simpa [run, List.dropWhile_cons, hd] using (List.dropWhile_suffix _).length_le
      · split at h
        · split at h
          · cases h; simp
          · cases h
        · obtain ⟨_, _, h⟩ := Option.map_eq_some_iff.1 h
          cases h; exact Nat.le_refl _

/-- The tokens of a text, or its first character outside blanks and tokens. -/
def tokens (cs : List Char) : Except Char (List Token) :=
  match h : cs.dropWhile Text.isBlank with
  | [] => .ok []
  | c :: rest =>
    match ht : lexeme? c rest with
    | none => .error c
    | some (t, rest') =>
      have : rest'.length < cs.length := by
        have hb : (cs.dropWhile Text.isBlank).length ≤ cs.length :=
          (List.dropWhile_suffix _).length_le
        rw [h, List.length_cons] at hb
        exact Nat.lt_of_le_of_lt (length_lexeme?_le ht) hb
      (tokens rest').map (t :: ·)
  termination_by cs.length

@[simp] theorem tokens_nil : tokens [] = .ok [] := by
  rw [tokens]
  rfl

theorem tokens_cons {c : Char} {cs rest : List Char} {t : Token} (hc : Text.isBlank c = false)
    (h : lexeme? c cs = some (t, rest)) : tokens (c :: cs) = (tokens rest).map (t :: ·) := by
  have hdrop : (c :: cs).dropWhile Text.isBlank = c :: cs := by
    rw [List.dropWhile_cons, hc]
    rfl
  rw [tokens]
  split
  next hnil => simp [hdrop] at hnil
  next d ds hcons =>
    obtain ⟨rfl, rfl⟩ := List.cons.inj (hdrop.symm.trans hcons)
    split
    next hnone => simp [h] at hnone
    next hsome =>
      obtain ⟨rfl, rfl⟩ := Prod.mk.inj (Option.some.inj (h.symm.trans hsome))
      rfl

end SignalBinding.TypeExpr
