import SignalBinding.Template.Basic
import SignalBinding.Template.Literal
import SignalBinding.Text.Blank
import SignalBinding.Text.Identifier

/-!
# Reading templates

Templates as users write them: `{{ … }}` around an expression to fill in,
`{% … %}` around conditions and repetitions, `{# … #}` around comments. A hyphen at the
inner side of such a mark takes away the blanks outside. A condition, repetition or comment also
takes away the blanks between it and the start of its line, and one line end behind it, unless a
plus sign stands there.

## Main definitions

- `Word`: a word inside marks
- `Piece`, `pieces`: a template as texts and marks one after the other
- `Template.ofText?`: the template of a text
- `Template.writer`: what it does with a signal
-/

namespace SignalBinding

namespace Template

/-- A word inside marks. -/
inductive Word
  | name (s : String)
  | literal (s : String)
  | number (n : Nat)
  | dot
  | colon
  | lparen
  | rparen
  deriving DecidableEq, Repr, Inhabited

/-- The three kinds of marks. -/
inductive Mark
  | output
  | tag
  | comment
  deriving DecidableEq, Repr, Inhabited

/-- The character of a mark next to its brace. -/
def Mark.char : Mark → Char
  | output => '\x7d'
  | tag => '%'
  | comment => '#'

/-- A part of a template. -/
inductive Piece
  | text (s : String)
  | output (words : List Word)
  | tag (words : List Word)
  deriving Repr, Inhabited

/-- The mark that starts at the front, if one does. -/
def opening? : List Char → Option (Mark × List Char)
  | '\x7b' :: '\x7b' :: rest => some (.output, rest)
  | '\x7b' :: '%' :: rest => some (.tag, rest)
  | '\x7b' :: '#' :: rest => some (.comment, rest)
  | _ => none

/-- The text before the first mark, and the mark with what follows it. -/
def untilOpening : List Char → List Char × Option (Mark × List Char)
  | [] => ([], none)
  | c :: rest =>
    match opening? (c :: rest) with
    | some found => ([], some found)
    | none =>
      let (before, found) := untilOpening rest
      (c :: before, found)

/-- Takes the blanks off the end of a text's last line if there is nothing else on that line. -/
def trimIndent (lineStart : Bool) (cs : List Char) : List Char :=
  let line := (cs.reverse.takeWhile (· != '\n')).reverse
  let before := cs.take (cs.length - line.length)
  if line.all Text.isBlank ∧ (lineStart ∨ ¬before.isEmpty) then before else cs

/-- The sign behind the start of a mark. -/
inductive Sign
  | minus
  | plus
  | none
  deriving DecidableEq, Repr

def sign : List Char → Sign × List Char
  | '-' :: rest => (.minus, rest)
  | '+' :: rest => (.plus, rest)
  | cs => (.none, cs)

/-- The text before a mark, as it counts. -/
def textBefore (lineStart : Bool) (m : Mark) (s : Sign) (cs : List Char) : List Char :=
  match s with
  | .minus => Text.trimRight Text.isBlank cs
  | .plus => cs
  | .none => if m = .output then cs else trimIndent lineStart cs

/-- What follows the end of a mark at the front, and whether that end takes in a line end. -/
def closing? (m : Mark) (cs : List Char) : Option (Bool × List Char) :=
  match cs with
  | '-' :: c :: '\x7d' :: rest =>
    if c = m.char then
      let blanks := rest.takeWhile Text.isBlank
      some (blanks.getLast? = some '\n', rest.dropWhile Text.isBlank)
    else none
  | '+' :: c :: '\x7d' :: rest =>
    if c = m.char ∧ m ≠ .output then some (false, rest) else none
  | c :: '\x7d' :: '\n' :: rest =>
    if c = m.char then some (if m = .output then (false, '\n' :: rest) else (true, rest)) else none
  | c :: '\x7d' :: rest => if c = m.char then some (false, rest) else none
  | _ => none

/-- What follows a comment. -/
def skipComment : List Char → Option (Bool × List Char)
  | [] => none
  | c :: rest =>
    match closing? .comment (c :: rest) with
    | some r => some r
    | none => skipComment rest

/-- A run of digits, between which single underscores may stand, and what follows it. -/
def digitRun (isDigit : Char → Bool) : List Char → List Char × List Char
  | [] => ([], [])
  | '_' :: c :: rest =>
    if isDigit c then
      let (ds, r) := digitRun isDigit rest
      (c :: ds, r)
    else ([], '_' :: c :: rest)
  | c :: rest =>
    if isDigit c then
      let (ds, r) := digitRun isDigit rest
      (c :: ds, r)
    else ([], c :: rest)

/-- The base of a number with a mark behind a zero. -/
def baseOf? (mark : Char) : Option Nat :=
  [('b', 2), ('o', 8), ('x', 16)].lookup mark.toLower

/-- A whole number at the front and what follows it. One that starts with a zero is zero unless a
base is marked. Only the first digit has to be an ASCII one. -/
def number? (cs : List Char) : Option (Nat × List Char) :=
  match cs with
  | '0' :: rest =>
    let marked := do
      let mark ← rest.head?
      let base ← baseOf? mark
      let (ds, r) := digitRun (fun c => (Numeral.digit? base c).isSome) rest.tail
      return (← Numeral.natural? base ds, r)
    marked.or (some (0, (digitRun (· == '0') rest).2))
  | c :: _ =>
    let (ds, r) := digitRun (fun d => (Numeral.decimalDigit? d).isSome) cs
    if c.isDigit then (Numeral.natural? 10 ds).map (·, r) else none
  | [] => none

/-- Whether a number with a point or an exponent is at the front. -/
def startsDecimal (cs : List Char) : Bool :=
  let isDigit (c : Char) := (Numeral.decimalDigit? c).isSome
  let startsDigit (cs : List Char) := cs.head?.any isDigit
  match (digitRun isDigit cs).2 with
  | '.' :: rest => startsDigit rest
  | e :: sign :: rest =>
    (e == 'e' || e == 'E') && (isDigit sign || ((sign == '+' || sign == '-') && startsDigit rest))
  | _ => false

/-- The words up to the end of a mark; `bound` is at least the number of characters. -/
def words (named? : String → Option Char) (m : Mark) :
    Nat → List Char → Option (List Word × Bool × List Char)
  | 0, _ => none
  | bound + 1, cs =>
    match closing? m cs with
    | some (lineEnd, rest) => some ([], lineEnd, rest)
    | none =>
      let more (w : Word) (rest : List Char) := do
        let (ws, r) ← words named? m bound rest
        return (w :: ws, r)
      match cs with
      | [] => none
      | '.' :: rest =>
        match number? rest with
        | some (n, rest) => do
          let (ws, r) ← words named? m bound rest
          return (.dot :: .number n :: ws, r)
        | none => more .dot rest
      | ':' :: rest => more .colon rest
      | '(' :: rest => more .lparen rest
      | ')' :: rest => more .rparen rest
      | c :: rest =>
        if Text.isBlank c then words named? m bound rest
        else if c = '\'' ∨ c = '"' then do
          let (s, rest) ← Literal.split? c rest
          more (.literal (String.ofList (← Literal.unescape? named? s))) rest
        else if c.isDigit then do
          let (n, rest) ← number? cs
          if startsDecimal cs then none else more (.number n) rest
        else if Text.isIdentifierStart c then
          more (.name (String.ofList (cs.takeWhile Text.isIdentifierChar)))
            (cs.dropWhile Text.isIdentifierChar)
        else none

/-- The pieces of a text; `bound` is more than the number of characters. A comment that starts at
the very end needs no end of its own. -/
def pieces (named? : String → Option Char) : Nat → Bool → List Char → Option (List Piece)
  | 0, _, _ => none
  | bound + 1, lineStart, cs =>
    match untilOpening cs with
    | (before, none) => some [.text (String.ofList before)]
    | (before, some (m, rest)) => do
      let (s, rest) := sign rest
      let text := Piece.text (String.ofList (textBefore lineStart m s before))
      match m with
      | .comment =>
        if rest.isEmpty then return [text]
        else
          let (lineEnd, rest) ← skipComment rest
          return text :: (← pieces named? bound lineEnd rest)
      | .output =>
        let (ws, lineEnd, rest) ← words named? m (rest.length + 1) rest
        return text :: .output ws :: (← pieces named? bound lineEnd rest)
      | .tag =>
        let (ws, lineEnd, rest) ← words named? m (rest.length + 1) rest
        return text :: .tag ws :: (← pieces named? bound lineEnd rest)

/-! ### Expressions -/

/-- The parts behind an expression, and the changes of a list, which are written like calls. -/
def partsOf (e : Expr) : List Word → Option (Expr × List Word)
  | .dot :: .name "append" :: .lparen :: .literal s :: .rparen :: rest =>
    partsOf (.change e (.append s)) rest
  | .dot :: .name "clear" :: .lparen :: .rparen :: rest => partsOf (.change e .clear) rest
  | .dot :: .name "reverse" :: .lparen :: .rparen :: rest => partsOf (.change e .reverse) rest
  | .dot :: .name ident :: rest => partsOf (.part e ident) rest
  | .dot :: .number i :: rest => partsOf (.item e i) rest
  | .dot :: _ => none
  | ws => some (e, ws)

/-- Names that stand for the same everywhere. -/
def constants : List (String × Datum) := [
  ("true", .flag true), ("True", .flag true), ("false", .flag false), ("False", .flag false),
  ("none", .nothing), ("None", .nothing)]

/-- The literals that directly follow a literal belong to it. -/
def literalsOf (s : String) : List Word → String × List Word
  | .literal t :: rest => literalsOf (s ++ t) rest
  | ws => (s, ws)

mutual

/-- Reads operands with `or` between them. -/
def disjunction : Nat → List Word → Option (Expr × List Word)
  | 0, _ => none
  | bound + 1, ws => do
    let (e, ws) ← conjunction bound ws
    match ws with
    | .name "or" :: rest =>
      let (f, rest) ← disjunction bound rest
      return (.or e f, rest)
    | _ => return (e, ws)

/-- Reads operands with `and` between them. -/
def conjunction : Nat → List Word → Option (Expr × List Word)
  | 0, _ => none
  | bound + 1, ws => do
    let (e, ws) ← negation bound ws
    match ws with
    | .name "and" :: rest =>
      let (f, rest) ← conjunction bound rest
      return (.and e f, rest)
    | _ => return (e, ws)

/-- Reads an operand, perhaps behind `not`. -/
def negation : Nat → List Word → Option (Expr × List Word)
  | 0, _ => none
  | bound + 1, ws =>
    match ws with
    | .name "not" :: rest => do
      let (e, rest) ← negation bound rest
      return (.not e, rest)
    | .name ident :: rest =>
      partsOf (((constants.lookup ident).map Expr.literal).getD (.name ident)) rest
    | .number n :: rest => partsOf (.literal (.number n)) rest
    | .literal s :: rest =>
      let (s, rest) := literalsOf s rest
      partsOf (.literal (.text s)) rest
    | .lparen :: rest => do
      let (e, rest) ← disjunction bound rest
      match rest with
      | .rparen :: rest => partsOf e rest
      | _ => none
    | _ => none

end

/-- The expression that some words are. -/
def exprOf (ws : List Word) : Option Expr :=
  match disjunction (3 * ws.length + 3) ws with
  | some (e, []) => some e
  | _ => none

/-! ### Nodes -/

/-- The condition or the items of a tag, behind which a colon may stand. -/
def subjectOf (ws : List Word) : Option Expr :=
  exprOf (if ws.getLast? = some .colon then ws.dropLast else ws)

/-- Whether a repetition may give a name to its items. -/
def isFree (ident : String) : Bool :=
  (constants.lookup ident).isNone && ident ∉ ["loop", "in"]

/-- How a part of a template ends. -/
inductive Ending
  | templateEnd
  | tag (words : List Word)
  deriving DecidableEq, Repr

/-- Whether another part follows for the case that a condition does not hold or that there are no
items. -/
def Ending.isElse (e : Ending) : Bool :=
  e = .tag [.name "else"] || e = .tag [.name "else", .colon]

mutual

/-- Reads nodes up to a tag that belongs to a condition or repetition around them. -/
def nodes : Nat → List Piece → Option (List Node × Ending × List Piece)
  | 0, _ => none
  | bound + 1, ps =>
    match ps with
    | [] => some ([], .templateEnd, [])
    | .text s :: rest => do
      let (ns, r) ← nodes bound rest
      return (.text s :: ns, r)
    | .output ws :: rest => do
      let e ← exprOf ws
      let (ns, r) ← nodes bound rest
      return (.output e :: ns, r)
    | .tag (.name "if" :: ws) :: rest => do
      let (n, rest) ← choice bound ws rest
      let (ns, r) ← nodes bound rest
      return (n :: ns, r)
    | .tag (.name "for" :: .name ident :: .name "in" :: ws) :: rest => do
      let items ← if isFree ident ∧ ws.head? ≠ some (.name "recursive") then subjectOf ws else none
      let (body, ending, rest) ← nodes bound rest
      -- What a body is repeated over must stay as it is meanwhile.
      if !isPure body then none
      let (otherwise, ending, rest) ←
        if ending.isElse then nodes bound rest else some ([], ending, rest)
      if ending = .tag [.name "endfor"] then
        let (ns, r) ← nodes bound rest
        return (.repetition ident items body otherwise :: ns, r)
      else none
    | .tag ws :: rest =>
      match ws with
      | .name "else" :: _ | .name "elif" :: _ | .name "endif" :: _ | .name "endfor" :: _ =>
        some ([], .tag ws, rest)
      | _ => none

/-- Reads a condition behind its first word. -/
def choice : Nat → List Word → List Piece → Option (Node × List Piece)
  | 0, _, _ => none
  | bound + 1, ws, ps => do
    let condition ← subjectOf ws
    let (yes, ending, rest) ← nodes bound ps
    if ending.isElse then
      let (no, ending, rest) ← nodes bound rest
      if ending = .tag [.name "endif"] then return (.choice condition yes no, rest) else none
    else
      match ending with
      | .tag [.name "endif"] => return (.choice condition yes [], rest)
      | .tag (.name "elif" :: ws) =>
        let (n, rest) ← choice bound ws rest
        return (.choice condition yes [n], rest)
      | _ => none

end

/-- The template of a text whose lines end with single line feeds. -/
def ofText? (named? : String → Option Char) (s : String) : Option Template := do
  let ps ← pieces named? (s.length + 1) true s.toList
  match ← nodes (2 * ps.length + 2) ps with
  | (ns, .templateEnd, []) => some ns
  | _ => none

/-- What the template that is written in a text does with a signal. -/
def writer (named? : String → Option Char) (s : String) : Writer :=
  match ofText? named? s with
  | some t => t.write
  | none => .failing .malformed

end Template

end SignalBinding
