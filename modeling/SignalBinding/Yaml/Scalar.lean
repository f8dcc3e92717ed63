import SignalBinding.Yaml.Cursor

/-!
# Scalars in YAML texts

The three ways to write a scalar: plain, between quotes, and as an indented block. Each reader
starts at the first character of a scalar and gives its text and the cursor behind it. The readers
with a bound go round at most so many times; the number of characters left is always enough.

## Main definitions

- `readPlain`, `readQuoted`, `readBlock`
-/

namespace SignalBinding.Yaml

/-- What line ends and empty lines between two lines of a scalar stand for. -/
def foldBreaks (first : Char) (more : List Char) : List Char :=
  if first ≠ '\n' then first :: more
  else if more.isEmpty then [' '] else more

/-! ### Plain scalars -/

/-- The part of a plain scalar that is ahead on the line, without gaps. -/
def plainRun (flow : Bool) : List Char → List Char
  | [] => []
  | c :: rest =>
    let follows := rest.headD endMark
    if isGap c then []
    else if c = ':' ∧ (isGapOrEnd follows ∨ (flow ∧ follows ∈ [',', '[', ']', '{', '}'])) then []
    else if flow ∧ c ∈ [',', '?', '[', ']', '{', '}'] then []
    else c :: plainRun flow rest

/-- What follows the lines of a plain scalar. -/
structure PlainGap where
  /-- What the gap stands for inside the scalar; nothing ends the scalar. -/
  text : List Char
  cursor : Cursor
  /-- Whether the gap goes over a line end. -/
  broken : Bool

/-- Moves over spaces and empty lines; none if a mark between documents is in the way. -/
def plainBreaks : Nat → Cursor → List Char → Option (List Char × Cursor)
  | 0, c, breaks => some (breaks.reverse, c)
  | bound + 1, c, breaks =>
    if c.peek = ' ' then plainBreaks bound c.next breaks
    else
      match c.lineBreak? with
      | none => some (breaks.reverse, c)
      | some (b, c) => if c.hasSeparator then none else plainBreaks bound c (b :: breaks)

/-- Reads what may stand between two parts of a plain scalar. -/
def plainGap (c : Cursor) : PlainGap :=
  let (spaces, c) := c.span (· == ' ')
  match c.lineBreak? with
  | none => { text := spaces, cursor := c, broken := false }
  | some (b, c) =>
    if c.hasSeparator then { text := [], cursor := c, broken := true }
    else
      match plainBreaks c.rest.length c [] with
      | none => { text := [], cursor := c, broken := true }
      | some (more, c) => { text := foldBreaks b more, cursor := c, broken := true }

/-- Reads a plain scalar behind the characters `text`, all lines of which are indented. -/
def plainLines (flow : Bool) (indent : Int) :
    Nat → List Char → PlainGap → List Char × Cursor × Bool
  | 0, text, gap => (text, gap.cursor, gap.broken)
  | bound + 1, text, gap =>
    match plainRun flow gap.cursor.rest with
    | [] => (text, gap.cursor, gap.broken)
    | run =>
      let text := text ++ gap.text ++ run
      let gap := plainGap (gap.cursor.skip run.length)
      if gap.text.isEmpty ∨ gap.cursor.peek = '#' ∨ (¬flow ∧ gap.cursor.column < indent) then
        (text, gap.cursor, gap.broken)
      else plainLines flow indent bound text gap

/--
Reads a plain scalar, whose further lines are indented by `indent` at least outside flow
collections. Also says whether the cursor is on a new line afterwards.
-/
def readPlain (flow : Bool) (indent : Int) (c : Cursor) : String × Cursor × Bool :=
  let (text, c, broken) :=
    plainLines flow indent c.rest.length [] { text := [], cursor := c, broken := false }
  (String.ofList text, c, broken)

/-! ### Quoted scalars -/

/-- Escapes of one character between double quotes. -/
def simpleEscape? : Char → Option Char
  | '0' => some '\x00'
  | 'a' => some '\x07'
  | 'b' => some '\x08'
  | 't' => some '\t'
  | '\t' => some '\t'
  | 'n' => some '\n'
  | 'v' => some '\x0b'
  | 'f' => some '\x0c'
  | 'r' => some '\r'
  | 'e' => some '\x1b'
  | ' ' => some ' '
  | '"' => some '"'
  | '\\' => some '\\'
  | '/' => some '/'
  | 'N' => some '\u0085'
  | '_' => some '\u00a0'
  | 'L' => some '\u2028'
  | 'P' => some '\u2029'
  | _ => none

/-- The number of digits behind the escapes that name a character by its number. -/
def escapeWidth? : Char → Option Nat
  | 'x' => some 2
  | 'u' => some 4
  | 'U' => some 8
  | _ => none

def hexDigit? (c : Char) : Option Nat :=
  if c.isDigit then some (c.toNat - '0'.toNat)
  else if 'a' ≤ c ∧ c ≤ 'f' then some (c.toNat - 'a'.toNat + 10)
  else if 'A' ≤ c ∧ c ≤ 'F' then some (c.toNat - 'A'.toNat + 10)
  else none

/-- The number of a run of hexadecimal digits, behind the number `n`. -/
def hexNumber? (n : Nat) : List Char → Option Nat
  | [] => some n
  | c :: cs => do hexNumber? (n * 16 + (← hexDigit? c)) cs

/-- Moves over the breaks and indentation between two lines of a quoted scalar. -/
def quotedBreaks : Nat → Cursor → List Char → Except Fault (List Char × Cursor)
  | 0, c, breaks => return (breaks.reverse, c)
  | bound + 1, c, breaks =>
    if c.hasSeparator then throw .malformed
    else
      let c := c.skipWhile fun ch => ch == ' ' || ch == '\t'
      match c.lineBreak? with
      | none => return (breaks.reverse, c)
      | some (b, c) => quotedBreaks bound c (b :: breaks)

/-- Reads an escape behind its backslash. -/
def readEscape (c : Cursor) : Except Fault (List Char × Cursor) :=
  let ch := c.peek
  match simpleEscape? ch, escapeWidth? ch with
  | some r, _ => return ([r], c.next)
  | none, some width =>
    let c := c.next
    match hexNumber? 0 (c.rest.take width) with
    | none => throw .malformed
    | some n =>
      if (c.rest.take width).length < width then throw .malformed
      else if h : n.isValidChar then return ([Char.ofNatAux n h], c.skip width)
      else throw .unconvertible
  | none, none =>
    match c.lineBreak? with
    | none => throw .malformed
    | some (_, c) => quotedBreaks (c.rest.length + 1) c []

/-- Reads a scalar between quotes up to the closing one. The text so far comes last character
first. -/
def quotedRest (double : Bool) : Nat → List Char → Cursor → Except Fault (List Char × Cursor)
  | 0, _, _ => throw .malformed
  | bound + 1, reversed, c =>
    let ch := c.peek
    let quote := if double then '"' else '\''
    if c.rest.isEmpty then throw .malformed
    else if ch = quote then
      if ¬double ∧ c.peek 1 = '\'' then quotedRest double bound ('\'' :: reversed) (c.skip 2)
      else return (reversed.reverse, c.next)
    else if double ∧ ch = '\\' then do
      let (more, c) ← readEscape c.next
      quotedRest double bound (more.reverse ++ reversed) c
    else if isGap ch then
      let (spaces, c) := c.span fun ch => ch == ' ' || ch == '\t'
      match c.lineBreak? with
      | none => quotedRest double bound (spaces.reverse ++ reversed) c
      | some (b, c) => do
        let (more, c) ← quotedBreaks (c.rest.length + 1) c []
        quotedRest double bound ((foldBreaks b more).reverse ++ reversed) c
    else quotedRest double bound (ch :: reversed) c.next

/-- Reads a scalar between double or single quotes. -/
def readQuoted (double : Bool) (c : Cursor) : Except Fault (String × Cursor) := do
  let (text, c) ← quotedRest double (c.rest.length + 1) [] c.next
  return (String.ofList text, c)

/-! ### Block scalars -/

/-- What becomes of the line ends at the end of a block. -/
inductive Chomp
  | strip
  | clip
  | keep
  deriving DecidableEq, Repr

/-- Reads a mark for the end of a block. -/
def readChomp (c : Cursor) : Option Chomp × Cursor :=
  match c.peek with
  | '+' => (some .keep, c.next)
  | '-' => (some .strip, c.next)
  | _ => (none, c)

/-- Reads a number for the indentation of a block, which must not be zero. -/
def readIndent (c : Cursor) : Except Fault (Option Nat × Cursor) :=
  let ch := c.peek
  if ch = '0' then throw .malformed
  else if ch.isDigit then return (some (ch.toNat - '0'.toNat), c.next)
  else return (none, c)

/-- Reads the two marks behind the start of a block, in either order. -/
def readIndicators (c : Cursor) : Except Fault (Chomp × Option Nat × Cursor) := do
  let (first, c) := readChomp c
  let (indent, c) ← readIndent c
  let (chomp, c) :=
    match first, indent with
    | none, some _ => readChomp c
    | _, _ => (first, c)
  if isSpaceOrBreakOrEnd c.peek then return (chomp.getD .clip, indent, c) else throw .malformed

/-- Moves over the rest of a line, which may only hold a comment. -/
def skipRestOfLine (c : Cursor) : Except Fault Cursor :=
  let c := c.skipSpaces.skipComment
  if c.rest.isEmpty then return c
  else
    match c.lineBreak? with
    | some (_, c) => return c
    | none => throw .malformed

/-- Moves over the empty lines before a block whose indentation shows by itself, and finds it. -/
def findIndent : Nat → Cursor → List Char → Nat → List Char × Nat × Cursor
  | 0, c, breaks, indent => (breaks.reverse, indent, c)
  | bound + 1, c, breaks, indent =>
    if c.peek = ' ' then findIndent bound c.next breaks (max indent c.next.column)
    else
      match c.lineBreak? with
      | none => (breaks.reverse, indent, c)
      | some (b, c) => findIndent bound c (b :: breaks) indent

/-- Moves over at most the indentation of a line. -/
def skipIndent (indent : Nat) : Nat → Cursor → Cursor
  | 0, c => c
  | bound + 1, c =>
    if c.column < indent ∧ c.peek = ' ' then skipIndent indent bound c.next else c

/-- Moves over empty lines and the indentation of the next line. -/
def blockBreaks (indent : Nat) : Nat → Cursor → List Char → List Char × Cursor
  | 0, c, breaks => (breaks.reverse, c)
  | bound + 1, c, breaks =>
    let c := skipIndent indent indent c
    match c.lineBreak? with
    | none => (breaks.reverse, c)
    | some (b, c) => blockBreaks indent bound c (b :: breaks)

/-- A block up to some line: its text, the end of that line, and the empty lines behind. -/
structure BlockText where
  text : List Char
  ending : List Char
  breaks : List Char
  cursor : Cursor

/-- Reads the lines of a block. -/
def blockLines (folded : Bool) (indent : Nat) : Nat → BlockText → BlockText
  | 0, b => b
  | bound + 1, b =>
    let c := b.cursor
    if c.column ≠ indent ∨ c.rest.isEmpty then b
    else
      let wasText := ¬(c.peek = ' ' ∨ c.peek = '\t')
      let (line, c) := c.span fun ch => !isBreak ch
      let (ending, c) :=
        match c.lineBreak? with
        | some (e, c) => ([e], c)
        | none => ([], c)
      let (breaks, c) := blockBreaks indent (c.rest.length + 1) c []
      let text := b.text ++ b.breaks ++ line
      if c.column = indent ∧ ¬c.rest.isEmpty then
        let joined :=
          if folded ∧ ending = ['\n'] ∧ wasText ∧ ¬(c.peek = ' ' ∨ c.peek = '\t') then
            (if breaks.isEmpty then [' '] else [])
          else ending
        blockLines folded indent bound { text := text ++ joined, ending, breaks, cursor := c }
      else { text, ending, breaks, cursor := c }

/-- Reads a block scalar inside a collection with the indentation `outer`. -/
def readBlock (folded : Bool) (outer : Int) (c : Cursor) : Except Fault (String × Cursor) := do
  let (chomp, increment, c) ← readIndicators c.next
  let c ← skipRestOfLine c
  let least := max 1 (outer + 1).toNat
  let (breaks, indent, c) :=
    match increment with
    | none =>
      let (breaks, found, c) := findIndent (c.rest.length + 1) c [] 0
      (breaks, max least found, c)
    | some n =>
      let indent := least + n - 1
      let (breaks, c) := blockBreaks indent (c.rest.length + 1) c []
      (breaks, indent, c)
  let b := blockLines folded indent (c.rest.length + 1)
    { text := [], ending := [], breaks, cursor := c }
  let tail :=
    match chomp with
    | .strip => []
    | .clip => b.ending
    | .keep => b.ending ++ b.breaks
  return (String.ofList (b.text ++ tail), b.cursor)

end SignalBinding.Yaml
