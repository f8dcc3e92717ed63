/-!
# Places in a YAML text

The characters that matter for the form of a YAML text, and a cursor that moves over one while it
keeps count of lines and columns. Line ends are single characters here.

## Main definitions

- `Fault`: why a text has no value
- `isBreak`, `isGap`, `isGapOrEnd`: the classes of characters
- `Cursor`: the rest of a text and where it starts
-/

namespace SignalBinding.Yaml

/-- Why a text has no value. -/
inductive Fault
  /-- It is not YAML, or has a part that is no value. -/
  | malformed
  /-- A scalar does not denote a value of the type that it is said to have. -/
  | unconvertible
  deriving DecidableEq, Repr, Inhabited

/-- Stands for the end of the text; no text may hold it. -/
def endMark : Char := '\x00'

def isBreak (c : Char) : Bool :=
  c == '\n' || c == '\u0085' || c == '\u2028' || c == '\u2029'

/-- A space, a tabulator or a line end. -/
def isGap (c : Char) : Bool :=
  c == ' ' || c == '\t' || isBreak c

def isGapOrEnd (c : Char) : Bool :=
  c == endMark || isGap c

def isBreakOrEnd (c : Char) : Bool :=
  c == endMark || isBreak c

/-- A space, a line end or the end, but no tabulator. -/
def isSpaceOrBreakOrEnd (c : Char) : Bool :=
  c == ' ' || isBreakOrEnd c

/-- Characters of names: ASCII letters, digits, hyphens and underscores. -/
def isWordChar (c : Char) : Bool :=
  c.isAlphanum || c == '-' || c == '_'

/-- The byte order mark, which has no width. -/
def byteOrderMark : Char := '\ufeff'

/-- Whether a text may hold the character. -/
def isAllowed (c : Char) : Bool :=
  let n := c.toNat
  n == 9 || n == 10 || n == 13 || (32 ≤ n && n ≤ 126) || n == 0x85 || (0xa0 ≤ n && n ≤ 0xfffd) ||
    0x10000 ≤ n

/-- The rest of a text, and the number of characters, lines and columns before it. -/
structure Cursor where
  rest : List Char
  index : Nat := 0
  line : Nat := 0
  column : Nat := 0
  deriving Inhabited

namespace Cursor

/-- The character `k` places ahead. -/
def peek (c : Cursor) (k : Nat := 0) : Char :=
  (c.rest[k]?).getD endMark

/-- Moves over one character. -/
def next (c : Cursor) : Cursor :=
  match c.rest with
  | [] => c
  | ch :: rest =>
    if isBreak ch then { rest, index := c.index + 1, line := c.line + 1, column := 0 }
    else
      { rest, index := c.index + 1, line := c.line
        column := if ch = byteOrderMark then c.column else c.column + 1 }

/-- Moves over `n` characters. -/
def skip (c : Cursor) : Nat → Cursor
  | 0 => c
  | n + 1 => c.next.skip n

/-- The characters before the first one outside `p`, and the cursor behind them. -/
def span (c : Cursor) (p : Char → Bool) : List Char × Cursor :=
  let taken := c.rest.takeWhile p
  (taken, c.skip taken.length)

/-- Moves over the characters before the first one outside `p`. -/
def skipWhile (c : Cursor) (p : Char → Bool) : Cursor :=
  (c.span p).2

def skipSpaces (c : Cursor) : Cursor :=
  c.skipWhile (· == ' ')

/-- Moves over a comment up to the end of its line. -/
def skipComment (c : Cursor) : Cursor :=
  if c.peek = '#' then c.skipWhile fun ch => !isBreak ch else c

/-- The line end at the cursor, as it counts in a scalar, and the cursor behind it. -/
def lineBreak? (c : Cursor) : Option (Char × Cursor) :=
  let ch := c.peek
  if ch = '\n' ∨ ch = '\u0085' then some ('\n', c.next)
  else if isBreak ch then some (ch, c.next)
  else none

/-- Whether three characters `ch`, and then a gap or the end, are ahead. -/
def hasTriple (c : Cursor) (ch : Char) : Bool :=
  c.peek 0 == ch && c.peek 1 == ch && c.peek 2 == ch && isGapOrEnd (c.peek 3)

/-- Whether a mark between documents is ahead. -/
def hasSeparator (c : Cursor) : Bool :=
  c.hasTriple '-' || c.hasTriple '.'

end Cursor

end SignalBinding.Yaml
