import SignalBinding.Yaml.Name
import SignalBinding.Yaml.Scalar

/-!
# From YAML texts to tokens

Splits a text into tokens. Two things cannot be told from the characters at hand alone. One is
where block collections start and end: that follows from a stack of indentations. The other is
whether a node is a key: that shows only at the colon behind it, so each place where a key may have
started is kept until it is clear, and the token for the key is put there afterwards.

## Main definitions

- `Scan`: the state on the way through a text
- `TokenList`: the tokens of a text, and what is wrong behind them
- `tokenize`: the tokens of a text
-/

namespace SignalBinding.Yaml

/-- A place where a key may have started. -/
structure KeyStart where
  /-- The number of tokens in front of the key. -/
  position : Nat
  /-- Whether nothing but a key may stand there. -/
  required : Bool
  index : Nat
  line : Nat
  column : Nat

/-- The state on the way through a text. -/
structure Scan where
  cursor : Cursor
  /-- The tokens so far, the last one first. -/
  reversed : List Token := []
  count : Nat := 0
  /-- The number of flow collections that are open. -/
  flow : Nat := 0
  /-- The column of the innermost block collection that is open; -1 if there is none. -/
  indent : Int := -1
  /-- The columns of the block collections around it. -/
  outer : List Int := []
  /-- Whether a key without a mark of its own may start here. -/
  keyAllowed : Bool := true
  /-- The possible keys that are open, by the number of flow collections around them. -/
  keys : List (Nat × KeyStart) := []

abbrev Scan.Step : Type := Except Fault Scan

/-- The tokens of a text. -/
structure TokenList where
  tokens : List Token
  /-- What is wrong with the text behind these tokens. -/
  fault? : Option Fault := none

namespace Scan

def inFlow (s : Scan) : Bool := s.flow != 0

def push (s : Scan) (t : Token) : Scan :=
  { s with reversed := t :: s.reversed, count := s.count + 1 }

/-- Puts a token behind the first `position` tokens. -/
def insert (s : Scan) (position : Nat) (t : Token) : Scan :=
  let behind := s.count - position
  { s with
    reversed := s.reversed.take behind ++ t :: s.reversed.drop behind
    count := s.count + 1 }

/-! ### Possible keys -/

/-- Whether the cursor has left a possible key: a key is short and on one line. -/
def stale (s : Scan) (k : KeyStart) : Bool :=
  k.line != s.cursor.line || 1024 < s.cursor.index - k.index

/-- Gives up the possible keys that the cursor has left. -/
def dropStale (s : Scan) : Step :=
  if s.keys.any fun (_, k) => s.stale k && k.required then throw .malformed
  else return { s with keys := s.keys.filter fun (_, k) => !s.stale k }

/-- Gives up the possible key at this depth. -/
def dropKey (s : Scan) : Step :=
  match s.keys.lookup s.flow with
  | none => return s
  | some k =>
    if k.required then throw .malformed
    else return { s with keys := s.keys.filter fun (level, _) => level != s.flow }

/-- Notes that a key may start at the cursor. -/
def saveKey (s : Scan) : Step := do
  if s.keyAllowed then
    let s ← s.dropKey
    let c := s.cursor
    let key : KeyStart := {
      position := s.count
      required := !s.inFlow && s.indent == c.column
      index := c.index, line := c.line, column := c.column }
    return { s with keys := (s.flow, key) :: s.keys }
  else return s

/-! ### Indentation -/

/-- Closes the block collections that are indented deeper than `column`. -/
def closeBlocks (column : Int) (indent : Int) (outer : List Int) (s : Scan) : Scan :=
  if indent ≤ column then { s with indent, outer }
  else
    match outer with
    | [] => { s.push .blockEnd with indent := -1, outer := [] }
    | i :: rest => closeBlocks column i rest (s.push .blockEnd)

/-- Closes block collections unless a flow collection is open. -/
def unwind (s : Scan) (column : Int) : Scan :=
  if s.inFlow then s else closeBlocks column s.indent s.outer s

/-- Whether a block collection starts at `column`; if so, makes it the innermost one. -/
def openBlock (s : Scan) (column : Nat) : Bool × Scan :=
  if s.indent < column then (true, { s with indent := column, outer := s.indent :: s.outer })
  else (false, s)

/-- Starts a block collection at the cursor if it is indented deeper than the one around it. -/
def startBlock (s : Scan) (t : Token) : Step :=
  if s.inFlow then return s
  else if ¬s.keyAllowed then throw .malformed
  else
    match s.openBlock s.cursor.column with
    | (true, s) => return s.push t
    | (false, s) => return s

/-! ### Tokens -/

def move (s : Scan) (n : Nat) : Scan :=
  { s with cursor := s.cursor.skip n }

/-- Moves over spaces, comments and empty lines; after a line end a key may start. -/
def toNextToken : Nat → Scan → Scan
  | 0, s => s
  | bound + 1, s =>
    let c := s.cursor.skipSpaces.skipComment
    match c.lineBreak? with
    | none => { s with cursor := c }
    | some (_, c) =>
      toNextToken bound { s with cursor := c, keyAllowed := s.keyAllowed || !s.inFlow }

/-- A directive, or a mark between documents: all block collections end. -/
def betweenDocuments (s : Scan) : Step := do
  return { ← (s.unwind (-1)).dropKey with keyAllowed := false }

def directive (s : Scan) : Step := do
  let s ← s.betweenDocuments
  let (t, c) ← readDirective s.cursor
  return { s.push t with cursor := c }

def separator (s : Scan) (t : Token) : Step := do
  return ((← s.betweenDocuments).push t).move 3

def flowStart (s : Scan) (t : Token) : Step := do
  let s ← s.saveKey
  return ({ s with flow := s.flow + 1, keyAllowed := true }.push t).move 1

def flowEnd (s : Scan) (t : Token) : Step := do
  let s ← s.dropKey
  return ({ s with flow := s.flow - 1, keyAllowed := false }.push t).move 1

def flowEntry (s : Scan) : Step := do
  return ((← { s with keyAllowed := true }.dropKey).push .flowEntry).move 1

def blockEntry (s : Scan) : Step := do
  let s ← s.startBlock .blockSequenceStart
  return ((← { s with keyAllowed := true }.dropKey).push .blockEntry).move 1

def explicitKey (s : Scan) : Step := do
  let s ← s.startBlock .blockMappingStart
  return ((← { s with keyAllowed := !s.inFlow }.dropKey).push .key).move 1

/-- A colon: what was a possible key is one now. -/
def value (s : Scan) : Step := do
  match s.keys.lookup s.flow with
  | some k =>
    let s := { s with keys := s.keys.filter fun (level, _) => level != s.flow }
    let s := s.insert k.position .key
    let s :=
      if s.inFlow then s
      else
        match s.openBlock k.column with
        | (true, s) => s.insert k.position .blockMappingStart
        | (false, s) => s
    return ({ s with keyAllowed := false }.push .value).move 1
  | none =>
    let s ← s.startBlock .blockMappingStart
    return ((← { s with keyAllowed := !s.inFlow }.dropKey).push .value).move 1

def node (s : Scan) (read : Cursor → Except Fault (Token × Cursor)) : Step := do
  let s ← s.saveKey
  let (t, c) ← read s.cursor
  return { s.push t with cursor := c, keyAllowed := false }

def blockScalar (s : Scan) (folded : Bool) : Step := do
  let s ← { s with keyAllowed := true }.dropKey
  let (text, c) ← readBlock folded s.indent s.cursor
  return { s.push (.scalar text false) with cursor := c }

def plainScalar (s : Scan) : Step := do
  let s ← s.saveKey
  let (text, c, broken) := readPlain s.inFlow (s.indent + 1) s.cursor
  return { s.push (.scalar text true) with cursor := c, keyAllowed := broken }

/-- Whether a plain scalar may start at the cursor. -/
def startsPlain (flow : Bool) (c : Cursor) : Bool :=
  let ch := c.peek
  (!isGapOrEnd ch && ch ∉ "-?:,[]\x7b\x7d#&*!|>'\"%@\x60".toList) ||
    (!isGapOrEnd (c.peek 1) && (ch == '-' || (!flow && (ch == '?' || ch == ':'))))

/-- Reads the token at the cursor. -/
def token (s : Scan) : Step :=
  let c := s.cursor
  let ch := c.peek
  let spaced := isGapOrEnd (c.peek 1)
  if ch = '%' ∧ c.column = 0 then s.directive
  else if c.column = 0 ∧ c.hasTriple '-' then s.separator .documentStart
  else if c.column = 0 ∧ c.hasTriple '.' then s.separator .documentEnd
  else if ch = '[' then s.flowStart .flowSequenceStart
  else if ch = '{' then s.flowStart .flowMappingStart
  else if ch = ']' then s.flowEnd .flowSequenceEnd
  else if ch = '}' then s.flowEnd .flowMappingEnd
  else if ch = ',' then s.flowEntry
  else if ch = '-' ∧ spaced then s.blockEntry
  else if ch = '?' ∧ (s.inFlow ∨ spaced) then s.explicitKey
  else if ch = ':' ∧ (s.inFlow ∨ spaced) then s.value
  else if ch = '*' then s.node fun c => return Prod.map .alias id (← readName c)
  else if ch = '&' then s.node fun c => return Prod.map .anchor id (← readName c)
  else if ch = '!' then s.node readTag
  else if ch = '|' ∧ ¬s.inFlow then s.blockScalar false
  else if ch = '>' ∧ ¬s.inFlow then s.blockScalar true
  else if ch = '\'' then s.node fun c => return Prod.map (.scalar · false) id (← readQuoted false c)
  else if ch = '"' then s.node fun c => return Prod.map (.scalar · false) id (← readQuoted true c)
  else if startsPlain s.inFlow c then s.plainScalar
  else throw .malformed

/--
The tokens so far in front of which nothing can be put any more: those in front of the first
possible key.
-/
def settled (s : Scan) : List Token :=
  let pending := s.keys.filter fun (_, k) => !s.stale k
  s.reversed.reverse.take (pending.foldl (fun n (_, k) => min n k.position) s.count)

/-- Reads the next token and what is in front of it, or the end; says whether it was the end. -/
def advance (s : Scan) : Except Fault (Bool × Scan) := do
  let s := toNextToken (s.cursor.rest.length + 1) s
  let s ← s.dropStale
  let s := s.unwind s.cursor.column
  if s.cursor.rest.isEmpty then return (true, ← (s.unwind (-1)).dropKey)
  else return (false, ← s.token)

/-- Reads all tokens. Each round reads a character at least, so the bound is the text's length. -/
def run : Nat → Scan → TokenList
  | 0, s => { tokens := s.settled, fault? := some .malformed }
  | bound + 1, s =>
    match s.advance with
    | .error f => { tokens := s.settled, fault? := some f }
    | .ok (true, s) => { tokens := s.reversed.reverse }
    | .ok (false, s) => run bound s

end Scan

/-- The cursor at the start of a text, behind a byte order mark. -/
def Cursor.start (cs : List Char) : Cursor :=
  let c : Cursor := { rest := cs }
  if c.peek = byteOrderMark then c.next else c

/--
The tokens of a text. If something is wrong with it, these are the tokens that are certain before
the fault shows, so that what is wrong with them comes first.
-/
def tokenize (s : String) : TokenList :=
  if s.toList.all isAllowed then
    Scan.run (s.toList.length + 1) { cursor := Cursor.start s.toList }
  else { tokens := [], fault? := some .malformed }

end SignalBinding.Yaml
