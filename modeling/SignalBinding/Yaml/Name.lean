import SignalBinding.Yaml.Token
import SignalBinding.Yaml.Cursor

/-!
# Names in YAML texts

Anchors, aliases, tags and directives. Each reader starts at the character that introduces what it
reads.

## Main definitions

- `readName`: the name of an anchor or of an alias
- `readTag`: a tag
- `readDirective`: a directive with the rest of its line
-/

namespace SignalBinding.Yaml

/-- Reads the name of an anchor or of an alias. -/
def readName (c : Cursor) : Except Fault (String × Cursor) :=
  let (name, c) := c.next.span isWordChar
  if name.isEmpty then throw .malformed
  else if isGapOrEnd c.peek ∨ c.peek ∈ ['?', ':', ',', ']', '}', '%', '@', '\x60'] then
    return (String.ofList name, c)
  else throw .malformed

/-! ### Tags -/

/-- Characters that a tag may hold as they are. -/
def isTagChar (c : Char) : Bool :=
  c.isAlphanum || c ∈ "-;/?:@&=+$,_.!~*'()[]".toList

/-- The number of the two hexadecimal digits behind a percent sign. -/
def percentByte? (c : Cursor) : Option UInt8 := do
  if c.peek ≠ '%' then none
  else
    let hi ← digit? (c.peek 1)
    let lo ← digit? (c.peek 2)
    return (hi * 16 + lo).toUInt8
where
  digit? (c : Char) : Option Nat :=
    if c.isDigit then some (c.toNat - '0'.toNat)
    else if c.isAlpha ∧ c.toLower ≤ 'f' then some (c.toLower.toNat - 'a'.toNat + 10)
    else none

/-- Reads a run of percent escapes, behind the bytes `bytes`. -/
def percentBytes : Nat → ByteArray → Cursor → Except Fault (ByteArray × Cursor)
  | 0, bytes, c => return (bytes, c)
  | bound + 1, bytes, c =>
    if c.peek ≠ '%' then return (bytes, c)
    else
      match percentByte? c with
      | none => throw .malformed
      | some b => percentBytes bound (bytes.push b) (c.skip 3)

/-- Reads the characters of a tag, behind the characters `text`. -/
def tagChars : Nat → List Char → Cursor → Except Fault (List Char × Cursor)
  | 0, text, c => return (text, c)
  | bound + 1, text, c =>
    if c.peek = '%' then do
      let (bytes, c) ← percentBytes c.rest.length ByteArray.empty c
      match String.fromUTF8? bytes with
      | none => throw .malformed
      | some s => tagChars bound (text ++ s.toList) c
    else if isTagChar c.peek then tagChars bound (text ++ [c.peek]) c.next
    else return (text, c)

/-- Reads a part of a tag that is not empty. -/
def readTagText (c : Cursor) : Except Fault (String × Cursor) := do
  let (text, next) ← tagChars (c.rest.length + 1) [] c
  if text.isEmpty then throw .malformed else return (String.ofList text, next)

/-- Reads a tag handle: a name between exclamation marks, or one mark before a space. -/
def readHandle (c : Cursor) : Except Fault (String × Cursor) :=
  if c.peek ≠ '!' then throw .malformed
  else if c.peek 1 = ' ' then return ("!", c.next)
  else
    let (name, c) := c.next.span isWordChar
    if c.peek = '!' then return ("!" ++ String.ofList name ++ "!", c.next) else throw .malformed

/-- Reads a tag: in angle brackets, behind a handle, or a lone exclamation mark. -/
def readTag (c : Cursor) : Except Fault (Token × Cursor) := do
  let (token, c) ←
    if c.peek 1 = '<' then do
      let (suffix, c) ← readTagText (c.skip 2)
      if c.peek = '>' then pure (Token.tag none suffix, c.next) else throw .malformed
    else if isGapOrEnd (c.peek 1) then pure (Token.tag none "!", c.next)
    else do
      let word := (c.rest.drop 1).takeWhile fun ch => !isSpaceOrBreakOrEnd ch
      let (handle, c) ← if '!' ∈ word then readHandle c else pure ("!", c.next)
      let (suffix, c) ← readTagText c
      pure (Token.tag (some handle) suffix, c)
  if isSpaceOrBreakOrEnd c.peek then return (token, c) else throw .malformed

/-! ### Directives -/

/-- Reads a decimal number that is not empty. -/
def readNumber (c : Cursor) : Except Fault (Nat × Cursor) :=
  let (digits, c) := c.span Char.isDigit
  if digits.isEmpty then throw .malformed
  else return (digits.foldl (fun n d => n * 10 + (d.toNat - '0'.toNat)) 0, c)

/-- Reads a version: two numbers with a point between them. -/
def readVersion (c : Cursor) : Except Fault (Token × Cursor) := do
  let (major, c) ← readNumber c.skipSpaces
  if c.peek ≠ '.' then throw .malformed
  let (_, c) ← readNumber c.next
  if isSpaceOrBreakOrEnd c.peek then return (.version major, c) else throw .malformed

/-- Reads a tag handle and the text that it stands for. -/
def readHandleMeaning (c : Cursor) : Except Fault (Token × Cursor) := do
  let (name, c) ← readHandle c.skipSpaces
  if c.peek ≠ ' ' then throw .malformed
  let (start, c) ← readTagText c.skipSpaces
  if isSpaceOrBreakOrEnd c.peek then return (.handle name start, c) else throw .malformed

/-- Reads a directive and the rest of its line. -/
def readDirective (c : Cursor) : Except Fault (Token × Cursor) := do
  let (name, c) := c.next.span isWordChar
  if name.isEmpty ∨ ¬isSpaceOrBreakOrEnd c.peek then throw .malformed
  let (token, c) ←
    match String.ofList name with
    | "YAML" => readVersion c
    | "TAG" => readHandleMeaning c
    | _ => pure (Token.otherDirective, c.skipWhile fun ch => !isBreak ch)
  let c := c.skipSpaces.skipComment
  if c.rest.isEmpty then return (token, c)
  else
    match c.lineBreak? with
    | some (_, c) => return (token, c)
    | none => throw .malformed

end SignalBinding.Yaml
