/-!
# Bytes as text

Bytes are written as digits to the base sixty-four, six bits each. Four digits make three bytes; one
or two equals signs stand for the digits that are missing from the last four. Other characters do
not count, as long as they are ASCII characters.

## Main definitions

- `bytesOf?`: the bytes of a text
-/

namespace SignalBinding.Yaml

/-- The value of a digit to the base sixty-four. -/
def sixBits? (c : Char) : Option Nat :=
  if c.isUpper then some (c.toNat - 'A'.toNat)
  else if c.isLower then some (c.toNat - 'a'.toNat + 26)
  else if c.isDigit then some (c.toNat - '0'.toNat + 52)
  else if c = '+' then some 62
  else if c = '/' then some 63
  else none

/--
The bytes of some characters behind `count` digits of a group of four, of which the bits `left` are
in no byte yet, and behind `signs` equals signs. A full group ends the text if a sign is in it.
-/
def groupedBytes? : Nat → Nat → Nat → List Char → Option (List UInt8)
  | count, _, _, [] => if count = 0 then some [] else none
  | count, left, signs, c :: rest =>
    if c = '=' then
      if count < 2 then groupedBytes? count left signs rest
      else if 4 ≤ count + signs + 1 then some []
      else groupedBytes? count left (signs + 1) rest
    else
      match sixBits? c, count with
      | none, _ => groupedBytes? count left signs rest
      | some d, 0 => groupedBytes? 1 d 0 rest
      | some d, 1 => (groupedBytes? 2 (d % 16) 0 rest).map (UInt8.ofNat (left * 4 + d / 16) :: ·)
      | some d, 2 => (groupedBytes? 3 (d % 4) 0 rest).map (UInt8.ofNat (left * 16 + d / 4) :: ·)
      | some d, _ => (groupedBytes? 0 0 0 rest).map (UInt8.ofNat (left * 64 + d) :: ·)

/-- The bytes of a text; none if digits are missing or a character is not an ASCII one. -/
def bytesOf? (cs : List Char) : Option (List UInt8) :=
  if cs.all fun c => c.toNat < 0x80 then groupedBytes? 0 0 0 cs else none

example : ["aGk=", "a G\nk=", "aGkh", "", "aGk", "aGké"].map (bytesOf? ·.toList) =
    [some [0x68, 0x69], some [0x68, 0x69], some [0x68, 0x69, 0x21], some [], none, none] := by
  decide

end SignalBinding.Yaml
