/-!
# Blank characters

The characters that separate words, and the texts left when they, or other unwanted characters,
are taken off both ends.
-/

namespace SignalBinding.Text

/--
White space: the characters with the Unicode property `White_Space` and the four information
separators U+001C to U+001F.
-/
def isBlank (c : Char) : Bool :=
  let n := c.toNat
  (9 ≤ n && n ≤ 13) || (28 ≤ n && n ≤ 32) || n == 0x85 || n == 0xa0 || n == 0x1680 ||
    (0x2000 ≤ n && n ≤ 0x200a) || n == 0x2028 || n == 0x2029 || n == 0x202f || n == 0x205f ||
    n == 0x3000

example :
    ("\t\n\x0b\x0c\r\x1c\x1d\x1e\x1f \u0085\u00a0\u2003\u3000".toList.all isBlank) = true := by
  decide

example : ("a_\u200b\ufeff\u180e".toList.any isBlank) = false := by decide

/-- What is left of `cs` without the characters in `p` at its end. -/
def trimRight (p : Char → Bool) (cs : List Char) : List Char :=
  (cs.reverse.dropWhile p).reverse

/-- What is left of `cs` without the characters in `p` at either end. -/
def trim (p : Char → Bool) (cs : List Char) : List Char :=
  trimRight p (cs.dropWhile p)

/-- Whether the text has no character but blank ones. -/
def allBlank (s : String) : Bool :=
  s.toList.all isBlank

end SignalBinding.Text
