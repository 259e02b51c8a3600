import Traceability.Text.Property.Alphabetic
import Traceability.Text.Property.Numeric
import Traceability.Text.Property.Word
import Traceability.Text.Basic

/-!
Classes of characters and the text operations that depend on them.

Three classes matter.  White space is trimmed, and it may stand between `&` and
`::` in a batch comment mark.  Alphanumeric characters make a comment line count
as written on.  Word characters form the qualifier of a tag, and one of
them before a keyword hides it.  Below code point 128 each class is spelled out.
-/

namespace Traceability.Text

def inRanges (ranges : List (Nat × Nat)) (code : Nat) : Bool :=
  ranges.any fun (low, high) => low ≤ code && code ≤ high

def isAsciiAlphanumeric (c : Char) : Bool :=
  ('0' ≤ c && c ≤ '9') || ('A' ≤ c && c ≤ 'Z') || ('a' ≤ c && c ≤ 'z')

/-- The Unicode property White_Space. -/
def isSpace (c : Char) : Bool :=
  let code := c.toNat
  (0x9 ≤ code && code ≤ 0xD) || code == 0x20 || code == 0x85 || code == 0xA0 ||
    code == 0x1680 || (0x2000 ≤ code && code ≤ 0x200A) || code == 0x2028 ||
    code == 0x2029 || code == 0x202F || code == 0x205F || code == 0x3000

/-- Alphabetic, or of one of the three number categories. -/
def isAlphanumeric (c : Char) : Bool :=
  if c.toNat < 128 then
    isAsciiAlphanumeric c
  else
    inRanges Property.alphabetic c.toNat || inRanges Property.numeric c.toNat

/-- A word character: alphabetic, a mark, a decimal digit, connector punctuation
or a join control. -/
def isWord (c : Char) : Bool :=
  if c.toNat < 128 then
    isAsciiAlphanumeric c || c == '_'
  else
    inRanges Property.word c.toNat

/-! ### Trimming -/

def trimLeft (drop : Char → Bool) (text : Text) : Text :=
  text.dropWhile drop

def trimRight (drop : Char → Bool) (text : Text) : Text :=
  (text.reverse.dropWhile drop).reverse

def trim (text : Text) : Text :=
  trimRight isSpace (trimLeft isSpace text)

/-! ### ASCII letter case -/

def asciiLower (c : Char) : Char :=
  if 'A' ≤ c && c ≤ 'Z' then Char.ofNat (c.toNat + 32) else c

def equalIgnoringCase (left right : Text) : Bool :=
  left.map asciiLower == right.map asciiLower

end Traceability.Text
