import Traceability.Text.CharClass
import Traceability.Text.Property.Unprintable

/-!
Text in double quotes, as a path is shown in a message.

Quotes and backslashes are escaped, the common control characters have short escapes,
and every other character that cannot be shown on its own is given by its code point.
-/

namespace Traceability.Text

def hexDigits (number : Nat) : Text :=
  Nat.toDigits 16 number

def quoteCharacter (c : Char) : Text :=
  if c == '\x22' || c == '\\' then ['\\', c]
  else if c == '\t' then ['\\', 't']
  else if c == '\n' then ['\\', 'n']
  else if c == '\r' then ['\\', 'r']
  else if c == '\x00' then ['\\', '0']
  else if inRanges Property.unprintable c.toNat then
    ['\\', 'u', '\x7b'] ++ hexDigits c.toNat ++ ['\x7d']
  else [c]

def quoted (text : Text) : Text :=
  '\x22' :: text.flatMap quoteCharacter ++ ['\x22']

end Traceability.Text
