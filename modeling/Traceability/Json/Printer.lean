import Traceability.Json.Basic

/-!
Printing JSON over several lines, with two spaces for each level.

An empty array or object stays on one line.  A string escapes the quote, the
backslash and the control characters, and nothing else.
-/

namespace Traceability.Json

def hexDigit (value : Nat) : Char :=
  Char.ofNat (if value < 10 then '0'.toNat + value else 'a'.toNat + (value - 10))

def printCharacter (c : Char) : Text :=
  if c == '\x22' then ['\\', '\x22']
  else if c == '\\' then ['\\', '\\']
  else if c == '\x08' then ['\\', 'b']
  else if c == '\x0c' then ['\\', 'f']
  else if c == '\n' then ['\\', 'n']
  else if c == '\r' then ['\\', 'r']
  else if c == '\t' then ['\\', 't']
  else if c.toNat < 0x20 then
    ['\\', 'u', '0', '0', hexDigit (c.toNat / 16), hexDigit (c.toNat % 16)]
  else [c]

def printText (text : Text) : Text :=
  '\x22' :: text.flatMap printCharacter ++ ['\x22']

def newLine (level : Nat) : Text :=
  '\n' :: List.replicate (2 * level) ' '

mutual

/-- A value whose first character stands on a line of the given level. -/
def printAt (level : Nat) : Json → Text
  | .null => "null".toList
  | .boolean true => "true".toList
  | .boolean false => "false".toList
  | .number literal => literal
  | .string value => printText (value.getD [])
  | .array [] => "[]".toList
  | .array (first :: others) =>
      '[' :: newLine (level + 1) ++ printAt (level + 1) first ++
        printElements (level + 1) others ++ newLine level ++ [']']
  | .object [] => ['\x7b', '\x7d']
  | .object ((name, first) :: others) =>
      '\x7b' :: newLine (level + 1) ++ printText (name.getD []) ++ ": ".toList ++
        printAt (level + 1) first ++ printMembers (level + 1) others ++ newLine level ++
        ['\x7d']

def printElements (level : Nat) : List Json → Text
  | [] => []
  | element :: others =>
      ',' :: newLine level ++ printAt level element ++ printElements level others

def printMembers (level : Nat) : List (JsonString × Json) → Text
  | [] => []
  | (name, value) :: others =>
      ',' :: newLine level ++ printText (name.getD []) ++ ": ".toList ++ printAt level value ++
        printMembers level others

end

def pretty (value : Json) : Text :=
  printAt 0 value

end Traceability.Json
