import Traceability.Json.Basic

/-!
Reading JSON.

The reader is strict: no comments, no trailing commas, no control characters in
strings, no leading zeros.  The values nest at most as deep as the text is long, which
bounds the recursion.
-/

namespace Traceability.Json

def isBlank (c : Char) : Bool :=
  c == ' ' || c == '\t' || c == '\n' || c == '\r'

def skipBlanks (text : Text) : Text :=
  text.dropWhile isBlank

/-! ### Strings -/

inductive StringUnit
  | character (c : Char)
  /-- A unit of UTF-16 given by its four hexadecimal digits. -/
  | escaped (code : Nat)
  deriving DecidableEq, Repr

def hexValue? (c : Char) : Option Nat :=
  if '0' ≤ c && c ≤ '9' then some (c.toNat - '0'.toNat)
  else if 'a' ≤ c && c ≤ 'f' then some (c.toNat - 'a'.toNat + 10)
  else if 'A' ≤ c && c ≤ 'F' then some (c.toNat - 'A'.toNat + 10)
  else none

def hexNumber? (digits : List Char) : Option Nat :=
  (digits.mapM hexValue?).map fun values => values.foldl (fun number value => 16 * number + value) 0

def shortEscape? : Char → Option Char
  | '\x22' => some '\x22'
  | '\\' => some '\\'
  | '/' => some '/'
  | 'b' => some '\x08'
  | 'f' => some '\x0c'
  | 'n' => some '\n'
  | 'r' => some '\r'
  | 't' => some '\t'
  | _ => none

def readUnits? : Text → Option (List StringUnit × Text)
  | [] => none
  | '\x22' :: rest => some ([], rest)
  | '\\' :: 'u' :: a :: b :: c :: d :: rest => do
      let code ← hexNumber? [a, b, c, d]
      let (units, after) ← readUnits? rest
      return (.escaped code :: units, after)
  | '\\' :: escape :: rest => do
      let c ← shortEscape? escape
      let (units, after) ← readUnits? rest
      return (.character c :: units, after)
  | c :: rest =>
      if c.toNat < 0x20 || c == '\\' then
        none
      else
        (readUnits? rest).map fun (units, after) => (.character c :: units, after)

/-- The text of the units: two escapes that form a surrogate pair are one character,
and half of a pair is none. -/
def textOfUnits : List StringUnit → JsonString
  | [] => some []
  | .character c :: rest => (textOfUnits rest).map (c :: ·)
  | .escaped code :: rest =>
      if 0xD800 ≤ code && code < 0xDC00 then
        match rest with
        | .escaped low :: others =>
            if 0xDC00 ≤ low && low < 0xE000 then
              (textOfUnits others).map
                (Char.ofNat (0x10000 + (code - 0xD800) * 0x400 + (low - 0xDC00)) :: ·)
            else
              none
        | _ => none
      else if 0xDC00 ≤ code && code < 0xE000 then
        none
      else
        (textOfUnits rest).map (Char.ofNat code :: ·)

def readString? (text : Text) : Option (JsonString × Text) :=
  (readUnits? text).map fun (units, rest) => (textOfUnits units, rest)

/-! ### Numbers -/

def isDigit (c : Char) : Bool :=
  '0' ≤ c && c ≤ '9'

def readDigits? (text : Text) : Option (Text × Text) :=
  let digits := text.takeWhile isDigit
  if digits.isEmpty then none else some (digits, text.dropWhile isDigit)

/-- The whole part of a number: a zero, or digits that do not start with one. -/
def readWhole? : Text → Option (Text × Text)
  | '0' :: rest => if rest.head?.any isDigit then none else some (['0'], rest)
  | text => readDigits? text

def readFraction? : Text → Option (Text × Text)
  | '.' :: rest => (readDigits? rest).map fun (digits, after) => ('.' :: digits, after)
  | text => some ([], text)

def readSign : Text → Text × Text
  | '+' :: rest => (['+'], rest)
  | '-' :: rest => (['-'], rest)
  | text => ([], text)

def readExponent? : Text → Option (Text × Text)
  | c :: rest =>
      if c == 'e' || c == 'E' then
        let (sign, afterSign) := readSign rest
        (readDigits? afterSign).map fun (digits, after) => (c :: (sign ++ digits), after)
      else
        some ([], c :: rest)
  | [] => some ([], [])

def readUnsigned? (text : Text) : Option (Text × Text) := do
  let (whole, afterWhole) ← readWhole? text
  let (fraction, afterFraction) ← readFraction? afterWhole
  let (exponent, rest) ← readExponent? afterFraction
  return (whole ++ fraction ++ exponent, rest)

def readNumber? : Text → Option (Text × Text)
  | '-' :: rest => (readUnsigned? rest).map fun (literal, after) => ('-' :: literal, after)
  | text => readUnsigned? text

/-! ### Values -/

def readWord? (text : Text) : Option (Json × Text) :=
  (("null".toList.isPrefixOf? text).map fun rest => (.null, rest)) <|>
    (("true".toList.isPrefixOf? text).map fun rest => (.boolean true, rest)) <|>
    (("false".toList.isPrefixOf? text).map fun rest => (.boolean false, rest))

mutual

def readValue? : Nat → Text → Option (Json × Text)
  | 0, _ => none
  | bound + 1, text =>
      match skipBlanks text with
      | '\x22' :: rest => (readString? rest).map fun (value, after) => (.string value, after)
      | '[' :: rest =>
          match skipBlanks rest with
          | ']' :: after => some (.array [], after)
          | elements =>
              (readElements? bound elements).map fun (values, after) => (.array values, after)
      | '\x7b' :: rest =>
          match skipBlanks rest with
          | '\x7d' :: after => some (.object [], after)
          | members =>
              (readMembers? bound members).map fun (values, after) => (.object values, after)
      | token =>
          readWord? token <|>
            (readNumber? token).map fun (literal, after) => (.number literal, after)

/-- The elements of an array, of which there is one at least, up to its end. -/
def readElements? : Nat → Text → Option (List Json × Text)
  | 0, _ => none
  | bound + 1, text => do
      let (value, afterValue) ← readValue? bound text
      match skipBlanks afterValue with
      | ']' :: after => return ([value], after)
      | ',' :: others =>
          let (values, after) ← readElements? bound others
          return (value :: values, after)
      | _ => none

def readMembers? : Nat → Text → Option (List (JsonString × Json) × Text)
  | 0, _ => none
  | bound + 1, text =>
      match skipBlanks text with
      | '\x22' :: rest => do
          let (name, afterName) ← readString? rest
          match skipBlanks afterName with
          | ':' :: afterColon =>
              let (value, afterValue) ← readValue? bound afterColon
              match skipBlanks afterValue with
              | '\x7d' :: after => return ([(name, value)], after)
              | ',' :: others =>
                  let (values, after) ← readMembers? bound others
                  return ((name, value) :: values, after)
              | _ => none
          | _ => none
      | _ => none

end

def parse? (text : Text) : Option Json := do
  let (value, rest) ← readValue? (text.length + 1) text
  if (skipBlanks rest).isEmpty then some value else none

end Traceability.Json
