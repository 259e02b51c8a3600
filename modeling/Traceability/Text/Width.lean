import Traceability.Text.Width.Sequence

/-!
The number of terminal columns that a text takes.

Most characters take one column, wide ones take two, and combining ones take
none.  Emoji sequences and the ligatures of some scripts are exceptions to the sum.
Whether a character belongs to a sequence depends on what follows it, so the width is
computed from the right, and each step hands the character before it what it has to
know about its successor.  A variation selector acts on the character before it; inside
a ligature it changes nothing, so the ligature is kept beside it.
-/

namespace Traceability.Text

/-- What the characters to the right say about the next character on their left: the
sequence that they begin, and the selectors that stand before it, of which the last one makes
a quotation mark wide. -/
structure Successor where
  sequence : Sequence := .plain
  emoji : Bool := false
  text : Bool := false
  quotation : Bool := false
  deriving DecidableEq, Repr

namespace Successor

def isLigature (next : Successor) : Bool :=
  match next.sequence with
  | .ligature _ => true
  | _ => false

def isJoined (next : Successor) : Bool :=
  next.sequence == .joinedEmoji || next.sequence == .joinedKeycap

def selectEmoji (next : Successor) : Successor :=
  if next.isLigature || next.isJoined then { next with emoji := true } else { emoji := true }

def selectText (next : Successor) : Successor :=
  if next.isLigature then { next with text := true } else { text := true }

def selectQuotation (next : Successor) : Successor :=
  if next.isLigature then { next with quotation := true } else { quotation := true }

/-- What remains when the emoji selector has no effect. -/
def dropEmoji (next : Successor) : Successor :=
  if next.isLigature then { next with emoji := false } else {}

/-- What a character says to its left that is skipped inside a ligature. -/
def skip? (next : Successor) (c : Char) : Option Successor :=
  match next.sequence with
  | .ligature part =>
      if !part.isLoose then none
      else if isJoiner c then some { next with sequence := .ligature part.join }
      else if isInvisibleMark c then some next
      else none
  | _ => none

end Successor

def takesEmojiSelector (c : Char) : Bool :=
  inRanges Property.emojiSelectable c.toNat

def takesTextSelector (c : Char) : Bool :=
  inRanges Property.textSelectable c.toNat

def isQuotation (c : Char) : Bool :=
  within 0x2018 0x2019 c || within 0x201C 0x201D c

def widthBeforeSequence (c : Char) (next : Successor) : Int × Successor :=
  match next.skip? c with
  | some same => (0, same)
  | none =>
      let joined := if next.quotation then none else next.sequence.precededBy? c
      let (columns, sequence) := joined.getD (Sequence.startedBy c)
      (columns, { sequence })

/-- The columns of a character before a text or quotation selector, or a sequence. -/
def widthBeforeSelector (c : Char) (next : Successor) : Int × Successor :=
  if c.toNat ≤ 0xA0 then
    if c == '\n' then (1, { sequence := .lineFeed })
    else if c == '\r' && next.sequence == .lineFeed then (0, {})
    else (1, {})
  else if c.toNat == 0xFE0F then (0, next.selectEmoji)
  else if c.toNat == 0xFE0E then (0, next.selectText)
  else if c.toNat == 0xFE01 then (0, next.selectQuotation)
  else if next.text then
    if takesTextSelector c then (1, {}) else widthBeforeSequence c { next with text := false }
  else if next.quotation then
    if isQuotation c then (2, {}) else widthBeforeSequence c { next with quotation := false }
  else
    widthBeforeSequence c next

/-- The columns that a character adds in front of its successors, and what it says
to its left. -/
def widthBefore (c : Char) (next : Successor) : Int × Successor :=
  if next.emoji then
    if takesEmojiSelector c then (if next.isJoined then 0 else 2, { sequence := .emoji })
    else widthBeforeSelector c next.dropEmoji
  else
    widthBeforeSelector c next

/-- The width of a text and what its first character says to its left. -/
def measure : Text → Int × Successor
  | [] => (0, {})
  | c :: rest =>
      let (columns, next) := measure rest
      let (added, successor) := widthBefore c next
      (columns + added, successor)

def width (text : Text) : Nat :=
  (measure text).1.toNat

end Traceability.Text
