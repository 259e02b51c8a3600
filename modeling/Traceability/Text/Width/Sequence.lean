import Traceability.Text.Property.Emoji
import Traceability.Text.Property.Width
import Traceability.Text.CharClass

/-!
Character sequences that take fewer or more columns than their characters.

A text is measured from its end.  What has to be known about the characters to the
right of a place is how far a sequence has come there: a `Sequence`.  A character
either joins the sequence to its right, as `Sequence.precededBy?` says, or it starts
anew with its own width.
-/

namespace Traceability.Text

/-- The right part of a ligature of two or three letters: Arabic, Hebrew, Buginese (`ya` and the
vowel sign before it), Tifinagh (the consonants), Lisu, Old Turkic and Khmer.  `joined` says that
a joiner stands before it. -/
inductive Ligature
  | alef
  | lamed (joined : Bool)
  | ya (joined : Bool)
  | vowelBeforeYa
  | consonant (joined : Bool)
  | joinedConsonant
  | tone
  | orkhonI (joined : Bool)
  | subscriptLetter
  deriving DecidableEq, Repr

/-- The tags of a flag, read from their end: some letters, or digits before them. -/
inductive FlagTags
  | letters (count : Nat)
  | digits (count : Nat)
  deriving DecidableEq, Repr

/-- What the characters to the right say about the next character on their left.  A joiner stands
before what is joined, `indicators` are two or more, `even` tells their number, and
`vowelSigns` and `vowelPairs` are an odd and an even number of Kirat Rai vowel signs E. -/
inductive Sequence
  | plain
  | lineFeed
  | modifier
  | emoji
  | joinedEmoji
  | joinedKeycap
  | joinedTags (tags : FlagTags)
  | indicator
  | indicators
  | joinedIndicator
  | joinedIndicators (even : Bool)
  | vowelSigns
  | vowelPairs
  | ligature (part : Ligature)
  deriving DecidableEq, Repr

/-! ### Classes of characters -/

def within (low high : Nat) (c : Char) : Bool :=
  low ≤ c.toNat && c.toNat ≤ high

def isRegionalIndicator (c : Char) : Bool :=
  within 0x1F1E6 0x1F1FF c

def isEmojiModifier (c : Char) : Bool :=
  within 0x1F3FB 0x1F3FF c

def isEmoji (c : Char) : Bool :=
  inRanges Property.emojiPresentation c.toNat

def isJoiner (c : Char) : Bool :=
  c.toNat == 0x200D

/-- A combining mark that is drawn as nothing; it may stand inside a ligature. -/
def isInvisibleMark (c : Char) : Bool :=
  c.toNat == 0x34F || within 0x17B4 0x17B5 c || within 0x180B 0x180D c || c.toNat == 0x180F ||
    within 0xFE00 0xFE0F c || within 0xE0100 0xE01EF c

def isLam (c : Char) : Bool :=
  c.toNat == 0x644 || within 0x6B5 0x6B8 c || c.toNat == 0x76A || c.toNat == 0x8A6 ||
    c.toNat == 0x8C7

def isAlef (c : Char) : Bool :=
  within 0x622 0x623 c || c.toNat == 0x625 || c.toNat == 0x627 || within 0x671 0x673 c ||
    c.toNat == 0x675 || within 0x773 0x774 c || within 0x870 0x882 c

/-- A mark between two Arabic letters that lets them join. -/
def isArabicMark (c : Char) : Bool :=
  inRanges Property.zeroWidth c.toNat && !inRanges Property.joinBreaking c.toNat

def isTifinaghConsonant (c : Char) : Bool :=
  within 0x2D31 0x2D65 c || c.toNat == 0x2D6F

/-- A Khmer letter whose subscript form stands below the letter before it. -/
def hasSubscript (c : Char) : Bool :=
  within 0x1780 0x1782 c || within 0x1784 0x1787 c || within 0x1789 0x178C c ||
    within 0x178E 0x1793 c || within 0x1795 0x1798 c || within 0x179B 0x179D c ||
    c.toNat == 0x17A0 || c.toNat == 0x17A2 || c.toNat == 0x17A7 || within 0x17AB 0x17AC c ||
    c.toNat == 0x17AF

def Ligature.startedBy? (c : Char) : Option Ligature :=
  if isAlef c then some .alef
  else if c.toNat == 0x5DC then some (.lamed false)
  else if c.toNat == 0x1A10 then some (.ya false)
  else if isTifinaghConsonant c then some (.consonant false)
  else if within 0xA4FC 0xA4FD c then some .tone
  else if c.toNat == 0x10C03 then some (.orkhonI false)
  else if hasSubscript c then some .subscriptLetter
  else none

/-! ### Joining -/

def Ligature.join : Ligature → Ligature
  | lamed _ => lamed true
  | ya _ => ya true
  | consonant _ => consonant true
  | orkhonI _ => orkhonI true
  | other => other

/-- Invisible marks and joiners may stand inside every ligature but the Arabic one,
which has rules of its own. -/
def Ligature.isLoose : Ligature → Bool
  | alef => false
  | _ => true

/-- The columns that a character adds to the ligature on its right, and what it says to
its left. -/
def Ligature.precededBy? (part : Ligature) (c : Char) : Option (Int × Sequence) :=
  match part with
  | alef =>
      if isLam c then some (0, .plain)
      else if isArabicMark c then some (0, .ligature alef)
      else none
  | lamed joined => if joined && c.toNat == 0x5D0 then some (0, .plain) else none
  | ya joined => if joined && c.toNat == 0x1A17 then some (0, .ligature vowelBeforeYa) else none
  | vowelBeforeYa => if c.toNat == 0x1A15 then some (0, .plain) else none
  | consonant joined =>
      if c.toNat == 0x2D7F then some (1, .ligature joinedConsonant)
      else if joined && isTifinaghConsonant c then some (0, .plain)
      else none
  | joinedConsonant => if isTifinaghConsonant c then some (-1, .plain) else none
  | tone => if within 0xA4F8 0xA4FB c then some (0, .plain) else none
  | orkhonI joined => if joined && c.toNat == 0x10C32 then some (0, .plain) else none
  | subscriptLetter => if c.toNat == 0x17D2 then some (-1, .plain) else none

/-- The tags of a flag with one more before them, or the flag itself.  A flag has at
least three tags, and at most six letters or three digits stand together. -/
def FlagTags.precededBy? (tags : FlagTags) (c : Char) : Option (Int × Sequence) :=
  let letter := within 0xE0061 0xE007A c
  let digit := within 0xE0030 0xE0039 c
  let flag := c.toNat == 0x1F3F4
  match tags with
  | letters count =>
      if letter && count < 6 then some (0, .joinedTags (letters (count + 1)))
      else if digit && count ≤ 4 then some (0, .joinedTags (digits 1))
      else if flag && 3 ≤ count then some (0, .emoji)
      else none
  | digits count =>
      if digit && count < 3 then some (0, .joinedTags (digits (count + 1)))
      else if flag && count == 3 then some (0, .emoji)
      else none

def joinedEmojiPrecededBy? (c : Char) : Option (Int × Sequence) :=
  if c.toNat == 0x20E3 then some (0, .joinedKeycap)
  else if isRegionalIndicator c then some (1, .joinedIndicator)
  else if isEmojiModifier c then some (0, .modifier)
  else if c.toNat == 0xE007F then some (0, .joinedTags (.letters 0))
  else if isEmoji c then some (0, .emoji)
  else none

/-- The columns that a Kirat Rai vowel sign adds before vowel signs E.  Two signs E are
one sign AI, and either joins a sign AA before it. -/
def vowelSignsPrecededBy? (c : Char) : Option (Int × Sequence) :=
  if c.toNat == 0x16D63 || c.toNat == 0x16D69 then some (0, .plain)
  else if c.toNat == 0x16D67 then some (0, .vowelPairs)
  else if c.toNat == 0x16D68 then some (1, .vowelSigns)
  else none

/-- The columns that a character adds to the sequence on its right, and what it says to
its left; nothing where it does not join. -/
def Sequence.precededBy? (next : Sequence) (c : Char) : Option (Int × Sequence) :=
  match next with
  | plain | lineFeed | joinedKeycap => none
  | modifier =>
      if inRanges Property.modifierBase c.toNat then some (0, emoji)
      else if isJoiner c then some (0, joinedEmoji)
      else none
  | emoji => if isJoiner c then some (0, joinedEmoji) else none
  | joinedEmoji => joinedEmojiPrecededBy? c
  | joinedTags tags => tags.precededBy? c
  | indicator => if isRegionalIndicator c then some (1, indicators) else none
  | indicators =>
      if isRegionalIndicator c then some (1, indicators)
      else if isJoiner c then some (0, joinedEmoji)
      else none
  | joinedIndicator => if isRegionalIndicator c then some (-1, joinedIndicators true) else none
  | joinedIndicators even =>
      if isRegionalIndicator c then some (if even then 3 else -1, joinedIndicators !even)
      else if isJoiner c then some (0, joinedEmoji)
      else none
  | vowelSigns => vowelSignsPrecededBy? c
  | vowelPairs => if c.toNat == 0x16D63 then some (0, plain) else none
  | ligature part => part.precededBy? c

def Sequence.startedBy (c : Char) : Int × Sequence :=
  let code := c.toNat
  if isRegionalIndicator c then (1, indicator)
  else if isEmojiModifier c then (2, modifier)
  else if isEmoji c then (2, emoji)
  else if code == 0x17D8 then (3, plain)
  else if inRanges Property.zeroWidth code then (0, plain)
  else if inRanges Property.wide code then (2, plain)
  else if code == 0x16D67 then (1, vowelSigns)
  else if code == 0x16D68 then (1, vowelPairs)
  else (1, ((Ligature.startedBy? c).map ligature).getD plain)

end Traceability.Text
