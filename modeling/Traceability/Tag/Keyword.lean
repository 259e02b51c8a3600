import Traceability.Tag.Basic

/-!
The search for a keyword in a line of comment text.

A keyword counts where no word character stands before it and a colon follows it,
either at once or after a qualifier in parentheses.  The leftmost requirement is
taken; only a text without one is searched for a satisfaction.
-/

namespace Traceability

/-- A keyword found in a text.  `stop` counts the bytes up to the end of its colon. -/
structure KeywordHit where
  kind : TagKind
  qualifier : Option Text
  stop : Nat
  deriving DecidableEq, Repr

namespace KeywordHit

open Text (byteLength isWord)

/-- What follows the keyword at the front of a text: the qualifier, if there is one,
and the text after the colon. -/
def afterKeyword? : Text → Option (Option Text × Text)
  | ':' :: rest => some (none, rest)
  | '(' :: rest =>
      let word := rest.takeWhile isWord
      match rest.dropWhile isWord with
      | ')' :: ':' :: after => if word.isEmpty then none else some (some word, after)
      | _ => none
  | _ => none

def atFront? (keyword text : Text) : Option (Option Text × Text) :=
  (keyword.isPrefixOf? text).bind afterKeyword?

/-- The leftmost keyword of one kind in the rest of a text, which starts after
`offset` bytes; `hidden` says that a word character stands right before it. -/
def findFrom (kind : TagKind) (hidden : Bool) (offset : Nat) :
    Text → Option KeywordHit
  | [] => none
  | c :: rest =>
      match if hidden then none else atFront? kind.keyword (c :: rest) with
      | some (qualifier, after) =>
          some { kind, qualifier,
                 stop := offset + (byteLength (c :: rest) - byteLength after) }
      | none => findFrom kind (isWord c) (offset + c.utf8Size) rest

def findKind (kind : TagKind) (text : Text) : Option KeywordHit :=
  findFrom kind false 0 text

def find (text : Text) : Option KeywordHit :=
  (findKind .require text).or (findKind .satisfied text)

end KeywordHit
end Traceability
