import Traceability.Text.Basic

/-!
Glob patterns over paths.

`?` stands for any character, `*` for any characters, `[…]` for one of several and
`[!…]` for one of all others; all of them also match `/`.  `**` has to be a whole
component of the pattern and takes the separator after it with it: it stands for any
number of directories.
-/

namespace Traceability

inductive GlobRange
  | single (c : Char)
  | between (low high : Char)
  deriving DecidableEq, Repr

def GlobRange.accepts : GlobRange → Char → Bool
  | .single c, other => c == other
  | .between low high, other => low ≤ other && other ≤ high

inductive GlobToken
  | exactly (c : Char)
  | anyCharacter
  | anySequence
  | anyDirectories
  | oneOf (ranges : List GlobRange)
  | noneOf (ranges : List GlobRange)
  deriving DecidableEq, Repr

structure GlobPattern where
  tokens : List GlobToken
  deriving DecidableEq, Repr

inductive GlobFault
  | tooManyStars
  | partOfComponent
  | invalidRange
  deriving DecidableEq, Repr

structure GlobError where
  position : Nat
  fault : GlobFault
  deriving DecidableEq, Repr

def GlobError.message (error : GlobError) : Text :=
  "Pattern syntax error near position ".toList ++ Text.ofNat error.position ++ ": ".toList ++
    match error.fault with
    | .tooManyStars => "wildcards are either regular `*` or recursive `**`".toList
    | .partOfComponent => "recursive wildcards must form a single path component".toList
    | .invalidRange => "invalid range pattern".toList

namespace GlobPattern

/-! ### Reading -/

/-- The characters between brackets as ranges: a minus sign between two characters
makes a range of them. -/
def rangesOf : Text → List GlobRange
  | low :: '-' :: high :: rest => .between low high :: rangesOf rest
  | c :: rest => .single c :: rangesOf rest
  | [] => []

/-- The characters between brackets up to the closing one, which may not be the first
of them, and the text after it. -/
def bracketed? : Text → Option (Text × Text)
  | [] => none
  | first :: rest =>
      match rest.dropWhile (· != ']') with
      | [] => none
      | _ :: after => some (first :: rest.takeWhile (· != ']'), after)

def classToken? : Text → Option (GlobToken × Text)
  | '!' :: rest => (bracketed? rest).map fun (chars, after) => (.noneOf (rangesOf chars), after)
  | rest => (bracketed? rest).map fun (chars, after) => (.oneOf (rangesOf chars), after)

/-- The tokens of the rest of a pattern, which starts at `position` and follows the
character `previous`.  Each step takes at least one character, so the length of the
text bounds their number. -/
def tokensFrom : Nat → Nat → Option Char → Text → Except GlobError (List GlobToken)
  | 0, _, _, _ => .ok []
  | _ + 1, _, _, [] => .ok []
  | bound + 1, position, _, '?' :: rest =>
      (tokensFrom bound (position + 1) (some '?') rest).map (.anyCharacter :: ·)
  | bound + 1, position, _, '[' :: rest =>
      match classToken? rest with
      | none => .error { position, fault := .invalidRange }
      | some (token, after) =>
          (tokensFrom bound (position + 1 + (rest.length - after.length)) (some ']') after).map
            (token :: ·)
  | bound + 1, position, previous, '*' :: rest =>
      let stars := rest.takeWhile (· == '*')
      let after := rest.dropWhile (· == '*')
      match stars with
      | [] => (tokensFrom bound (position + 1) (some '*') rest).map (.anySequence :: ·)
      | [_] =>
          if previous == none || previous == some '/' then
            match after with
            | [] => .ok [.anyDirectories]
            | '/' :: others =>
                (tokensFrom bound (position + 3) (some '/') others).map (.anyDirectories :: ·)
            | _ => .error { position := position + 2, fault := .partOfComponent }
          else
            .error { position := position - 1, fault := .partOfComponent }
      | _ => .error { position := position + 2, fault := .tooManyStars }
  | bound + 1, position, _, c :: rest =>
      (tokensFrom bound (position + 1) (some c) rest).map (.exactly c :: ·)

/-- Appends a token.  Any number of directories after any number of directories adds
nothing, unless there is no other token before them. -/
def append (tokens : List GlobToken) (token : GlobToken) : List GlobToken :=
  if token = .anyDirectories ∧ tokens.getLast? = some .anyDirectories ∧ 1 < tokens.length then
    tokens
  else
    tokens ++ [token]

def parse (text : Text) : Except GlobError GlobPattern :=
  (tokensFrom (text.length + 1) 0 none text).map fun tokens => { tokens := tokens.foldl append [] }

/-! ### Matching -/

inductive Outcome
  | matched
  | mismatched
  /-- The text is exhausted, so no other start can match. -/
  | exhausted
  deriving DecidableEq, Repr

/-- Tries the rest of a pattern after each further character of a class, and at the end
of the text when all that fails. -/
def tryAfter (rest : Text → Outcome) (isPlace : Char → Bool) : Text → Outcome
  | [] => rest []
  | c :: others =>
      if isPlace c then
        match rest others with
        | .mismatched => tryAfter rest isPlace others
        | decided => decided
      else
        tryAfter rest isPlace others

def tryFrom (rest : Text → Outcome) (isPlace : Char → Bool) (text : Text) : Outcome :=
  match rest text with
  | .mismatched => tryAfter rest isPlace text
  | decided => decided

def accepts : GlobToken → Char → Bool
  | .exactly c, other => c == other
  | .oneOf ranges, other => ranges.any (·.accepts other)
  | .noneOf ranges, other => !ranges.any (·.accepts other)
  | .anyCharacter, _ | .anySequence, _ | .anyDirectories, _ => true

def matchTokens : List GlobToken → Text → Outcome
  | [], text => if text.isEmpty then .matched else .mismatched
  | .anySequence :: tokens, text => tryFrom (matchTokens tokens) (fun _ => true) text
  | .anyDirectories :: tokens, text => tryFrom (matchTokens tokens) (· == '/') text
  | token :: tokens, text =>
      match text with
      | [] => .exhausted
      | c :: rest => if accepts token c then matchTokens tokens rest else .mismatched

def isMatch (pattern : GlobPattern) (text : Text) : Bool :=
  matchTokens pattern.tokens text == .matched

end GlobPattern
end Traceability
