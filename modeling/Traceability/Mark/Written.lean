import Traceability.Mark.Form

/-!
How mark forms are written.

Alternatives are separated by `|`, and parentheses may enclose one.  An alternative
may start with `^` and end with `$`, which bind it to the ends of the line.  Between
them stand items: a character, `\s` for white space, `[…]` for one of several
characters, or a character after a backslash, each followed by an optional `*` or
`+`.
-/

namespace Traceability.MarkForm

def readRepetition : Text → Repetition × Text
  | '*' :: rest => (.anyNumber, rest)
  | '+' :: rest => (.atLeastOnce, rest)
  | rest => (.once, rest)

def isReserved (c : Char) : Bool :=
  ['\\', '[', ']', '(', ')', '{', '}', '^', '$', '|', '*', '+', '?', '.'].contains c

def readSet? : Text → Option (CharSet × Text)
  | '\\' :: 's' :: rest => some (.space, rest)
  | '\\' :: c :: rest => if isReserved c then some (.exactly c, rest) else none
  | '[' :: rest =>
      let choices := rest.takeWhile (· != ']')
      if choices.isEmpty || choices.any isReserved || choices.contains '-' then
        none
      else
        match rest.drop choices.length with
        | _ :: after => some (.oneOf choices, after)
        | [] => none
  | c :: rest => if isReserved c then none else some (.exactly c, rest)
  | [] => none

/-- The items of a written alternative.  Each step takes at least one character, so
the length of the text bounds their number. -/
def readItems? : Nat → Text → Option (List MarkItem)
  | _, [] => some []
  | 0, _ :: _ => none
  | bound + 1, text =>
      (readSet? text).bind fun (chars, afterSet) =>
        let (repetition, rest) := readRepetition afterSet
        (readItems? bound rest).map ({ chars, repetition } :: ·)

def withoutGroup (written : Text) : Text :=
  if written.head? == some '(' && written.getLast? == some ')' then
    written.tail.dropLast
  else
    written

def readAlternative? (written : Text) : Option MarkAlternative :=
  let body := withoutGroup written
  let atLineStart := body.head? == some '^'
  let body := if atLineStart then body.tail else body
  let atLineEnd := body.getLast? == some '$'
  let body := if atLineEnd then body.dropLast else body
  (readItems? body.length body).map fun items => { items, atLineStart, atLineEnd }

def writtenAlternatives : Text → List Text
  | [] => [[]]
  | '|' :: rest => [] :: writtenAlternatives rest
  | c :: rest =>
      match writtenAlternatives rest with
      | [] => [[c]]
      | first :: others => (c :: first) :: others

/-- The form that a text is written for, if it is one. -/
def ofWritten? (written : Text) : Option MarkForm :=
  ((writtenAlternatives written).mapM readAlternative?).map fun alternatives => { alternatives }

end Traceability.MarkForm
