import Traceability.Language.Basic

/-!
The comment marks of each language.
-/

namespace Traceability

namespace MarkForm

def colonsAtLineStart : MarkAlternative :=
  { exactly "::".toList with atLineStart := true }

/-- A double colon that follows `&`, with optional white space between them. -/
def colonsAfterAmpersand : MarkAlternative :=
  { items := [{ chars := .exactly '&' }, { chars := .space, repetition := .anyNumber },
      { chars := .exactly ':' }, { chars := .exactly ':' }] }

def batchLine : MarkForm :=
  { alternatives := [colonsAtLineStart, colonsAfterAmpersand, exactly "REM".toList] }

/-- Three single or three double quotes, which both open and close a block. -/
def tripleQuote : MarkForm :=
  { alternatives := [exactly "'''".toList, exactly "\"\"\"".toList] }

def anyLine : MarkForm :=
  { alternatives := [exactly "//".toList, exactly "#".toList, colonsAtLineStart,
      colonsAfterAmpersand, exactly "REM".toList] }

def anyOpening : MarkForm :=
  { alternatives := [exactly "/*".toList, exactly "'''".toList, exactly "\"\"\"".toList] }

def anyClosing : MarkForm :=
  { alternatives := [exactly "*/".toList, exactly "'''".toList, exactly "\"\"\"".toList] }

end MarkForm

open MarkForm (literal)

def MarkSet.slashes : MarkSet :=
  .lineAndBlock (literal "//".toList).finder (literal "/*".toList).finder
    (literal "*/".toList).finder

def Language.marks : Language → MarkSet
  | c | cpp | cOrCpp | javaScript | typeScript | java | kotlin | rust | go => .slashes
  | python =>
      .lineAndBlock (literal "#".toList).finder MarkForm.tripleQuote.finder
        MarkForm.tripleQuote.finder
  | bash | shell => .lineOnly (literal "#".toList).finder
  | batch => .lineOnly MarkForm.batchLine.finder
  | any =>
      .lineAndBlock MarkForm.anyLine.finder MarkForm.anyOpening.finder
        MarkForm.anyClosing.finder

end Traceability
