import Traceability.Text.CharClass

/-!
Tags: a requirement, or the statement that one is satisfied.
-/

namespace Traceability

inductive TagKind
  | require
  | satisfied
  deriving DecidableEq, Repr

namespace TagKind

def keyword : TagKind → Text
  | require => "REQUIRE".toList
  | satisfied => "SATISFIED".toList

def counterpart : TagKind → TagKind
  | require => satisfied
  | satisfied => require

def name : TagKind → Text
  | require => "require".toList
  | satisfied => "satisfied".toList

end TagKind

/-- A tag with its place in the source.  It starts right after the colon.  A
qualifier makes it one of all files together instead of one of its own file. -/
structure Tag where
  kind : TagKind
  qualifier : Option Text
  id : Text
  startLine : Nat
  startCol : Nat
  endLine : Nat
  endCol : Nat
  deriving DecidableEq, Repr

namespace Tag

def isShared (tag : Tag) : Bool :=
  tag.qualifier.isSome

/-- The keyword and the qualifier as they are written, up to the colon. -/
def writtenKeyword (kind : TagKind) (qualifier : Option Text) : Text :=
  match qualifier with
  | none => kind.keyword ++ [':']
  | some word => kind.keyword ++ '(' :: word ++ [')', ':']

def display (tag : Tag) : Text :=
  writtenKeyword tag.kind tag.qualifier ++ ' ' :: tag.id

/-- Text without white space around it and without a leading run of a character that
decorates the lines of a comment. -/
def withoutDecoration (bullet : Char) (text : Text) : Text :=
  Text.trim (Text.trimLeft (· == bullet) (Text.trim text))

/-- The part of an identifier that a line contributes: the stars that decorate block
comments are no part of it. -/
def idPart (line : Text) : Text :=
  withoutDecoration '*' line

end Tag

/-- A comment line is blank when it holds neither an alphanumeric character nor `_`. -/
def isBlankLine (text : Text) : Bool :=
  !text.any fun c => Text.isAlphanumeric c || c == '_'

end Traceability
