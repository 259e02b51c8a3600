import Traceability.Tag.Basic
import Traceability.TextTable

/-!
Scopes: which tags are paired with each other.

Tags without a qualifier form one scope for each file.  Those with a
qualifier are kept apart by kind while their file is read, and all files together
form one scope of them.  A scope holds the first tag of each kind and
identifier.
-/

namespace Traceability

/-- A tag with the file it was found in, and the source line it starts on. -/
structure Occurrence where
  filePath : Text
  tag : Tag
  sourceLine : Text
  deriving DecidableEq, Repr

namespace Occurrence

def line (occurrence : Occurrence) : Nat :=
  occurrence.tag.startLine

def col (occurrence : Occurrence) : Nat :=
  occurrence.tag.startCol

def kind (occurrence : Occurrence) : TagKind :=
  occurrence.tag.kind

def id (occurrence : Occurrence) : Text :=
  occurrence.tag.id

def location (occurrence : Occurrence) : Text :=
  occurrence.filePath ++ ':' :: Text.ofNat occurrence.line ++ ':' :: Text.ofNat occurrence.col

def compareLocation : Occurrence → Occurrence → Ordering :=
  compareLex (compareOn filePath) (compareLex (compareOn line) (compareOn col))

end Occurrence

structure TagPair where
  require : Option Occurrence := none
  satisfied : Option Occurrence := none
  deriving DecidableEq, Repr

namespace TagPair

def get? (pair : TagPair) : TagKind → Option Occurrence
  | .require => pair.require
  | .satisfied => pair.satisfied

def set (pair : TagPair) (occurrence : Occurrence) : TagPair :=
  match occurrence.kind with
  | .require => { pair with require := some occurrence }
  | .satisfied => { pair with satisfied := some occurrence }

def isComplete (pair : TagPair) : Bool :=
  pair.require.isSome && pair.satisfied.isSome

/-- The only tag, where exactly one kind is present. -/
def lone? (pair : TagPair) : Option Occurrence :=
  match pair.require, pair.satisfied with
  | some require, none => some require
  | none, some satisfied => some satisfied
  | _, _ => none

end TagPair

/-- Tags that are paired with each other, by identifier. -/
abbrev Scope := TextTable TagPair

/-- The tags of one file that are shared between files.  Each kind is kept
separately. -/
structure SharedScope where
  require : TextTable Occurrence := .empty
  satisfied : TextTable Occurrence := .empty

namespace SharedScope

def get (scope : SharedScope) : TagKind → TextTable Occurrence
  | .require => scope.require
  | .satisfied => scope.satisfied

def insert (scope : SharedScope) (occurrence : Occurrence) : SharedScope :=
  match occurrence.kind with
  | .require => { scope with require := scope.require.insert occurrence.id occurrence }
  | .satisfied => { scope with satisfied := scope.satisfied.insert occurrence.id occurrence }

def isEmpty (scope : SharedScope) : Bool :=
  scope.require.isEmpty && scope.satisfied.isEmpty

def occurrences (scope : SharedScope) : List Occurrence :=
  scope.require.values ++ scope.satisfied.values

end SharedScope

structure TagCounts where
  localRequire : Nat := 0
  localSatisfied : Nat := 0
  sharedRequire : Nat := 0
  sharedSatisfied : Nat := 0
  deriving DecidableEq, Repr

namespace TagCounts

def ofScopes (scope : Scope) (shared : SharedScope) : TagCounts :=
  { localRequire := (scope.values.filter (·.require.isSome)).length
    localSatisfied := (scope.values.filter (·.satisfied.isSome)).length
    sharedRequire := shared.require.size
    sharedSatisfied := shared.satisfied.size }

def add (left right : TagCounts) : TagCounts :=
  { localRequire := left.localRequire + right.localRequire
    localSatisfied := left.localSatisfied + right.localSatisfied
    sharedRequire := left.sharedRequire + right.sharedRequire
    sharedSatisfied := left.sharedSatisfied + right.sharedSatisfied }

def total (counts : TagCounts) : Nat :=
  counts.localRequire + counts.localSatisfied + counts.sharedRequire +
    counts.sharedSatisfied

def hasLocal (counts : TagCounts) : Bool :=
  counts.localRequire > 0 || counts.localSatisfied > 0

def hasShared (counts : TagCounts) : Bool :=
  counts.sharedRequire > 0 || counts.sharedSatisfied > 0

end TagCounts
end Traceability
