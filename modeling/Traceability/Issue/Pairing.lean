import Traceability.Issue.Basic

/-!
Pairing requirements with satisfactions.

Two rules hold in every scope.  The first tag of a kind and identifier is
kept; each later one is reported as a duplicate and discarded.  When all tags
are routed, an identifier with only one of the two kinds is reported as missing the
other, at the tag that is present.
-/

namespace Traceability

namespace Scope

def first? (scope : Scope) (kind : TagKind) (id : Text) : Option Occurrence :=
  (scope.get? id).bind (·.get? kind)

def keep (scope : Scope) (occurrence : Occurrence) : Scope :=
  scope.insert occurrence.id (((scope.get? occurrence.id).getD {}).set occurrence)

/-- Routes a tag into the scope: the scope after it, and the duplicate that
it is reported as if its kind and identifier are taken. -/
def record (scope : Scope) (occurrence : Occurrence) : Scope × Option Issue :=
  match scope.first? occurrence.kind occurrence.id with
  | some first => (scope, some (.duplicate occurrence first))
  | none => (scope.keep occurrence, none)

def missing (scope : Scope) : List Issue :=
  (scope.values.filterMap (·.lone?)).map .missing

end Scope

def SharedScope.record (scope : SharedScope) (occurrence : Occurrence) :
    SharedScope × Option Issue :=
  match (scope.get occurrence.kind).get? occurrence.id with
  | some first => (scope, some (.duplicate occurrence first))
  | none => (scope.insert occurrence, none)

/-! ### One file -/

structure FilePairing where
  issues : List Issue := []
  localScope : Scope := .empty
  sharedScope : SharedScope := {}

def FilePairing.route (current : FilePairing) (occurrence : Occurrence) :
    FilePairing :=
  if occurrence.tag.isShared then
    let (scope, issue) := current.sharedScope.record occurrence
    { current with sharedScope := scope, issues := current.issues ++ issue.toList }
  else
    let (scope, issue) := current.localScope.record occurrence
    { current with localScope := scope, issues := current.issues ++ issue.toList }

/-- Routes the tags of a file and reports what is duplicated or, among those
without a qualifier, missing. -/
def FilePairing.ofOccurrences (occurrences : List Occurrence) : FilePairing :=
  let routed := occurrences.foldl FilePairing.route {}
  { routed with issues := Issue.sortByLocation (routed.issues ++ routed.localScope.missing) }

/-! ### All files together -/

structure ProjectPairing where
  issues : List Issue := []
  scope : Scope := .empty

def ProjectPairing.route (current : ProjectPairing) (occurrence : Occurrence) :
    ProjectPairing :=
  let (scope, issue) := current.scope.record occurrence
  { scope := scope, issues := current.issues ++ issue.toList }

def sortByName (scopes : List (Text × SharedScope)) : List (Text × SharedScope) :=
  stableSort (fun left right => (compare left.1 right.1).isLE) scopes

/-- Pairs what all files share.  The files are taken in the order of their names, so
the result does not depend on the order in which they were read. -/
def ProjectPairing.ofScopes (scopes : List (Text × SharedScope)) : ProjectPairing :=
  let routed := ((sortByName scopes).flatMap (·.2.occurrences)).foldl
    ProjectPairing.route {}
  { routed with issues := Issue.sortByLocation (routed.issues ++ routed.scope.missing) }

end Traceability
