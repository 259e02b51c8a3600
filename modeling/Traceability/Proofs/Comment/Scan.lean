import Traceability.Proofs.Comment.SourceMark
import Traceability.Proofs.Text.Excerpt

/-!
The comments of a source text by matching marks over the whole text.

`SourceMark.scan` reads the sequence of all marks from the front: an opening mark looks
ahead for the first mark that closes it, and everything between the two is skipped.
Nothing is carried from line to line.  `SourceMark.scan_eq_follow` says that the marks
may be visited one by one as well.
-/

namespace Traceability

structure CommentPlace where
  kind : CommentKind
  startLine : Nat
  startCol : Nat
  endLine : Nat
  endCol : Nat
  deriving DecidableEq, Repr

def Comment.place (comment : Comment) : CommentPlace :=
  { kind := comment.kind, startLine := comment.startLine, startCol := comment.startCol,
    endLine := comment.endLine, endCol := comment.endCol }

def CommentPlace.comment (lines : List Text) (place : CommentPlace) : Comment :=
  { kind := place.kind, startLine := place.startLine, startCol := place.startCol,
    endLine := place.endLine, endCol := place.endCol,
    content := Text.excerpt lines place.startLine place.startCol place.endLine place.endCol }

@[simp] theorem CommentPlace.place_comment (lines : List Text) (place : CommentPlace) :
    (place.comment lines).place = place := rfl

namespace SourceMark

/-- The column of the last character before the mark, zero if there is none. -/
def colBefore (mark : SourceMark) : Nat :=
  Text.columnAt mark.line mark.span.start

def colAfter (mark : SourceMark) : Nat :=
  Text.columnAt mark.line mark.span.stop + 1

def lineCommentPlace (mark : SourceMark) : CommentPlace :=
  { kind := .line, startLine := mark.number, startCol := mark.colAfter,
    endLine := mark.number, endCol := mark.line.length }

def blockPlace (opening closing : SourceMark) : CommentPlace :=
  { kind := .block, startLine := opening.number, startCol := opening.colAfter,
    endLine := closing.number, endCol := closing.colBefore }

/-- A closing mark ends a block on a later line than the opening mark, or on the same
line unless it starts before the end of the opening mark. -/
def closes (closing opening : SourceMark) : Bool :=
  closing.role == .closing &&
    (opening.number < closing.number ||
      (opening.number == closing.number && opening.span.stop ≤ closing.span.start))

/-- The comments that a sequence of marks stands for, and the opening mark without a
closing one. -/
def scan : List SourceMark → List CommentPlace × Option SourceMark
  | [] => ([], none)
  | mark :: later =>
      match mark.role with
      | .line => (mark.lineCommentPlace :: (scan later).1, (scan later).2)
      | .closing => scan later
      | .opening =>
          match _ : later.dropWhile (!·.closes mark) with
          | [] => ([], some mark)
          | closing :: rest => (mark.blockPlace closing :: (scan rest).1, (scan rest).2)
termination_by marks => marks.length
decreasing_by
  · simp
  · simp
  · rename_i found
    have shorter : (later.dropWhile (!·.closes mark)).length ≤ later.length :=
      (List.dropWhile_sublist _).length_le
    rw [found] at shorter
    simp only [List.length_cons] at shorter ⊢
    omega

/-- Visits the marks one by one, where `opened` is the mark of an open block. -/
def follow : Option SourceMark → List SourceMark → List CommentPlace × Option SourceMark
  | opened, [] => ([], opened)
  | none, mark :: later =>
      match mark.role with
      | .line => (mark.lineCommentPlace :: (follow none later).1, (follow none later).2)
      | .opening => follow (some mark) later
      | .closing => follow none later
  | some opening, mark :: later =>
      if mark.closes opening then
        (opening.blockPlace mark :: (follow none later).1, (follow none later).2)
      else
        follow (some opening) later

theorem follow_append (opened : Option SourceMark) (front back : List SourceMark) :
    follow opened (front ++ back) =
      ((follow opened front).1 ++ (follow (follow opened front).2 back).1,
        (follow (follow opened front).2 back).2) := by
  induction front generalizing opened with
  | nil => cases opened <;> cases back <;> rfl
  | cons mark later ih =>
      cases opened with
      | none =>
          simp only [List.cons_append, follow]
          cases mark.role <;> simp only [ih, List.cons_append]
      | some opening =>
          simp only [List.cons_append, follow]
          split <;> simp only [ih, List.cons_append]

private theorem follow_some (opening : SourceMark) (marks : List SourceMark) :
    follow (some opening) marks =
      match marks.dropWhile (!·.closes opening) with
      | [] => ([], some opening)
      | closing :: rest =>
          (opening.blockPlace closing :: (follow none rest).1, (follow none rest).2) := by
  induction marks with
  | nil => rfl
  | cons mark later ih =>
      cases closed : mark.closes opening with
      | true => simp [follow, closed]
      | false => simp [follow, closed, ih]

/-- Looking ahead and visiting the marks one by one find the same comments. -/
theorem scan_eq_follow (marks : List SourceMark) : scan marks = follow none marks := by
  fun_induction scan marks with
  | case1 => rfl
  | case2 mark later role ih => rw [follow, role, ih]
  | case3 mark later role ih => rw [follow, role, ih]
  | case4 mark later role none =>
      rw [follow, role]
      simp only [follow_some, none]
  | case5 mark later role closing rest found ih =>
      rw [follow, role]
      simp only [follow_some, found, ih]

end SourceMark
end Traceability
