import Traceability.Proofs.Comment.Content

/-!
Comments by the marks that delimit them.

A line comment has one mark, a block comment an opening and a closing one.  Extraction
visits the marks of a source text in their order, so the marks of its comments and that of
the block left open are a sublist of them, and what is known of the order of two marks holds
of the marks of an earlier and of a later comment (`MarkSet.ordered_markedComments`).
-/

namespace Traceability

inductive MarkedComment
  | line (mark : SourceMark)
  | block (opening closing : SourceMark)
  deriving DecidableEq, Repr

namespace MarkedComment

def place : MarkedComment → CommentPlace
  | line mark => mark.lineCommentPlace
  | block opening closing => opening.blockPlace closing

def first : MarkedComment → SourceMark
  | line mark => mark
  | block opening _ => opening

def marks : MarkedComment → List SourceMark
  | line mark => [mark]
  | block opening closing => [opening, closing]

/-- The marks have the roles in which the comment uses them. -/
def Proper : MarkedComment → Prop
  | line mark => mark.role = .line
  | block opening closing => opening.role = .opening ∧ closing.closes opening

theorem first_mem_marks (comment : MarkedComment) : comment.first ∈ comment.marks := by
  cases comment <;> exact .head _

theorem closing_mem_marks (opening closing : SourceMark) :
    closing ∈ (block opening closing).marks :=
  .tail _ (.head _)

@[simp] theorem place_startLine (comment : MarkedComment) :
    comment.place.startLine = comment.first.number := by
  cases comment <;> rfl

@[simp] theorem place_startCol (comment : MarkedComment) :
    comment.place.startCol = comment.first.colAfter := by
  cases comment <;> rfl

theorem Proper.first_role {comment : MarkedComment} (proper : comment.Proper) :
    comment.first.role ≠ .closing := by
  cases comment with
  | line mark =>
      have role : mark.role = .line := proper
      simp [first, role]
  | block opening closing => simp [first, proper.1]

end MarkedComment

namespace SourceMark

theorem role_of_closes {closing opening : SourceMark} (ends : closing.closes opening = true) :
    closing.role = .closing := by
  unfold closes at ends
  simp only [Bool.and_eq_true, beq_iff_eq] at ends
  exact ends.1

/-- Of the marks at one place a closing one comes last. -/
theorem start_lt_of_isLE {closing mark : SourceMark} (role : closing.role = .closing)
    (begins : mark.role ≠ .closing) (ordered : (compareRank closing mark).isLE) :
    closing.number < mark.number ∨
      closing.number = mark.number ∧ closing.span.start < mark.span.start := by
  have rank : mark.role.rank < MarkRole.closing.rank := by
    cases kind : mark.role with
    | line => decide
    | opening => decide
    | closing => exact absurd kind begins
  rw [compareRank_isLE_iff, role] at ordered
  omega

theorem colBefore_lt_colAfter {closing mark : SourceMark} (covers : mark.span.Covers mark.line)
    (sameLine : closing.line = mark.line) (ordered : closing.span.start < mark.span.start) :
    closing.colBefore + 1 < mark.colAfter := by
  have before := Text.columnAt_mono mark.line (Nat.le_of_lt ordered)
  have across := covers.columnAt_lt
  rw [colBefore, colAfter, sameLine]
  omega

/-- Visits the marks as `follow` does and keeps the marks of every comment. -/
def pairUp : Option SourceMark → List SourceMark → List MarkedComment × Option SourceMark
  | opened, [] => ([], opened)
  | none, mark :: later =>
      match mark.role with
      | .line => (.line mark :: (pairUp none later).1, (pairUp none later).2)
      | .opening => pairUp (some mark) later
      | .closing => pairUp none later
  | some opening, mark :: later =>
      if mark.closes opening then
        (.block opening mark :: (pairUp none later).1, (pairUp none later).2)
      else
        pairUp (some opening) later

variable (opened : Option SourceMark) (marks : List SourceMark)

theorem follow_eq_pairUp :
    follow opened marks = ((pairUp opened marks).1.map (·.place), (pairUp opened marks).2) := by
  induction marks generalizing opened with
  | nil => cases opened <;> rfl
  | cons mark later ih =>
      cases opened with
      | none =>
          cases role : mark.role with
          | line =>
              simp only [follow, pairUp, role, ih, List.map_cons]
              rfl
          | opening => simp only [follow, pairUp, role, ih]
          | closing => simp only [follow, pairUp, role, ih]
      | some opening =>
          by_cases closes : mark.closes opening = true
          · simp only [follow, pairUp, if_pos closes, ih, List.map_cons]
            rfl
          · simp only [follow, pairUp, if_neg closes, ih]

theorem marks_pairUp_sublist :
    ((pairUp opened marks).1.flatMap (·.marks) ++ (pairUp opened marks).2.toList).Sublist
      (opened.toList ++ marks) := by
  induction marks generalizing opened with
  | nil => cases opened <;> simp [pairUp]
  | cons mark later ih =>
      cases opened with
      | none =>
          cases role : mark.role with
          | line =>
              simp only [pairUp, role]
              exact (ih none).cons_cons mark
          | opening =>
              simp only [pairUp, role]
              exact ih (some mark)
          | closing =>
              simp only [pairUp, role]
              exact (ih none).cons mark
      | some opening =>
          by_cases closes : mark.closes opening = true
          · simp only [pairUp, if_pos closes]
            exact ((ih none).cons_cons mark).cons_cons opening
          · simp only [pairUp, if_neg closes]
            exact (ih (some opening)).trans ((List.sublist_cons_self mark later).cons_cons opening)

theorem proper_pairUp (role : ∀ opening, opened = some opening → opening.role = .opening) :
    (∀ comment ∈ (pairUp opened marks).1, comment.Proper) ∧
      ∀ opening, (pairUp opened marks).2 = some opening → opening.role = .opening := by
  induction marks generalizing opened with
  | nil => exact ⟨by cases opened <;> exact nofun, by cases opened <;> exact role⟩
  | cons mark later ih =>
      cases opened with
      | none =>
          cases kind : mark.role with
          | line =>
              obtain ⟨proper, stillOpen⟩ := ih none nofun
              simp only [pairUp, kind]
              exact ⟨List.forall_mem_cons.mpr ⟨kind, proper⟩, stillOpen⟩
          | opening =>
              simp only [pairUp, kind]
              exact ih (some mark) (by rintro _ ⟨⟩; exact kind)
          | closing =>
              simp only [pairUp, kind]
              exact ih none nofun
      | some opening =>
          by_cases closes : mark.closes opening = true
          · obtain ⟨proper, stillOpen⟩ := ih none nofun
            simp only [pairUp, if_pos closes]
            exact ⟨List.forall_mem_cons.mpr ⟨⟨role opening rfl, closes⟩, proper⟩, stillOpen⟩
          · simp only [pairUp, if_neg closes]
            exact ih (some opening) role

end SourceMark

namespace MarkSet

variable {marks : MarkSet} {source : Text}

def markedComments (marks : MarkSet) (source : Text) : List MarkedComment :=
  (SourceMark.pairUp none (marks.sourceMarks source)).1

def openMark? (marks : MarkSet) (source : Text) : Option SourceMark :=
  (SourceMark.pairUp none (marks.sourceMarks source)).2

theorem scan_sourceMarks (marks : MarkSet) (source : Text) :
    SourceMark.scan (marks.sourceMarks source) =
      ((marks.markedComments source).map (·.place), marks.openMark? source) := by
  rw [SourceMark.scan_eq_follow, SourceMark.follow_eq_pairUp]
  rfl

theorem extract_eq_markedComments (marks : MarkSet) (source : Text) :
    marks.extract source = .ok
      { comments := (marks.markedComments source).map fun comment =>
          comment.place.comment (Text.physicalLines source)
        unterminated := (marks.openMark? source).map (·.block (Text.physicalLines source)) } := by
  rw [extract_eq_scan, scan_sourceMarks, List.map_map]
  rfl

theorem proper_of_mem_markedComments {comment : MarkedComment}
    (member : comment ∈ marks.markedComments source) : comment.Proper :=
  (SourceMark.proper_pairUp none _ nofun).1 comment member

theorem role_openMark? {opening : SourceMark} (isOpen : marks.openMark? source = some opening) :
    opening.role = .opening :=
  (SourceMark.proper_pairUp none _ nofun).2 opening isOpen

private theorem marks_sublist (marks : MarkSet) (source : Text) :
    ((marks.markedComments source).flatMap (·.marks) ++
      (marks.openMark? source).toList).Sublist (marks.sourceMarks source) :=
  SourceMark.marks_pairUp_sublist none _

theorem mem_sourceMarks {comment : MarkedComment} {mark : SourceMark}
    (member : comment ∈ marks.markedComments source) (inComment : mark ∈ comment.marks) :
    mark ∈ marks.sourceMarks source :=
  (marks_sublist marks source).subset
    (List.mem_append_left _ (List.mem_flatMap.mpr ⟨comment, member, inComment⟩))

theorem openMark?_mem_sourceMarks {opening : SourceMark}
    (isOpen : marks.openMark? source = some opening) : opening ∈ marks.sourceMarks source :=
  (marks_sublist marks source).subset
    (List.mem_append_right _ (Option.mem_toList.mpr isOpen))

theorem ordered_markedComments (marks : MarkSet) (source : Text) :
    ((marks.markedComments source).Pairwise fun earlier later =>
        ∀ left ∈ earlier.marks, ∀ right ∈ later.marks,
          SourceMark.compareRank left right = .lt) ∧
      ∀ comment ∈ marks.markedComments source, ∀ left ∈ comment.marks,
        ∀ opening, marks.openMark? source = some opening →
          SourceMark.compareRank left opening = .lt := by
  have sorted := (marks.marksOf_zipIdx_lt (Text.physicalLines source) 1).sublist
    (marks_sublist marks source)
  obtain ⟨inComments, _, beforeOpen⟩ := List.pairwise_append.mp sorted
  refine ⟨(List.pairwise_flatMap.mp inComments).2, ?_⟩
  intro comment member left inComment opening isOpen
  exact beforeOpen left (List.mem_flatMap.mpr ⟨comment, member, inComment⟩) opening
    (Option.mem_toList.mpr isOpen)

theorem compareRank_of_sublist {earlier later : MarkedComment}
    (before : [earlier, later].Sublist (marks.markedComments source)) {left : SourceMark}
    (inEarlier : left ∈ earlier.marks) : SourceMark.compareRank left later.first = .lt :=
  List.pairwise_iff_forall_sublist.mp (marks.ordered_markedComments source).1 before left
    inEarlier _ later.first_mem_marks

theorem number_le_of_line {mark : SourceMark} {later : MarkedComment}
    (before : [.line mark, later].Sublist (marks.markedComments source)) :
    mark.number ≤ later.first.number := by
  have inEarlier : mark ∈ (MarkedComment.line mark).marks := MarkedComment.first_mem_marks _
  have ordered := compareRank_of_sublist before inEarlier
  rw [SourceMark.compareRank_lt_iff] at ordered
  omega

/-- The text of a comment starts after the end of every earlier block. -/
theorem stop_lt_of_block {opening closing : SourceMark} {later : MarkedComment}
    (before : [.block opening closing, later].Sublist (marks.markedComments source)) :
    closing.number < later.first.number ∨
      closing.number = later.first.number ∧ closing.colBefore + 1 < later.first.colAfter := by
  have ordered := Ordering.isLE_of_eq_lt
    (compareRank_of_sublist before (MarkedComment.closing_mem_marks opening closing))
  have inComments : .block opening closing ∈ marks.markedComments source :=
    before.subset (.head _)
  have laterMember : later ∈ marks.markedComments source := before.subset (.tail _ (.head _))
  have role := SourceMark.role_of_closes (proper_of_mem_markedComments inComments).2
  have begins := (proper_of_mem_markedComments laterMember).first_role
  have stands := standsIn_of_mem_marksOf (mem_sourceMarks laterMember later.first_mem_marks)
  have closingStands := standsIn_of_mem_marksOf
    (mem_sourceMarks inComments (MarkedComment.closing_mem_marks opening closing))
  rcases SourceMark.start_lt_of_isLE role begins ordered with earlier | ⟨same, start⟩
  · exact .inl earlier
  · exact .inr ⟨same, SourceMark.colBefore_lt_colAfter stands.covers
      (closingStands.line_eq stands same) start⟩

end MarkSet
end Traceability
