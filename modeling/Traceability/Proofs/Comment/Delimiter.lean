import Traceability.Language.Marks
import Traceability.Proofs.Comment.Extraction

/-!
Blocks between delimiters that are spelled alike.

Where one search finds the opening and the closing marks, each delimiter is visited twice at its
place, first as an opening mark and then as a closing one.  Outside a block it opens one, and as a
closing mark it overlaps itself.  Inside a block it only closes it.  So the delimiters of a text
bound its blocks two by two (`MarkSet.extract_pairsUp`), and the marks of line comments between
them play no part.
-/

namespace Traceability

/-! ### Members two by two -/

/-- The first member with the second, the third with the fourth, and so on, and the last one of
an odd number. -/
def inPairs {α : Type} : List α → List (α × α) × Option α
  | [] => ([], none)
  | [last] => ([], some last)
  | first :: second :: others => ((first, second) :: (inPairs others).1, (inPairs others).2)

section Pairs

variable {α : Type} (items : List α)

theorem length_inPairs : (inPairs items).1.length = items.length / 2 := by
  fun_induction inPairs items with
  | case1 => simp
  | case2 last => simp
  | case3 first second others ih =>
      simp only [List.length_cons, ih]
      omega

theorem getElem?_inPairs {index : Nat} {first second : α}
    (atFirst : items[2 * index]? = some first) (atSecond : items[2 * index + 1]? = some second) :
    (inPairs items).1[index]? = some (first, second) := by
  induction index generalizing items with
  | zero =>
      match items with
      | [] => cases atFirst
      | [_] => cases atSecond
      | _ :: _ :: _ =>
          obtain rfl := Option.some.inj atFirst
          obtain rfl := Option.some.inj atSecond
          rfl
  | succ index ih =>
      match items with
      | [] => cases atFirst
      | [_] => cases atSecond
      | _ :: _ :: others => exact ih others atFirst atSecond

theorem inPairs_rest :
    (inPairs items).2 = if items.length % 2 = 1 then items.getLast? else none := by
  fun_induction inPairs items with
  | case1 => rfl
  | case2 last => rfl
  | case3 first second others ih =>
      have parity : (first :: second :: others).length % 2 = others.length % 2 := by
        simp only [List.length_cons]
        omega
      rw [ih, parity]
      cases others with
      | nil => rfl
      | cons next others => rw [List.getLast?_cons_cons, List.getLast?_cons_cons]

end Pairs

/-! ### Delimiters -/

structure Delimiter where
  number : Nat
  line : Text
  span : Span
  deriving DecidableEq, Repr

namespace Delimiter

def mark (role : MarkRole) (delimiter : Delimiter) : SourceMark :=
  { number := delimiter.number, line := delimiter.line, role, span := delimiter.span }

/-- The block comment from right after one delimiter to right before another one. -/
def blockUpTo (lines : List Text) (opening closing : Delimiter) : Comment :=
  ((opening.mark .opening).blockPlace (closing.mark .closing)).comment lines

/-- The block from right after a delimiter to the end of the lines. -/
def blockToEnd (lines : List Text) (opening : Delimiter) : UnclosedBlock :=
  (opening.mark .opening).block lines

def marks (delimiter : Delimiter) : List SourceMark :=
  [delimiter.mark .opening, delimiter.mark .closing]

def Before (earlier later : Delimiter) : Prop :=
  earlier.number < later.number ∨
    earlier.number = later.number ∧ earlier.span.stop ≤ later.span.start

variable {delimiter other : Delimiter}

/-- As a closing mark a delimiter does not close the block that it opens. -/
theorem not_closes_self (proper : delimiter.span.start < delimiter.span.stop) :
    (delimiter.mark .closing).closes (delimiter.mark .opening) = false := by
  have overlaps : ¬delimiter.span.stop ≤ delimiter.span.start := by omega
  simp [SourceMark.closes, mark, overlaps]

theorem Before.closes (before : delimiter.Before other) :
    (other.mark .closing).closes (delimiter.mark .opening) = true := by
  rcases before with earlier | ⟨sameLine, apart⟩
  · simp [SourceMark.closes, mark, earlier]
  · simp [SourceMark.closes, mark, sameLine, apart]

theorem place_of_mem_marks {mark : SourceMark} (member : mark ∈ delimiter.marks) :
    mark.number = delimiter.number ∧ mark.span = delimiter.span := by
  rcases List.mem_cons.mp member with rfl | member
  · exact ⟨rfl, rfl⟩
  · obtain rfl := List.mem_singleton.mp member
    exact ⟨rfl, rfl⟩

/-- Visiting the marks of delimiters one by one bounds a block with every second one. -/
theorem follow_marks {delimiters : List Delimiter}
    (proper : ∀ delimiter ∈ delimiters, delimiter.span.start < delimiter.span.stop)
    (apart : delimiters.Pairwise Before) :
    SourceMark.follow none (delimiters.flatMap marks) =
      ((inPairs delimiters).1.map fun (opening, closing) =>
          (opening.mark .opening).blockPlace (closing.mark .closing),
        (inPairs delimiters).2.map (mark .opening)) := by
  fun_induction inPairs delimiters with
  | case1 => rfl
  | case2 last =>
      have overlaps := not_closes_self (proper last (.head _))
      simp only [List.flatMap_cons, List.flatMap_nil, marks, List.append_nil, SourceMark.follow,
        overlaps, Bool.false_eq_true, if_false]
      rfl
  | case3 first second others ih =>
      have overlaps := not_closes_self (proper first (.head _))
      have closes : (second.mark .closing).closes (first.mark .opening) = true :=
        ((List.pairwise_cons.mp apart).1 second (.head _)).closes
      have ignored : (second.mark .opening).closes (first.mark .opening) = false := rfl
      have later := ih (fun other member => proper other (.tail _ (.tail _ member)))
        (List.pairwise_cons.mp (List.pairwise_cons.mp apart).2).2
      have visited : SourceMark.follow none ((first :: second :: others).flatMap marks) =
          ((first.mark .opening).blockPlace (second.mark .closing) ::
              (SourceMark.follow none (others.flatMap marks)).1,
            (SourceMark.follow none (others.flatMap marks)).2) := by
        simp only [List.flatMap_cons, marks, List.cons_append, List.nil_append,
          SourceMark.follow, overlaps, ignored, closes, Bool.false_eq_true, if_false, if_true]
        rfl
      rw [visited, later]
      rfl

end Delimiter

namespace MarkFinder

def delimitersIn (finder : MarkFinder) (lines : List (Text × Nat)) : List Delimiter :=
  lines.flatMap fun (line, number) => (finder.find line).map fun span => { number, line, span }

def delimiters (finder : MarkFinder) (source : Text) : List Delimiter :=
  finder.delimitersIn ((Text.physicalLines source).zipIdx 1)

variable (finder : MarkFinder) (lines : List Text) (first : Nat)

theorem proper_of_mem_delimitersIn {numbered : List (Text × Nat)} {delimiter : Delimiter}
    (member : delimiter ∈ finder.delimitersIn numbered) :
    delimiter.span.start < delimiter.span.stop := by
  obtain ⟨⟨line, number⟩, _, inLine⟩ := List.mem_flatMap.mp member
  obtain ⟨span, found, rfl⟩ := List.mem_map.mp inLine
  exact ((finder.placed line).covers span found).start_lt_stop

theorem delimitersIn_apart :
    (finder.delimitersIn (lines.zipIdx first)).Pairwise Delimiter.Before := by
  induction lines generalizing first with
  | nil => exact .nil
  | cons line others ih =>
      rw [List.zipIdx_cons, delimitersIn, List.flatMap_cons]
      refine List.pairwise_append.mpr ⟨?_, ih (first + 1), ?_⟩
      · apply List.pairwise_map.mpr
        refine (finder.placed line).ascending.imp ?_
        intro left right apart
        exact .inr ⟨rfl, apart⟩
      · intro left leftMember right rightMember
        obtain ⟨_, _, rfl⟩ := List.mem_map.mp leftMember
        obtain ⟨⟨_, number⟩, numbered, inLine⟩ := List.mem_flatMap.mp rightMember
        obtain ⟨_, _, rfl⟩ := List.mem_map.mp inLine
        have later : first + 1 ≤ number :=
          (List.mk_mem_zipIdx_iff_le_and_getElem?_sub.mp numbered).1
        exact .inl later

end MarkFinder

/-! ### Marks of line comments play no part -/

namespace SourceMark

theorem follow_blocks (opened : Option SourceMark) (marks : List SourceMark) :
    (follow opened marks).1.filter (·.kind == .block) =
        (follow opened (marks.filter (·.role != .line))).1 ∧
      (follow opened marks).2 = (follow opened (marks.filter (·.role != .line))).2 := by
  induction marks generalizing opened with
  | nil => cases opened <;> exact ⟨rfl, rfl⟩
  | cons mark later ih =>
      cases opened with
      | none =>
          cases role : mark.role with
          | line => simpa [follow, role, lineCommentPlace] using ih none
          | opening => simpa [follow, role] using ih (some mark)
          | closing => simpa [follow, role] using ih none
      | some opening =>
          by_cases closes : mark.closes opening = true
          · have role : mark.role = .closing := by
              unfold SourceMark.closes at closes
              simp only [Bool.and_eq_true, beq_iff_eq] at closes
              exact closes.1
            simpa [follow, closes, role, blockPlace] using ih none
          · cases role : mark.role with
            | line => simpa [follow, closes, role] using ih (some opening)
            | opening => simpa [follow, closes, role] using ih (some opening)
            | closing => simpa [follow, closes, role] using ih (some opening)

end SourceMark

namespace MarkSet

variable {marks : MarkSet} {delimiter : MarkFinder}

private theorem byRole_blocks (opens : marks.opening? = some delimiter)
    (closes : marks.closing? = some delimiter) (line : Text) (number : Nat) :
    (((marks.byRole line).map (placeMark number line)).filter (·.role != .line)).Perm
      (((delimiter.find line).map fun span => { number, line, span }).flatMap
        Delimiter.marks) := by
  have lineMarks : ((marks.ofRole line .line).map (placeMark number line)).filter
      (·.role != .line) = [] := by
    rw [List.filter_eq_nil_iff]
    intro mark member
    obtain ⟨found, inLine, rfl⟩ := List.mem_map.mp member
    simp [placeMark, (mem_ofRole_iff.mp inLine).1]
  have blockMarks (role : MarkRole) (isBlock : role ≠ .line)
      (found : marks.finder? role = some delimiter) :
      ((marks.ofRole line role).map (placeMark number line)).filter (·.role != .line) =
        (delimiter.find line).map fun span => { number, line, role, span } := by
    simp [ofRole, found, placeMark, isBlock, Function.comp_def]
  rw [byRole_eq, List.map_append, List.map_append, List.filter_append, List.filter_append,
    lineMarks, blockMarks .opening (by decide) opens, blockMarks .closing (by decide) closes,
    List.nil_append, List.flatMap_map, List.map_eq_flatMap, List.map_eq_flatMap]
  exact List.flatMap_append_perm _ _ _

/-- The block marks of a text are the two marks of each delimiter, one delimiter after the
other. -/
theorem sourceMarks_blocks (opens : marks.opening? = some delimiter)
    (closes : marks.closing? = some delimiter) (source : Text) :
    (marks.sourceMarks source).filter (·.role != .line) =
      (delimiter.delimiters source).flatMap Delimiter.marks := by
  have sorted := (marks.marksOf_zipIdx_lt (Text.physicalLines source) 1).filter (·.role != .line)
  have ordered : ((delimiter.delimiters source).flatMap Delimiter.marks).Pairwise
      fun left right => SourceMark.compareRank left right = .lt := by
    refine List.pairwise_flatMap.mpr ⟨?_, ?_⟩
    · intro found _
      simp [Delimiter.marks, Delimiter.mark, SourceMark.compareRank_lt_iff, MarkRole.rank]
    · refine (delimiter.delimitersIn_apart _ 1).imp_of_mem ?_
      intro earlier later member _ before left inEarlier right inLater
      have proper := delimiter.proper_of_mem_delimitersIn member
      have earlierPlace := Delimiter.place_of_mem_marks inEarlier
      have laterPlace := Delimiter.place_of_mem_marks inLater
      unfold Delimiter.Before at before
      rw [SourceMark.compareRank_lt_iff, earlierPlace.1, earlierPlace.2, laterPlace.1,
        laterPlace.2]
      omega
  refine List.Perm.eq_of_pairwise ?_ sorted ordered ?_
  · intro left right _ _ before after
    rw [SourceMark.compareRank_lt_iff] at before after
    omega
  · refine ((List.mergeSort_perm _ _).filter _).trans ?_
    rw [List.filter_flatMap, MarkFinder.delimiters, MarkFinder.delimitersIn, List.flatMap_assoc]
    refine List.Perm.flatMap_left _ ?_
    rintro ⟨line, number⟩ _
    exact byRole_blocks opens closes line number

end MarkSet

/-! ### The blocks of a text -/

def Extraction.blocks (result : Extraction) : List Comment :=
  result.comments.filter (·.kind == .block)

/-- Every block lies between a delimiter and the next one, where no delimiter belongs to two
blocks, and the last one of an odd number opens a block without an end. -/
structure Extraction.PairsUp (lines : List Text) (delimiters : List Delimiter)
    (result : Extraction) : Prop where
  count : result.blocks.length = delimiters.length / 2
  between : ∀ index opening closing, delimiters[2 * index]? = some opening →
    delimiters[2 * index + 1]? = some closing →
    result.blocks[index]? = some (opening.blockUpTo lines closing)
  unterminated_iff : result.unterminated.isSome ↔ delimiters.length % 2 = 1
  unterminated : ∀ block, result.unterminated = some block →
    ∃ last, delimiters.getLast? = some last ∧ block = last.blockToEnd lines

theorem Extraction.pairsUp_of_inPairs {lines : List Text} {delimiters : List Delimiter}
    {result : Extraction}
    (blocks : result.blocks = (inPairs delimiters).1.map fun (opening, closing) =>
      opening.blockUpTo lines closing)
    (unterminated : result.unterminated = (inPairs delimiters).2.map (·.blockToEnd lines)) :
    result.PairsUp lines delimiters := by
  rw [inPairs_rest] at unterminated
  constructor
  · rw [blocks, List.length_map, length_inPairs]
  · intro index opening closing atFirst atSecond
    rw [blocks, List.getElem?_map, getElem?_inPairs delimiters atFirst atSecond]
    rfl
  · rw [unterminated, Option.isSome_map]
    by_cases odd : delimiters.length % 2 = 1
    · have nonempty : delimiters ≠ [] := by
        rintro rfl
        cases odd
      simp [odd, nonempty]
    · simp [odd]
  · intro block isOpen
    rw [unterminated] at isOpen
    obtain ⟨last, found, rfl⟩ := Option.map_eq_some_iff.mp isOpen
    split at found
    · exact ⟨last, found, rfl⟩
    · cases found

/-- Where one search finds the opening and the closing marks, its delimiters bound the blocks of a
text two by two. -/
theorem MarkSet.extract_pairsUp {marks : MarkSet} {delimiter : MarkFinder}
    (opens : marks.opening? = some delimiter) (closes : marks.closing? = some delimiter)
    (source : Text) :
    ∃ result, marks.extract source = .ok result ∧
      result.PairsUp (Text.physicalLines source) (delimiter.delimiters source) := by
  have followed := Delimiter.follow_marks
    (fun found member => delimiter.proper_of_mem_delimitersIn member)
    (delimiter.delimitersIn_apart (Text.physicalLines source) 1)
  obtain ⟨blocks, unterminated⟩ := SourceMark.follow_blocks none (marks.sourceMarks source)
  rw [sourceMarks_blocks opens closes, MarkFinder.delimiters, followed] at blocks unterminated
  refine ⟨_, marks.extract_eq_scan source, Extraction.pairsUp_of_inPairs ?_ ?_⟩
  · have kinds : ((fun comment : Comment => comment.kind == .block) ∘
        fun place : CommentPlace => place.comment (Text.physicalLines source)) =
          fun place => place.kind == .block := rfl
    rw [Extraction.blocks, SourceMark.scan_eq_follow, List.filter_map, kinds, blocks, List.map_map]
    rfl
  · rw [SourceMark.scan_eq_follow, unterminated, Option.map_map]
    rfl

def sevenDelimiters : Text :=
  "x = \"\"\"a\"\"\" '''é\"\"\" # b\n''' # c\n d'''\n  \"\"\" e".toList

theorem MarkSet.extract_pairsUp_sevenDelimiters :
    Language.python.marks.opening? = some MarkForm.tripleQuote.finder ∧
      Language.python.marks.closing? = some MarkForm.tripleQuote.finder ∧
      (MarkForm.tripleQuote.finder.delimiters sevenDelimiters).length = 7 ∧
      ∃ result, Language.python.marks.extract sevenDelimiters = .ok result ∧
        result.PairsUp (Text.physicalLines sevenDelimiters)
          (MarkForm.tripleQuote.finder.delimiters sevenDelimiters) :=
  ⟨rfl, rfl, by decide, MarkSet.extract_pairsUp rfl rfl sevenDelimiters⟩

end Traceability
