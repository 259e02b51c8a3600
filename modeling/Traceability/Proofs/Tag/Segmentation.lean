import Mathlib.Data.List.Forall2
import Mathlib.Order.Bounds.Defs
import Traceability.Proofs.Tag.Position
import Traceability.Proofs.Tag.Reader

/-!
The tags of a block comment cut its lines into segments.

Each line with a keyword begins a tag, which goes on over the lines that follow for as long as none
of them is blank or has a keyword.  Reading line by line finds a tag only when it ends; still
it gives the tags of these segments, one for each, in their order.  A comment whose place is only
claimed is read alike as long as its lines and columns have numbers of 64 bits.
-/

namespace Traceability

structure KeywordLine where
  index : Nat
  text : Text
  hit : KeywordHit
  deriving DecidableEq, Repr

def keywordLines (lines : List Text) : List KeywordLine :=
  lines.zipIdx.filterMap fun (text, index) =>
    (KeywordHit.find text).map fun hit => { index, text, hit }

/-- No line after the first one up to the last one is blank or has a keyword. -/
structure GoesOn (lines : List Text) (first last : Nat) : Prop where
  ordered : first ≤ last
  inside : last < lines.length
  continues : ∀ index text, first < index → index ≤ last → lines[index]? = some text →
    isBlankLine text = false ∧ KeywordHit.find text = none

/-- The tag of a line with a keyword.  It ends with the last line up to which the lines go on, and
its identifier is made of what follows the colon and of these lines. -/
structure Comment.Segment (transform : Text → Text) (comment : Comment) (line : KeywordLine)
    (tag : Tag) : Prop where
  kind : tag.kind = line.hit.kind
  qualifier : tag.qualifier = line.hit.qualifier
  startLine : tag.startLine = comment.startLine + line.index
  lines : ∃ last after,
    IsGreatest {last | GoesOn comment.content line.index last} last ∧
    tag.endLine = comment.startLine + last ∧
    Text.dropBytes? line.text line.hit.stop = some after ∧
    tag.id = Text.trim (Text.join [' '] (transform after ::
      ((comment.content.take (last + 1)).drop (line.index + 1)).map transform))

/-! ### Lines with a keyword -/

theorem mem_keywordLines {lines : List Text} {line : KeywordLine} :
    line ∈ keywordLines lines ↔
      lines[line.index]? = some line.text ∧ KeywordHit.find line.text = some line.hit := by
  simp only [keywordLines, List.mem_filterMap, Prod.exists, List.mem_zipIdx_iff_getElem?,
    Option.map_eq_some_iff]
  constructor
  · rintro ⟨text, index, found, hit, keyword, rfl⟩
    exact ⟨found, keyword⟩
  · rintro ⟨found, keyword⟩
    exact ⟨line.text, line.index, found, line.hit, keyword, rfl⟩

theorem keywordLines_cons (text : Text) (others : List Text) :
    keywordLines (text :: others) =
      ((KeywordHit.find text).map fun hit => { index := 0, text, hit }).toList ++
        (keywordLines others).map fun line => { line with index := line.index + 1 } := by
  have later : (others.zipIdx 1).filterMap (fun (text, index) =>
      (KeywordHit.find text).map fun hit => ({ index, text, hit } : KeywordLine)) =
        (keywordLines others).map fun line => { line with index := line.index + 1 } := by
    rw [keywordLines, List.zipIdx_succ, List.filterMap_map, List.map_filterMap]
    simp only [Function.comp_def, Option.map_map]
  rw [keywordLines, List.zipIdx_cons, List.filterMap_cons, later]
  cases keyword : KeywordHit.find text <;> simp only [keyword] <;> rfl

namespace BlockReading

theorem tagsFrom_eq_map (startLine startCol : Nat) (transform : Text → Text) (number : Nat)
    (lines : List Text) :
    tagsFrom startLine startCol transform number lines = (keywordLines lines).map fun line =>
      tagAt transform (shiftOf startLine startCol (number + line.index)) (number + line.index)
        line.text line.hit ((lines.drop (line.index + 1)).takeWhile continues) := by
  induction lines generalizing number with
  | nil => rfl
  | cons text others ih =>
      have numbers (index : Nat) : number + 1 + index = number + (index + 1) := by omega
      rw [tagsFrom, keywordLines_cons, List.map_append, List.map_map, ih]
      simp only [Function.comp_def, List.drop_succ_cons, numbers]
      cases KeywordHit.find text <;> rfl

/-! ### How far the lines go on -/

theorem le_length_takeWhile {lines : List Text} {count : Nat}
    (goOn : ∀ index < count, ∃ text, lines[index]? = some text ∧ continues text = true) :
    count ≤ (lines.takeWhile continues).length := by
  induction lines generalizing count with
  | nil =>
      cases count with
      | zero => exact Nat.le_refl _
      | succ count =>
          obtain ⟨text, found, _⟩ := goOn 0 (Nat.zero_lt_succ count)
          cases found
  | cons first others ih =>
      cases count with
      | zero => exact Nat.zero_le _
      | succ count =>
          obtain ⟨text, found, goesOn⟩ := goOn 0 (Nat.zero_lt_succ count)
          obtain rfl := Option.some.inj found
          rw [List.takeWhile_cons_of_pos goesOn, List.length_cons]
          have later : count ≤ (others.takeWhile continues).length := by
            apply ih
            intro index inside
            exact goOn (index + 1) (Nat.succ_lt_succ inside)
          omega

theorem continues_iff {text : Text} :
    continues text = true ↔ isBlankLine text = false ∧ KeywordHit.find text = none := by
  rw [continues, Bool.and_eq_true, Bool.not_eq_true', Option.isNone_iff_eq_none]

theorem isGreatest_goesOn {lines : List Text} {first : Nat} {text : Text}
    (found : lines[first]? = some text) :
    IsGreatest {last | GoesOn lines first last}
      (first + ((lines.drop (first + 1)).takeWhile continues).length) := by
  have inside : first < lines.length := (List.getElem?_eq_some_iff.mp found).1
  have taken : (lines.drop (first + 1)).takeWhile continues <+: lines.drop (first + 1) :=
    List.takeWhile_prefix continues
  have length := taken.length_le
  rw [List.length_drop] at length
  constructor
  · refine ⟨Nat.le_add_right _ _, by omega, ?_⟩
    intro index line after upTo atIndex
    obtain ⟨offset, rfl⟩ : ∃ offset, index = first + 1 + offset := ⟨index - (first + 1), by omega⟩
    have within : offset < ((lines.drop (first + 1)).takeWhile continues).length := by omega
    have goesOn : continues ((lines.drop (first + 1)).takeWhile continues)[offset] = true :=
      List.mem_takeWhile_imp (List.getElem_mem within)
    rw [← List.getElem?_drop] at atIndex
    rw [taken.getElem within, (List.getElem?_eq_some_iff.mp atIndex).2] at goesOn
    exact continues_iff.mp goesOn
  · intro last goesOn
    have count : last - first ≤ ((lines.drop (first + 1)).takeWhile continues).length := by
      apply le_length_takeWhile
      intro offset before
      have ordered := goesOn.ordered
      have lastInside := goesOn.inside
      have within : first + 1 + offset < lines.length := by omega
      have atIndex : lines[first + 1 + offset]? = some lines[first + 1 + offset] :=
        List.getElem?_eq_getElem within
      refine ⟨lines[first + 1 + offset], by rw [List.getElem?_drop, atIndex], ?_⟩
      exact continues_iff.mpr (goesOn.continues _ _ (by omega) (by omega) atIndex)
    omega

/-! ### Numbers of 64 bits -/

variable {startLine startCol number : Nat} {transform : Text → Text}

theorem fits_openedAt {text : Text} {hit : KeywordHit} (positive : 0 < startCol)
    (room : startCol + text.length < UInt64.size) :
    (State.opened (openedAt transform (shiftOf startLine startCol number) number text hit)).fits =
      true := by
  have column := Text.columnAt_le_length text hit.stop
  have shift : shiftOf startLine startCol number ≤ startCol - 1 := by
    unfold shiftOf
    split
    · exact Nat.le_refl _
    · exact Nat.zero_le _
  apply Bool.and_eq_true_iff.mpr
  constructor
  · apply decide_eq_true
    simp only [openedAt]
    omega
  · apply decide_eq_true
    simp only [openedAt]
    omega

theorem fits_of_step {text : Text} {state next : State} {closed : Option Tag}
    (positive : 0 < startCol) (room : startCol + text.length < UInt64.size)
    (fits : state.fits = true)
    (stepped : step startLine startCol transform number text state = .ok (closed, next)) :
    next.fits = true := by
  unfold step at stepped
  split at stepped
  · obtain ⟨ended, _, same⟩ := exists_of_bind_eq_ok stepped
    injection same with same
    rw [← (Prod.mk.inj same).2]
    rfl
  · split at stepped
    · rename_i hit keyword
      obtain ⟨ended, _, stepped⟩ := exists_of_bind_eq_ok stepped
      rw [openAt_eq positive transform number keyword] at stepped
      injection stepped with same
      rw [← (Prod.mk.inj same).2]
      exact fits_openedAt positive room
    · cases state with
      | idle =>
          injection stepped with same
          rw [← (Prod.mk.inj same).2]
          rfl
      | opened tag =>
          injection stepped with same
          rw [← (Prod.mk.inj same).2]
          simp only [State.fits, Bool.and_eq_true, decide_eq_true_eq] at fits ⊢
          omega

theorem boundedStep_of_step {text : Text} {state next : State} {closed : Option Tag}
    (numberFits : number + 1 < UInt64.size)
    (stepped : step startLine startCol transform number text state = .ok (closed, next)) :
    boundedStep startLine startCol transform number text state =
      if next.fits then .ok (closed, next) else .error .beyondWord := by
  have word : Fault.word (number + 1) = .ok (number + 1) := if_pos numberFits
  rw [boundedStep, stepped]
  change (Fault.word (number + 1)).bind _ = _
  rw [word]
  rfl

theorem boundedStep_eq {text : Text} {state : State} (positive : 0 < startCol)
    (numberFits : number + 1 < UInt64.size) (room : startCol + text.length < UInt64.size)
    (fits : state.fits = true) :
    boundedStep startLine startCol transform number text state =
      step startLine startCol transform number text state := by
  cases stepped : step startLine startCol transform number text state with
  | error fault =>
      rw [boundedStep, stepped]
      rfl
  | ok result =>
      have nextFits := fits_of_step positive room fits stepped
      rw [boundedStep_of_step numberFits stepped, if_pos nextFits]

/-- Numbers that fit at the start of a comment and at its end fit everywhere in it. -/
theorem run_boundedStep {lines : List Text} {state : State} (positive : 0 < startCol)
    (numbersFit : number + lines.length < UInt64.size)
    (room : ∀ text ∈ lines, startCol + text.length < UInt64.size) (fits : state.fits = true) :
    run (boundedStep startLine startCol transform) number lines state =
      run (step startLine startCol transform) number lines state := by
  induction lines generalizing number state with
  | nil => rfl
  | cons text others ih =>
      rw [List.length_cons] at numbersFit
      have here := room text (.head _)
      rw [run, run, boundedStep_eq positive (by omega) here fits]
      cases stepped : step startLine startCol transform number text state with
      | error fault => rfl
      | ok result =>
          have nextFits := fits_of_step positive here fits stepped
          change (run _ (number + 1) others result.2).bind _ = (run _ _ _ _).bind _
          rw [ih (by omega) (fun other member => room other (.tail _ member)) nextFits]

end BlockReading

/-! ### The tags of a comment -/

namespace Comment

/-- The lines and columns of the comment have numbers of 64 bits. -/
structure FitsWord (comment : Comment) : Prop where
  lines : comment.startLine + comment.content.length < UInt64.size
  columns : ∀ text ∈ comment.content, comment.startCol + text.length < UInt64.size

variable {comment : Comment} {transform : Text → Text} {tags : List Tag}

theorem boundedTagsWith_block (kind : comment.kind = .block) (startCol : 0 < comment.startCol)
    (fits : comment.FitsWord) (transform : Text → Text) :
    comment.boundedTagsWith transform = comment.tagsWith transform := by
  rw [boundedTagsWith, tagsWith, kind]
  exact BlockReading.run_boundedStep startCol fits.lines fits.columns rfl

theorem boundedTagsWith_line (isLine : comment.kind = .line)
    (read : comment.tagsWith transform = .ok tags) :
    comment.boundedTagsWith transform =
      if tags.all (·.startCol < UInt64.size) then .ok tags else .error .beyondWord := by
  rw [tagsWith, isLine] at read
  rw [boundedTagsWith, isLine]
  cases found : comment.lineTag transform with
  | error fault =>
      simp only [found] at read
      cases read
  | ok tag =>
      simp only [found] at read
      obtain rfl := Except.ok.inj read
      cases tag with
      | none => rfl
      | some tag => simp [bind, Except.bind, pure, Except.pure]

theorem boundedTagsWith_line_of_fits {tag : Tag} (isLine : comment.kind = .line)
    (read : comment.tagsWith transform = .ok [tag]) (fits : tag.startCol < UInt64.size) :
    comment.boundedTagsWith transform = .ok [tag] := by
  rw [boundedTagsWith_line isLine read, List.all_cons, decide_eq_true fits]
  rfl

theorem segment_tagAt (transform : Text → Text) {line : KeywordLine}
    (member : line ∈ keywordLines comment.content) (shift : Nat) :
    comment.Segment transform line (BlockReading.tagAt transform shift
      (comment.startLine + line.index) line.text line.hit
      ((comment.content.drop (line.index + 1)).takeWhile BlockReading.continues)) := by
  obtain ⟨found, keyword⟩ := mem_keywordLines.mp member
  have taken : (comment.content.drop (line.index + 1)).takeWhile BlockReading.continues <+:
      comment.content.drop (line.index + 1) := List.takeWhile_prefix _
  refine ⟨rfl, rfl, rfl, _, _, BlockReading.isGreatest_goesOn found, Nat.add_assoc _ _ _,
    (KeywordHit.cuts_of_find_eq_some keyword).2, ?_⟩
  have count (more : Nat) : line.index + more + 1 - (line.index + 1) = more := by omega
  rw [List.drop_take, count, ← List.prefix_iff_eq_take.mp taken]
  rfl

/-- A block comment has one tag for each line with a keyword, in order, which takes the lines up to
the next one that is blank or has a keyword.  Asked one after the other, the tags come in
this order and nothing comes after them, and a claimed comment whose numbers fit is read alike. -/
theorem tagsWith_segments (kind : comment.kind = .block) (startCol : 1 ≤ comment.startCol)
    (transform : Text → Text) :
    ∃ tags, comment.tagsWith transform = .ok tags ∧
      List.Forall₂ (comment.Segment transform) (keywordLines comment.content) tags ∧
      (∀ count, comment.answers transform count (.ofComment comment) =
        .ok ((List.range count).map (tags[·]?))) ∧
      (comment.FitsWord → comment.boundedTagsWith transform = .ok tags) := by
  have read := tagsWith_block kind startCol transform
  refine ⟨_, read, ?_, answers_eq read, ?_⟩
  · rw [BlockReading.tagsFrom_eq_map, List.forall₂_map_right_iff, List.forall₂_same]
    intro line member
    exact segment_tagAt transform member _
  · intro fits
    rw [boundedTagsWith_block kind startCol fits, read]

def threeSegments : Comment :=
  { kind := .block, startLine := 7, startCol := 4, endLine := 13, endCol := 0
    content := [" notes".toList, " * REQUIRE: one".toList, " * more".toList, " ***".toList,
      " * SATISFIED(x): two".toList, "REQUIRE: three".toList, "and four".toList] }

theorem tagsWith_segments_threeSegments :
    threeSegments.kind = .block ∧ 1 ≤ threeSegments.startCol ∧ threeSegments.FitsWord ∧
    ∃ tags, threeSegments.tagsWith Tag.idPart = .ok tags ∧
      List.Forall₂ (threeSegments.Segment Tag.idPart) (keywordLines threeSegments.content) tags ∧
      (∀ count, threeSegments.answers Tag.idPart count (.ofComment threeSegments) =
        .ok ((List.range count).map (tags[·]?))) ∧
      threeSegments.boundedTagsWith Tag.idPart = .ok tags :=
  have startCol : 1 ≤ threeSegments.startCol := by decide
  have fits : threeSegments.FitsWord := ⟨by decide, by decide⟩
  have ⟨tags, read, segments, answers, bounded⟩ := tagsWith_segments rfl startCol Tag.idPart
  ⟨rfl, startCol, fits, tags, read, segments, answers, bounded fits⟩

end Comment
end Traceability
