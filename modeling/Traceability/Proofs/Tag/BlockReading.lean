import Traceability.Proofs.Tag.Keyword
import Traceability.Proofs.Text.Bytes
import Traceability.Tag.Parsing

/-!
The tags of a block comment, each with the lines it takes.

A tag belongs to a line with a keyword and takes all lines that follow up to a blank
one or the next one with a keyword.  `tagsFrom` lists the tags of some lines that way.
`run_eq_tagsFrom` says that reading the lines one by one, where a tag is only given
when a later line or the end closes it, finds exactly these.
-/

namespace Traceability
namespace BlockReading

open Text (byteLength columnAt)

/-- A line that goes on with the tag before it. -/
def continues (text : Text) : Bool :=
  !isBlankLine text && (KeywordHit.find text).isNone

/-- The tag of a keyword on a line that is moved to the right by `shift` columns, with
the lines it goes on over. -/
def tagAt (transform : Text → Text) (shift number : Nat) (text : Text) (hit : KeywordHit)
    (more : List Text) : Tag :=
  { kind := hit.kind, qualifier := hit.qualifier,
    id := Text.trim (Text.join [' ']
      (transform (text.drop (columnAt text hit.stop)) :: more.map transform)),
    startLine := number, startCol := columnAt text hit.stop + 1 + shift,
    endLine := number + more.length,
    endCol := more.getLast?.elim (text.length + shift) List.length }

/-- The columns by which a line of a comment is moved to the right: only the first line
does not start at the first column. -/
def shiftOf (startLine startCol number : Nat) : Nat :=
  if number = startLine then startCol - 1 else 0

/-- The tags of lines, the first of which has the given number. -/
def tagsFrom (startLine startCol : Nat) (transform : Text → Text) : Nat → List Text → List Tag
  | _, [] => []
  | number, text :: others =>
      match KeywordHit.find text with
      | none => tagsFrom startLine startCol transform (number + 1) others
      | some hit =>
          tagAt transform (shiftOf startLine startCol number) number text hit
              (others.takeWhile continues) ::
            tagsFrom startLine startCol transform (number + 1) others

theorem mem_tagsFrom {startLine startCol : Nat} {transform : Text → Text} {number : Nat}
    {lines : List Text} {tag : Tag}
    (member : tag ∈ tagsFrom startLine startCol transform number lines) :
    ∃ index text hit, lines[index]? = some text ∧ KeywordHit.find text = some hit ∧
      tag = tagAt transform (shiftOf startLine startCol (number + index)) (number + index)
        text hit ((lines.drop (index + 1)).takeWhile continues) := by
  induction lines generalizing number with
  | nil => cases member
  | cons text others ih =>
      have later (inOthers : tag ∈ tagsFrom startLine startCol transform (number + 1) others) :
          ∃ index line hit, (text :: others)[index]? = some line ∧
            KeywordHit.find line = some hit ∧
            tag = tagAt transform (shiftOf startLine startCol (number + index))
              (number + index) line hit
              (((text :: others).drop (index + 1)).takeWhile continues) := by
        obtain ⟨index, line, hit, found, keyword, same⟩ := ih inOthers
        refine ⟨index + 1, line, hit, found, keyword, ?_⟩
        rw [same, Nat.add_assoc number 1 index, Nat.add_comm 1 index, List.drop_succ_cons]
      rw [tagsFrom] at member
      cases keyword : KeywordHit.find text with
      | none =>
          rw [keyword] at member
          exact later member
      | some hit =>
          rw [keyword] at member
          rcases List.mem_cons.mp member with same | inOthers
          · exact ⟨0, text, hit, rfl, keyword, same⟩
          · exact later inOthers

/-! ### Reading line by line -/

def extend (transform : Text → Text) (tag : OpenTag) (more : List Text) : OpenTag :=
  { tag with
    idParts := tag.idParts ++ more.map transform
    endCol := more.getLast?.elim tag.endCol List.length }

private theorem extend_nil (transform : Text → Text) (tag : OpenTag) :
    extend transform tag [] = tag := by
  simp [extend]

private theorem extend_cons (transform : Text → Text) (tag : OpenTag) (text : Text)
    (more : List Text) :
    extend transform
        { tag with idParts := tag.idParts ++ [transform text], endCol := text.length } more =
      extend transform tag (text :: more) := by
  cases more with
  | nil => simp [extend]
  | cons next more => simp [extend, List.getLast?_cons]

def State.pending (transform : Text → Text) (number : Nat) (lines : List Text) :
    State → List Tag
  | .idle => []
  | .opened tag =>
      [(extend transform tag (lines.takeWhile continues)).close
        (number - 1 + (lines.takeWhile continues).length)]

def State.endsAt (number : Nat) : State → Option Tag
  | .idle => none
  | .opened tag => some (tag.close number)

private theorem endBefore_eq (state : State) (number : Nat) :
    state.endBefore (number + 1) = .ok (state.endsAt number) := by
  cases state <;> rfl

def openedAt (transform : Text → Text) (shift number : Nat) (text : Text) (hit : KeywordHit) :
    OpenTag :=
  { kind := hit.kind, qualifier := hit.qualifier, startLine := number,
    startCol := columnAt text hit.stop + 1 + shift, endCol := text.length + shift,
    idParts := [transform (text.drop (columnAt text hit.stop))] }

variable {startLine startCol : Nat}

theorem openAt_eq (positive : 0 < startCol) (transform : Text → Text) (number : Nat)
    {text : Text} {hit : KeywordHit} (found : KeywordHit.find text = some hit) :
    openAt startLine startCol transform number text hit =
      .ok (openedAt transform (shiftOf startLine startCol number) number text hit) := by
  obtain ⟨offset, tail⟩ := KeywordHit.cuts_of_find_eq_some found
  have shift : columnShift startLine startCol number =
      .ok (shiftOf startLine startCol number) := by
    obtain ⟨previous, rfl⟩ : ∃ previous, startCol = previous + 1 :=
      ⟨startCol - 1, by omega⟩
    unfold columnShift shiftOf
    split <;> rfl
  simp only [openAt, openedAt, offset, shift, tail]
  rfl

/-! ### The three kinds of line -/

theorem step_blank (transform : Text → Text) (number : Nat) {text : Text} (state : State)
    (blank : isBlankLine text = true) :
    step startLine startCol transform (number + 1) text state =
      .ok (state.endsAt number, .idle) := by
  simp only [step, blank, if_true, endBefore_eq]
  rfl

theorem step_keyword (positive : 0 < startCol) (transform : Text → Text) (number : Nat)
    {text : Text} {hit : KeywordHit} (state : State)
    (keyword : KeywordHit.find text = some hit) :
    step startLine startCol transform (number + 1) text state =
      .ok (state.endsAt number, .opened
        (openedAt transform (shiftOf startLine startCol (number + 1)) (number + 1) text hit)) := by
  have written := KeywordHit.isBlankLine_of_find_eq_some keyword
  simp only [step, written, keyword, endBefore_eq, openAt_eq positive transform _ keyword]
  rfl

def State.taking (transform : Text → Text) (text : Text) : State → State
  | .idle => .idle
  | .opened tag => .opened
      { tag with idParts := tag.idParts ++ [transform text], endCol := text.length }

theorem step_continues (transform : Text → Text) (number : Nat) {text : Text} (state : State)
    (goesOn : continues text = true) :
    step startLine startCol transform (number + 1) text state =
      .ok (none, state.taking transform text) := by
  simp only [continues, Bool.and_eq_true, Bool.not_eq_true', Option.isNone_iff_eq_none] at goesOn
  obtain ⟨written, keyword⟩ := goesOn
  simp only [step, written, keyword]
  cases state <;> rfl

private theorem pending_of_not_continues (transform : Text → Text) (state : State)
    (number : Nat) {text : Text} (others : List Text) (stops : continues text = false) :
    state.pending transform (number + 1) (text :: others) = (state.endsAt number).toList := by
  cases state with
  | idle => rfl
  | opened tag => simp [State.pending, State.endsAt, stops, extend_nil]

private theorem pending_of_continues (transform : Text → Text) (state : State) (number : Nat)
    {text : Text} (others : List Text) (goesOn : continues text = true) :
    state.pending transform (number + 1) (text :: others) =
      (state.taking transform text).pending transform (number + 2) others := by
  cases state with
  | idle => rfl
  | opened tag =>
      have length : number + 1 - 1 + ((others.takeWhile continues).length + 1) =
          number + 2 - 1 + (others.takeWhile continues).length := by
        omega
      simp only [State.pending, State.taking, List.takeWhile_cons, goesOn, if_true, extend_cons,
        List.length_cons, length]

/-- Reading line by line gives the tag that is open before the lines and then the tags
of the lines. -/
theorem run_eq_tagsFrom (positive : 0 < startCol) (transform : Text → Text) (number : Nat)
    (lines : List Text) (state : State) :
    run (step startLine startCol transform) (number + 1) lines state =
      .ok (state.pending transform (number + 1) lines ++
        tagsFrom startLine startCol transform (number + 1) lines) := by
  induction lines generalizing number state with
  | nil =>
      rw [run, endBefore_eq]
      cases state with
      | idle => rfl
      | opened tag => simp [State.pending, State.endsAt, extend_nil, tagsFrom, Except.map]
  | cons text others ih =>
      rw [run, tagsFrom]
      cases keyword : KeywordHit.find text with
      | some hit =>
          have stops : continues text = false := by simp [continues, keyword]
          rw [step_keyword positive transform number state keyword,
            pending_of_not_continues transform state number others stops]
          change (run _ (number + 1 + 1) others _).bind _ = _
          rw [ih]
          rfl
      | none =>
          cases goesOn : continues text with
          | true =>
              rw [step_continues transform number state goesOn,
                pending_of_continues transform state number others goesOn]
              change (run _ (number + 1 + 1) others _).bind _ = _
              rw [ih]
              rfl
          | false =>
              have blank : isBlankLine text = true := by
                simpa [continues, keyword] using goesOn
              rw [step_blank transform number state blank,
                pending_of_not_continues transform state number others goesOn]
              change (run _ (number + 1 + 1) others _).bind _ = _
              rw [ih]
              rfl

/-! ### Reading from the start -/

theorem step_idle (positive : 0 < startCol) (transform : Text → Text) (number : Nat)
    (text : Text) :
    step startLine startCol transform number text .idle =
      .ok (none, (KeywordHit.find text).elim .idle fun hit =>
        .opened (openedAt transform (shiftOf startLine startCol number) number text hit)) := by
  cases keyword : KeywordHit.find text with
  | some hit =>
      have written := KeywordHit.isBlankLine_of_find_eq_some keyword
      simp only [step, written, keyword, openAt_eq positive transform _ keyword]
      rfl
  | none =>
      cases blank : isBlankLine text <;> simp only [step, blank, keyword] <;> rfl

/-- Where no tag is open the first line may have any number: no tag ends before it. -/
theorem run_idle_eq_tagsFrom (positive : 0 < startCol) (transform : Text → Text) (number : Nat)
    (lines : List Text) :
    run (step startLine startCol transform) number lines .idle =
      .ok (tagsFrom startLine startCol transform number lines) := by
  cases lines with
  | nil => rfl
  | cons text others =>
      rw [run, tagsFrom, step_idle positive]
      change (run _ (number + 1) others _).bind _ = _
      rw [run_eq_tagsFrom positive]
      cases KeywordHit.find text with
      | none => rfl
      | some hit => rfl

end BlockReading
end Traceability
