import Mathlib.Data.List.TakeWhile
import Traceability.Mark.Form
import Traceability.Proofs.Text.Bytes

/-!
What the search for a form finds.

A span that a search returns shows a text that the form matches there.  A form has letters,
and what it matches is made of them.  Where two forms have no letter in common, no match of
the one can hide or cut a match of the other, and the search for either of them finds what
the two searches find (`MarkForm.mem_occurrences_either`).
-/

namespace Traceability

open Text (byteLength)

/-- The span is where the given text stands in the line. -/
def Span.Shows (line : Text) (span : Span) (mark : Text) : Prop :=
  ∃ before after, line = before ++ mark ++ after ∧ span.start = byteLength before ∧
    span.stop = byteLength (before ++ mark)

theorem Span.Shows.stop_eq {line mark : Text} {span : Span} (shows : span.Shows line mark) :
    span.stop = span.start + byteLength mark := by
  obtain ⟨before, after, _, start, stop⟩ := shows
  rw [start, stop, Text.byteLength_append]

/-- Two marks that start at one place show texts that go on from there. -/
theorem Span.Shows.append_eq_of_start_eq {line mark other : Text} {first second : Span}
    (shows : first.Shows line mark) (otherShows : second.Shows line other)
    (same : first.start = second.start) :
    ∃ after otherAfter, mark ++ after = other ++ otherAfter := by
  obtain ⟨before, after, whole, start, _⟩ := shows
  obtain ⟨otherBefore, otherAfter, otherWhole, otherStart, _⟩ := otherShows
  have sameLength : byteLength before = byteLength otherBefore := by
    rw [← start, ← otherStart, same]
  have sameLine : before ++ (mark ++ after) = otherBefore ++ (other ++ otherAfter) := by
    rw [← List.append_assoc, ← List.append_assoc, ← whole, otherWhole]
  obtain ⟨middle, rfl, rest⟩ :=
    Text.exists_append_of_byteLength_le sameLine (Nat.le_of_eq sameLength)
  have empty : middle = [] := by
    apply Text.eq_nil_of_byteLength_eq_zero
    rw [Text.byteLength_append] at sameLength
    omega
  rw [empty, List.nil_append] at rest
  exact ⟨after, otherAfter, rest⟩

theorem Span.Shows.head?_of_start_within {line mark other : Text} {outer inner : Span}
    (shows : outer.Shows line mark) (innerShows : inner.Shows line other)
    (nonempty : other ≠ []) (notBefore : outer.start ≤ inner.start)
    (inside : inner.start < outer.stop) :
    ∃ front c back, mark = front ++ c :: back ∧ other.head? = some c ∧
      inner.start = outer.start + byteLength front := by
  obtain ⟨before, after, whole, start, stop⟩ := shows
  obtain ⟨innerBefore, innerAfter, innerWhole, innerStart, _⟩ := innerShows
  rw [start, innerStart] at notBefore
  rw [innerStart, stop, Text.byteLength_append] at inside
  have same : before ++ (mark ++ after) = innerBefore ++ (other ++ innerAfter) := by
    rw [← List.append_assoc, ← List.append_assoc, ← whole, innerWhole]
  obtain ⟨front, rfl, rest⟩ := Text.exists_append_of_byteLength_le same notBefore
  rw [Text.byteLength_append] at inside
  obtain ⟨tail, rfl, common⟩ :=
    Text.exists_append_of_byteLength_le rest.symm (by omega)
  have offset : inner.start = outer.start + byteLength front := by
    rw [innerStart, start, Text.byteLength_append]
  cases tail with
  | nil =>
      rw [List.append_nil] at inside
      omega
  | cons c back =>
      cases other with
      | nil => exact absurd rfl nonempty
      | cons d others =>
          obtain ⟨rfl, _⟩ := List.cons.inj common
          exact ⟨front, d, back, rfl, rfl, offset⟩

theorem Span.Shows.head?_of_start_inside {line mark other : Text} {outer inner : Span}
    (shows : outer.Shows line mark) (innerShows : inner.Shows line other)
    (nonempty : other ≠ []) (later : outer.start < inner.start)
    (inside : inner.start < outer.stop) :
    ∃ front c back, mark = front ++ c :: back ∧ front ≠ [] ∧ other.head? = some c ∧
      inner.start = outer.start + byteLength front := by
  obtain ⟨front, c, back, whole, head, start⟩ :=
    shows.head?_of_start_within innerShows nonempty (Nat.le_of_lt later) inside
  have frontNonempty : front ≠ [] := by
    rintro rfl
    rw [Text.byteLength_nil] at start
    omega
  exact ⟨front, c, back, whole, frontNonempty, head, start⟩

namespace MarkForm

variable {form first second : MarkForm} {line : Text} {span : Span}

private theorem exists_match_of_mem_occurrencesFrom (taken : Nat) (before rest : Text)
    (member : span ∈ form.occurrencesFrom taken (byteLength before) rest) :
    ∃ front back count isLineStart, before ++ rest = front ++ back ∧
      form.length? isLineStart back = some count ∧ back.take count ≠ [] ∧
      span.start = byteLength front ∧ span.stop = byteLength (front ++ back.take count) := by
  induction rest generalizing taken before with
  | nil => cases taken <;> simp [occurrencesFrom] at member
  | cons c rest ih =>
      have next : byteLength before + c.utf8Size = byteLength (before ++ [c]) := by simp
      have whole : before ++ c :: rest = before ++ [c] ++ rest := by simp
      cases taken with
      | succ taken =>
          rw [whole]
          exact ih taken (before ++ [c]) (by simpa [occurrencesFrom] using member)
      | zero =>
          unfold occurrencesFrom at member
          split at member
          · rename_i count found
            rcases List.mem_cons.mp member with rfl | member
            · exact ⟨before, c :: rest, count + 1, _, rfl, found, by simp, rfl, by simp⟩
            · rw [whole]
              exact ih _ (before ++ [c]) (by rw [← next]; exact member)
          · rw [whole]
            exact ih _ (before ++ [c]) (by rw [← next]; exact member)

theorem exists_match_of_mem_occurrences (member : span ∈ form.occurrences line) :
    ∃ rest count isLineStart, form.length? isLineStart rest = some count ∧
      rest.take count ≠ [] ∧ span.Shows line (rest.take count) := by
  obtain ⟨front, back, count, isLineStart, whole, found, nonempty, start, stop⟩ :=
    exists_match_of_mem_occurrencesFrom 0 [] line member
  refine ⟨back, count, isLineStart, found, nonempty, front, back.drop count, ?_, start, stop⟩
  rw [List.append_assoc, List.take_append_drop]
  exact whole

/-! ### Letters -/

/-- A form whose items take only the given letters, and at least one of them. -/
structure WrittenWith (form : MarkForm) (letter : Char → Prop) : Prop where
  letters : ∀ alternative ∈ form.alternatives, ∀ item ∈ alternative.items, ∀ c,
    item.chars.accepts c = true → letter c
  takes : ∀ alternative ∈ form.alternatives, ∃ item ∈ alternative.items,
    item.repetition ≠ .anyNumber

private theorem accepts_of_item {item : MarkItem} {text : Text} {count : Nat}
    (found : item.length? text = some count) : ∀ c ∈ text.take count, item.chars.accepts c := by
  have ofRun : ∀ c ∈ text.take (text.takeWhile item.chars.accepts).length,
      item.chars.accepts c = true := by
    intro c member
    rw [← List.prefix_iff_eq_take.mp (List.takeWhile_prefix _)] at member
    exact List.mem_takeWhile_imp member
  unfold MarkItem.length? at found
  cases repetition : item.repetition with
  | once =>
      simp only [repetition] at found
      split at found
      · rename_i accepted
        obtain rfl := Option.some.inj found
        cases text with
        | nil => exact nofun
        | cons first others => simpa using accepted
      · cases found
  | anyNumber =>
      simp only [repetition] at found
      obtain rfl := Option.some.inj found
      exact ofRun
  | atLeastOnce =>
      simp only [repetition] at found
      split at found
      · cases found
      · obtain rfl := Option.some.inj found
        exact ofRun

private theorem pos_of_item {item : MarkItem} {text : Text} {count : Nat}
    (found : item.length? text = some count) (takes : item.repetition ≠ .anyNumber) :
    0 < count := by
  unfold MarkItem.length? at found
  cases repetition : item.repetition with
  | once =>
      simp only [repetition] at found
      split at found
      · obtain rfl := Option.some.inj found
        exact Nat.zero_lt_one
      · cases found
  | anyNumber => exact absurd repetition takes
  | atLeastOnce =>
      simp only [repetition] at found
      split at found
      · cases found
      · rename_i nonempty
        obtain rfl := Option.some.inj found
        exact List.length_pos_iff.mpr (by simpa using nonempty)

private theorem lengthOfAll?_cons {item : MarkItem} {others : List MarkItem} {text : Text}
    {count : Nat} (found : MarkItem.lengthOfAll? (item :: others) text = some count) :
    ∃ here later, item.length? text = some here ∧
      MarkItem.lengthOfAll? others (text.drop here) = some later ∧ count = here + later := by
  obtain ⟨here, isHere, rest⟩ := Option.bind_eq_some_iff.mp found
  obtain ⟨later, isLater, same⟩ := Option.map_eq_some_iff.mp rest
  exact ⟨here, later, isHere, isLater, same.symm⟩

private theorem accepts_of_items {items : List MarkItem} {text : Text} {count : Nat}
    (found : MarkItem.lengthOfAll? items text = some count) :
    ∀ c ∈ text.take count, ∃ item ∈ items, item.chars.accepts c = true := by
  induction items generalizing text count with
  | nil =>
      obtain rfl := Option.some.inj found
      exact nofun
  | cons item others ih =>
      obtain ⟨here, later, isHere, isLater, rfl⟩ := lengthOfAll?_cons found
      intro c member
      rw [List.take_add, List.mem_append] at member
      rcases member with member | member
      · exact ⟨item, .head _, accepts_of_item isHere c member⟩
      · obtain ⟨other, present, accepted⟩ := ih isLater c member
        exact ⟨other, .tail _ present, accepted⟩

private theorem pos_of_items {items : List MarkItem} {text : Text} {count : Nat}
    (found : MarkItem.lengthOfAll? items text = some count)
    (takes : ∃ item ∈ items, item.repetition ≠ .anyNumber) : 0 < count := by
  induction items generalizing text count with
  | nil =>
      obtain ⟨item, member, _⟩ := takes
      cases member
  | cons item others ih =>
      obtain ⟨here, later, isHere, isLater, rfl⟩ := lengthOfAll?_cons found
      obtain ⟨taking, member, repeated⟩ := takes
      rcases List.mem_cons.mp member with rfl | member
      · have positive := pos_of_item isHere repeated
        omega
      · have positive := ih isLater ⟨taking, member, repeated⟩
        omega

private theorem lengthOfAll?_of_length? {isLineStart : Bool} {text : Text} {count : Nat}
    (found : form.length? isLineStart text = some count) :
    ∃ alternative ∈ form.alternatives,
      MarkItem.lengthOfAll? alternative.items text = some count := by
  obtain ⟨alternative, member, matched⟩ := List.exists_of_findSome?_eq_some found
  refine ⟨alternative, member, ?_⟩
  unfold MarkAlternative.length? at matched
  split at matched
  · cases matched
  · exact (Option.filter_eq_some_iff.mp matched).1

namespace WrittenWith

variable {letter : Char → Prop} {isLineStart : Bool} {text : Text} {count : Nat}

theorem of_length? (written : form.WrittenWith letter)
    (found : form.length? isLineStart text = some count) : ∀ c ∈ text.take count, letter c := by
  obtain ⟨alternative, member, matched⟩ := lengthOfAll?_of_length? found
  intro c inMatch
  obtain ⟨item, present, accepted⟩ := accepts_of_items matched c inMatch
  exact written.letters alternative member item present c accepted

theorem pos_of_length? (written : form.WrittenWith letter)
    (found : form.length? isLineStart text = some count) : 0 < count := by
  obtain ⟨alternative, member, matched⟩ := lengthOfAll?_of_length? found
  exact pos_of_items matched (written.takes alternative member)

theorem shows (written : form.WrittenWith letter) (member : span ∈ form.occurrences line) :
    ∃ mark, mark ≠ [] ∧ (∀ c ∈ mark, letter c) ∧ span.Shows line mark := by
  obtain ⟨rest, count, isLineStart, found, nonempty, shown⟩ :=
    exists_match_of_mem_occurrences member
  exact ⟨rest.take count, nonempty, written.of_length? found, shown⟩

theorem stop_le_of_start_le {other : MarkForm} {otherLetter : Char → Prop} {otherSpan : Span}
    (written : form.WrittenWith letter) (otherWritten : other.WrittenWith otherLetter)
    (apart : ∀ c, letter c → ¬otherLetter c) (member : span ∈ form.occurrences line)
    (otherMember : otherSpan ∈ other.occurrences line)
    (ordered : span.start ≤ otherSpan.start) : span.stop ≤ otherSpan.start := by
  rcases Nat.lt_or_ge otherSpan.start span.stop with inside | outside
  · obtain ⟨mark, _, letters, shows⟩ := written.shows member
    obtain ⟨otherMark, nonempty, otherLetters, otherShows⟩ := otherWritten.shows otherMember
    obtain ⟨front, c, back, rfl, head, _⟩ :=
      shows.head?_of_start_within otherShows nonempty ordered inside
    have isLetter : letter c := letters c (by simp)
    exact absurd (otherLetters c (List.mem_of_mem_head? head)) (apart c isLetter)
  · exact outside

end WrittenWith

/-! ### Literal marks -/

theorem literal_writtenWith {mark : Text} (nonempty : mark ≠ []) :
    (literal mark).WrittenWith (· ∈ mark) := by
  constructor
  · intro alternative member item present c accepted
    obtain rfl := List.mem_singleton.mp member
    obtain ⟨letter, inMark, rfl⟩ := List.mem_map.mp present
    have same : letter = c := by simpa [CharSet.accepts] using accepted
    exact same ▸ inMark
  · intro alternative member
    obtain rfl := List.mem_singleton.mp member
    obtain ⟨letter, inMark⟩ := List.exists_mem_of_ne_nil mark nonempty
    exact ⟨_, List.mem_map.mpr ⟨letter, inMark, rfl⟩, nofun⟩

private theorem lengthOfAll?_exactly {mark text : Text} {count : Nat}
    (found : MarkItem.lengthOfAll? (exactly mark).items text = some count) :
    text.take count = mark := by
  induction mark generalizing text count with
  | nil =>
      obtain rfl := Option.some.inj found
      rfl
  | cons c others ih =>
      obtain ⟨here, later, isHere, isLater, rfl⟩ := lengthOfAll?_cons found
      cases text with
      | nil => cases isHere
      | cons first rest =>
          simp only [MarkItem.length?, List.head?_cons, Option.any_some, CharSet.accepts,
            beq_iff_eq] at isHere
          by_cases same : c = first
          · rw [if_pos same] at isHere
            obtain rfl := Option.some.inj isHere
            have others : rest.take later = others := ih isLater
            rw [Nat.add_comm, List.take_succ_cons, others, same]
          · rw [if_neg same] at isHere
            cases isHere

theorem shows_of_mem_literal {mark : Text} (member : span ∈ (literal mark).occurrences line) :
    span.Shows line mark := by
  obtain ⟨rest, count, isLineStart, found, _, shown⟩ := exists_match_of_mem_occurrences member
  obtain ⟨alternative, isLiteral, matched⟩ := lengthOfAll?_of_length? found
  obtain rfl := List.mem_singleton.mp isLiteral
  rw [lengthOfAll?_exactly matched] at shown
  exact shown

/-! ### Two forms in one search -/

/-- The alternatives of both forms, those of the first one tried first. -/
def either (first second : MarkForm) : MarkForm :=
  { alternatives := first.alternatives ++ second.alternatives }

theorem WrittenWith.either {letter otherLetter : Char → Prop} (written : first.WrittenWith letter)
    (otherWritten : second.WrittenWith otherLetter) :
    (first.either second).WrittenWith fun c => letter c ∨ otherLetter c := by
  constructor
  · intro alternative member item present c accepted
    rcases List.mem_append.mp member with member | member
    · exact .inl (written.letters alternative member item present c accepted)
    · exact .inr (otherWritten.letters alternative member item present c accepted)
  · intro alternative member
    rcases List.mem_append.mp member with member | member
    · exact written.takes alternative member
    · exact otherWritten.takes alternative member

private theorem length?_either (first second : MarkForm) (isLineStart : Bool) (text : Text) :
    (first.either second).length? isLineStart text =
      (first.length? isLineStart text).or (second.length? isLineStart text) :=
  List.findSome?_append

private theorem occurrencesFrom_of_not_letter {letter : Char → Prop}
    (written : form.WrittenWith letter) (offset : Nat) {c : Char} (rest : Text)
    (other : ¬letter c) :
    form.length? (offset == 0) (c :: rest) = none ∧
      form.occurrencesFrom 0 offset (c :: rest) =
        form.occurrencesFrom 0 (offset + c.utf8Size) rest := by
  have unmatched : form.length? (offset == 0) (c :: rest) = none := by
    cases found : form.length? (offset == 0) (c :: rest) with
    | none => rfl
    | some count =>
        obtain ⟨fewer, rfl⟩ : ∃ fewer, count = fewer + 1 :=
          Nat.exists_eq_succ_of_ne_zero (Nat.ne_of_gt (written.pos_of_length? found))
        exact absurd (written.of_length? found c (by simp)) other
  refine ⟨unmatched, ?_⟩
  rw [occurrencesFrom, unmatched]

section Either

variable {letter otherLetter : Char → Prop} (written : first.WrittenWith letter)
  (otherWritten : second.WrittenWith otherLetter) (apart : ∀ c, letter c → ¬otherLetter c)

include written otherWritten apart

/-- At most one of the forms has a match that reaches into the rest of the line, and while it
lasts there are only letters of this form, at which the other one has no match. -/
private theorem mem_occurrencesFrom_either (taken otherTaken offset : Nat) (rest : Text)
    (letters : ∀ c ∈ rest.take taken, letter c)
    (otherLetters : ∀ c ∈ rest.take otherTaken, otherLetter c)
    (one : taken = 0 ∨ otherTaken = 0) :
    span ∈ (first.either second).occurrencesFrom (taken + otherTaken) offset rest ↔
      span ∈ first.occurrencesFrom taken offset rest ∨
        span ∈ second.occurrencesFrom otherTaken offset rest := by
  induction rest generalizing taken otherTaken offset with
  | nil => simp [occurrencesFrom]
  | cons c rest ih =>
      have skip := ih 0 0 (offset + c.utf8Size) (by simp) (by simp) (.inl rfl)
      cases taken with
      | succ taken =>
          obtain rfl : otherTaken = 0 := by omega
          have here : letter c := letters c (by simp)
          rw [(occurrencesFrom_of_not_letter otherWritten offset rest (apart c here)).2,
            Nat.add_zero, occurrencesFrom, occurrencesFrom]
          exact ih taken 0 _ (fun other member => letters other (by simp [member])) (by simp)
            (.inr rfl)
      | zero =>
          cases otherTaken with
          | succ otherTaken =>
              have here : otherLetter c := otherLetters c (by simp)
              rw [(occurrencesFrom_of_not_letter written offset rest
                fun isLetter => apart c isLetter here).2, Nat.zero_add, occurrencesFrom,
                occurrencesFrom]
              have later := ih 0 otherTaken (offset + c.utf8Size) (by simp)
                (fun other member => otherLetters other (by simp [member])) (.inl rfl)
              rw [Nat.zero_add] at later
              exact later
          | zero =>
              cases found : first.length? (offset == 0) (c :: rest) with
              | some count =>
                  obtain ⟨fewer, rfl⟩ : ∃ fewer, count = fewer + 1 :=
                    Nat.exists_eq_succ_of_ne_zero (Nat.ne_of_gt (written.pos_of_length? found))
                  have matched := written.of_length? found
                  have later := ih fewer 0 (offset + c.utf8Size)
                    (fun other member => matched other (by simp [member])) (by simp) (.inr rfl)
                  rw [(occurrencesFrom_of_not_letter otherWritten offset rest
                    (apart c (matched c (by simp)))).2, occurrencesFrom, occurrencesFrom,
                    length?_either, found]
                  rw [Nat.add_zero] at later
                  simp only [Option.some_or, List.mem_cons, later]
                  exact or_assoc.symm
              | none =>
                  have unmatched : first.occurrencesFrom 0 offset (c :: rest) =
                      first.occurrencesFrom 0 (offset + c.utf8Size) rest := by
                    rw [occurrencesFrom, found]
                  rw [unmatched, occurrencesFrom, length?_either, found, Option.none_or,
                    occurrencesFrom]
                  cases otherFound : second.length? (offset == 0) (c :: rest) with
                  | none => exact skip
                  | some count =>
                      obtain ⟨fewer, rfl⟩ : ∃ fewer, count = fewer + 1 :=
                        Nat.exists_eq_succ_of_ne_zero
                          (Nat.ne_of_gt (otherWritten.pos_of_length? otherFound))
                      have matched := otherWritten.of_length? otherFound
                      have later := ih 0 fewer (offset + c.utf8Size) (by simp)
                        (fun other member => matched other (by simp [member])) (.inl rfl)
                      rw [Nat.zero_add] at later
                      simp only [List.mem_cons, later]
                      exact or_left_comm

/-- Where two forms have no letter in common, one search for both finds what two find. -/
theorem mem_occurrences_either :
    span ∈ (first.either second).occurrences line ↔
      span ∈ first.occurrences line ∨ span ∈ second.occurrences line :=
  mem_occurrencesFrom_either written otherWritten apart 0 0 0 line (by simp) (by simp) (.inl rfl)

end Either

end MarkForm
end Traceability
