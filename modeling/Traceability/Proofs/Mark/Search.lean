import Traceability.Proofs.Mark.Form
import Traceability.Proofs.Text.Boundary

/-!
The search for a mark is greedy.

A search goes from left to right and takes every match that does not begin inside the match
before it.  So nothing is missed: where a form matches, the match is returned, or a returned one
that starts earlier reaches into it (`MarkForm.mem_or_overlapped`).  For a literal mark this and
the order of the spans leave one answer only (`MarkForm.occurrences_literal_iff`).
-/

namespace Traceability

open Text (byteLength IsBoundary)

/-! ### Spans as slices -/

namespace Span

variable {line mark : Text} {span : Span}

theorem shows_iff_slice :
    span.Shows line mark ↔ Text.sliceBytes? line span.start span.stop = some mark := by
  constructor
  · rintro ⟨before, after, rfl, start, stop⟩
    rw [start, stop]
    exact Text.sliceBytes?_byteLength before mark after
  · intro slice
    unfold Text.sliceBytes? at slice
    split at slice
    · obtain ⟨front, taken, dropped⟩ := Option.bind_eq_some_iff.mp slice
      obtain ⟨⟨_, after⟩, cutBehind, rfl⟩ := Option.map_eq_some_iff.mp taken
      obtain ⟨⟨before, _⟩, cutBefore, rfl⟩ := Option.map_eq_some_iff.mp dropped
      obtain ⟨rfl, stop⟩ := Text.splitAtByte?_eq_some cutBehind
      obtain ⟨same, start⟩ := Text.splitAtByte?_eq_some cutBefore
      dsimp only at same stop ⊢
      subst same
      exact ⟨before, after, rfl, start, stop⟩
    · cases slice

theorem Shows.isBoundary (shows : span.Shows line mark) :
    IsBoundary line span.start ∧ IsBoundary line span.stop := by
  obtain ⟨before, after, rfl, start, stop⟩ := shows
  constructor
  · exact Text.isBoundary_iff.mpr ⟨before, mark ++ after, List.append_assoc .., start⟩
  · exact Text.isBoundary_iff.mpr ⟨before ++ mark, after, rfl, stop⟩

/-- A later span begins inside this one. -/
def ReachesInto (earlier later : Span) : Prop :=
  earlier.start < later.start ∧ later.start < earlier.stop

/-- What a search for a mark returns when it takes the leftmost match each time and goes on
behind it. -/
structure Greedy (line mark : Text) (spans : List Span) : Prop where
  boundaries : ∀ span ∈ spans, IsBoundary line span.start ∧ IsBoundary line span.stop
  slices : ∀ span ∈ spans, Text.sliceBytes? line span.start span.stop = some mark
  ascending : spans.Pairwise fun left right => left.start < right.start ∧ left.stop ≤ right.start
  maximal : ∀ span, Text.sliceBytes? line span.start span.stop = some mark →
    span ∈ spans ∨ ∃ earlier ∈ spans, earlier.ReachesInto span

namespace Greedy

variable {spans others : List Span}

theorem placed (greedy : Greedy line mark spans) (nonempty : mark ≠ []) : Placed line spans := by
  constructor
  · intro span member
    obtain ⟨before, after, whole, start, stop⟩ := shows_iff_slice.mpr (greedy.slices span member)
    exact ⟨before, mark, after, whole, nonempty, start, stop⟩
  · exact greedy.ascending.imp And.right

/-- By induction on the start: a span of the other list that reaches into this one is earlier, so
it belongs to this list as well, where spans are apart. -/
theorem mem_of_mem (nonempty : mark ≠ []) (greedy : Greedy line mark spans)
    (other : Greedy line mark others) {span : Span} (member : span ∈ spans) : span ∈ others := by
  induction start : span.start using Nat.strong_induction_on generalizing span spans others with
  | h position ih =>
      rcases other.maximal span (greedy.slices span member) with found | hidden
      · exact found
      · obtain ⟨earlier, earlierMember, before, inside⟩ := hidden
        have here : earlier ∈ spans :=
          ih earlier.start (start ▸ before) other greedy earlierMember rfl
        have apart := (greedy.placed nonempty).stop_le_of_start_lt here member before
        exact absurd inside (Nat.not_lt_of_le apart)

theorem unique (nonempty : mark ≠ []) (greedy : Greedy line mark spans)
    (other : Greedy line mark others) : spans = others := by
  have same (span : Span) : span ∈ spans ↔ span ∈ others :=
    ⟨mem_of_mem nonempty greedy other, mem_of_mem nonempty other greedy⟩
  have perm : spans.Perm others :=
    (List.perm_ext_iff_of_nodup (greedy.placed nonempty).nodup (other.placed nonempty).nodup).mpr
      same
  refine perm.eq_of_pairwise ?_ greedy.ascending other.ascending
  intro left right _ _ before after
  omega

end Greedy

end Span

namespace MarkForm

variable {form : MarkForm} {line : Text}

/-! ### No match is missed -/

/-- The first `taken` characters belong to the match found last, and the match in question begins
behind them.  Either it begins inside the next match, or the search comes to it. -/
private theorem mem_or_overlapped_from {span : Span} {taken count : Nat} (before : Text)
    {front back : Text}
    (found : form.length? (byteLength (before ++ front) == 0) back = some (count + 1))
    (nonempty : back ≠ []) (start : span.start = byteLength (before ++ front))
    (stop : span.stop = byteLength (before ++ front ++ back.take (count + 1)))
    (behind : taken ≤ front.length) :
    span ∈ form.occurrencesFrom taken (byteLength before) (front ++ back) ∨
      ∃ earlier ∈ form.occurrencesFrom taken (byteLength before) (front ++ back),
        earlier.ReachesInto span := by
  induction front generalizing taken before with
  | nil =>
      obtain rfl : taken = 0 := Nat.le_zero.mp behind
      cases back with
      | nil => exact absurd rfl nonempty
      | cons c rest =>
          rw [List.append_nil] at found start stop
          have here : span =
              { start := byteLength before
                stop := byteLength before + byteLength ((c :: rest).take (count + 1)) } := by
            rw [← Text.byteLength_append, ← start, ← stop]
          left
          rw [List.nil_append, occurrencesFrom, found, here]
          exact List.mem_cons_self
  | cons c front ih =>
      have next : byteLength before + c.utf8Size = byteLength (before ++ [c]) := by simp
      have whole : before ++ c :: front = before ++ [c] ++ front := by simp
      rw [whole] at found start stop
      rw [List.length_cons] at behind
      cases taken with
      | succ taken =>
          have later := ih (before ++ [c]) found start stop (Nat.le_of_succ_le_succ behind)
          rw [← next] at later
          exact later
      | zero =>
          rw [List.cons_append, occurrencesFrom]
          split
          · rename_i reach _
            rcases Nat.lt_or_ge front.length reach with inside | outside
            · -- The match at this place lasts longer than the front, so it is the earlier one.
              right
              have positive := c.utf8Size_pos
              have longer := Text.byteLength_lt_take nonempty inside
              rw [Text.byteLength_append, ← next] at start
              refine ⟨_, List.mem_cons_self, ?_, ?_⟩
              · dsimp only
                omega
              · rw [List.take_succ_cons, Text.byteLength_cons]
                dsimp only
                omega
            · have later := ih (before ++ [c]) found start stop outside
              rw [← next] at later
              rcases later with member | ⟨earlier, member, reaches⟩
              · exact .inl (.tail _ member)
              · exact .inr ⟨earlier, .tail _ member, reaches⟩
          · have later := ih (before ++ [c]) found start stop (Nat.zero_le _)
            rw [← next] at later
            exact later

theorem mem_or_overlapped {span : Span} {front back : Text} {count : Nat}
    (found : form.length? (byteLength front == 0) back = some (count + 1)) (nonempty : back ≠ [])
    (start : span.start = byteLength front)
    (stop : span.stop = byteLength (front ++ back.take (count + 1))) :
    span ∈ form.occurrences (front ++ back) ∨
      ∃ earlier ∈ form.occurrences (front ++ back), earlier.ReachesInto span :=
  mem_or_overlapped_from [] found nonempty start stop (Nat.zero_le _)

/-! ### Literal marks -/

theorem occurrences_literal_nil (line : Text) : (literal []).occurrences line = [] := by
  have nowhere (offset : Nat) (rest : Text) :
      (literal []).occurrencesFrom 0 offset rest = [] := by
    induction rest generalizing offset with
    | nil => rfl
    | cons c rest ih => exact ih (offset + c.utf8Size)
  exact nowhere 0 line

theorem length?_literal (mark after : Text) (isLineStart : Bool) :
    (literal mark).length? isLineStart (mark ++ after) = some mark.length := by
  have items : MarkItem.lengthOfAll? (exactly mark).items (mark ++ after) = some mark.length := by
    induction mark with
    | nil => rfl
    | cons c mark ih =>
        have first : MarkItem.length? { chars := .exactly c } (c :: (mark ++ after)) = some 1 := by
          simp [MarkItem.length?, CharSet.accepts]
        have others : MarkItem.lengthOfAll? (exactly (c :: mark)).items (c :: (mark ++ after)) =
            (MarkItem.length? { chars := .exactly c } (c :: (mark ++ after))).bind fun count =>
              (MarkItem.lengthOfAll? (exactly mark).items
                ((c :: (mark ++ after)).drop count)).map (count + ·) := rfl
        rw [List.cons_append, others, first, Option.bind_some, List.drop_one, List.tail_cons, ih,
          Option.map_some, Nat.add_comm, List.length_cons]
  rw [length?, literal, List.findSome?_singleton, MarkAlternative.length?, items]
  rfl

theorem mem_literal_or_overlapped {mark : Text} (nonempty : mark ≠ []) {span : Span}
    (shows : span.Shows line mark) :
    span ∈ (literal mark).occurrences line ∨
      ∃ earlier ∈ (literal mark).occurrences line, earlier.ReachesInto span := by
  obtain ⟨before, after, rfl, start, stop⟩ := shows
  obtain ⟨count, length⟩ := Nat.exists_eq_add_one.mpr (List.length_pos_iff.mpr nonempty)
  have found := length?_literal mark after (byteLength before == 0)
  rw [length] at found
  have taken : (mark ++ after).take (count + 1) = mark := by rw [← length, List.take_left]
  rw [List.append_assoc]
  refine mem_or_overlapped found ?_ start ?_
  · exact List.append_ne_nil_of_left_ne_nil nonempty after
  · rw [taken]
    exact stop

theorem greedy_literal {mark : Text} (nonempty : mark ≠ []) (line : Text) :
    Span.Greedy line mark ((literal mark).occurrences line) := by
  have placed := (literal mark).placed_occurrences line
  constructor
  · intro span member
    exact (shows_of_mem_literal member).isBoundary
  · intro span member
    exact Span.shows_iff_slice.mp (shows_of_mem_literal member)
  · refine placed.ascending.imp_of_mem ?_
    intro left right member _ apart
    have proper := (placed.covers left member).start_lt_stop
    exact ⟨Nat.lt_of_lt_of_le proper apart, apart⟩
  · intro span slice
    exact mem_literal_or_overlapped nonempty (Span.shows_iff_slice.mpr slice)

/-- The search for a literal mark returns the one list that a greedy search can return.  Without
a character to look for it returns nothing. -/
theorem occurrences_literal_iff (mark line : Text) (spans : List Span) :
    spans = (literal mark).occurrences line ↔
      mark = [] ∧ spans = [] ∨ mark ≠ [] ∧ Span.Greedy line mark spans := by
  by_cases empty : mark = []
  · subst empty
    rw [occurrences_literal_nil]
    simp
  · simp only [empty, false_and, not_false_eq_true, true_and, false_or, ne_eq]
    constructor
    · rintro rfl
      exact greedy_literal empty line
    · intro greedy
      exact greedy.unique empty (greedy_literal empty line)

/-- Of the overlapping places of `--` in a run of five, the search takes the first and the third. -/
theorem occurrences_literal_iff_selfOverlapping :
    Span.Greedy "-----".toList "--".toList
      [{ start := 0, stop := 2 }, { start := 2, stop := 4 }] := by
  have found : [{ start := 0, stop := 2 }, { start := 2, stop := 4 }] =
      (literal "--".toList).occurrences "-----".toList := by decide
  have either := (occurrences_literal_iff "--".toList "-----".toList _).mp found
  exact (either.resolve_left (by decide)).2

end MarkForm
end Traceability
