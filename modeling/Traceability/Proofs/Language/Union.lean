import Mathlib.Data.List.Nodup
import Traceability.Proofs.Language.Marks

/-!
All languages together have the marks of each of them.

One search for the marks of all languages tries its alternatives at a place and then goes on
after the first match, so a match of one language could hide or cut one of another.  None does,
since the languages share no letter within one role.  Each role of all languages together is
therefore the union of those of single languages (`Language.spans_any`), and nothing is found
twice.
-/

namespace Traceability

namespace Span

def byStart (spans : List Span) : List Span :=
  spans.mergeSort fun left right => left.start ≤ right.start

variable {line : Text} {spans others : List Span}

/-- Placed spans are determined by what they are, since only one order is from left to right. -/
theorem Placed.eq_byStart (placed : Placed line spans) (once : others.Nodup)
    (same : ∀ span, span ∈ spans ↔ span ∈ others) : spans = byStart others := by
  have sorted : spans.Pairwise fun left right => decide (left.start ≤ right.start) := by
    refine placed.ascending.imp_of_mem ?_
    intro left right member _ before
    have proper := (placed.covers left member).start_lt_stop
    rw [decide_eq_true_eq]
    omega
  have otherSorted : (byStart others).Pairwise fun left right =>
      decide (left.start ≤ right.start) :=
    List.pairwise_mergeSort
      (by intro first second third; simp only [decide_eq_true_eq]; omega)
      (by intro left right; simp only [Bool.or_eq_true, decide_eq_true_eq]; omega) _
  have perm : spans.Perm (byStart others) :=
    ((List.perm_ext_iff_of_nodup placed.nodup once).mpr same).trans
      (List.mergeSort_perm _ _).symm
  refine perm.eq_of_pairwise ?_ sorted otherSorted
  intro left right member otherMember before after
  rw [decide_eq_true_eq] at before after
  exact placed.eq_of_start_eq member (perm.mem_iff.mpr otherMember) (Nat.le_antisymm before after)

end Span

namespace MarkForm

theorem WrittenWith.disjoint {form other : MarkForm} {letter otherLetter : Char → Prop}
    (written : form.WrittenWith letter) (otherWritten : other.WrittenWith otherLetter)
    (apart : ∀ c, letter c → ¬otherLetter c) (line : Text) :
    (form.occurrences line).Disjoint (other.occurrences line) := by
  intro span member otherMember
  have outside := written.stop_le_of_start_le otherWritten apart member otherMember (Nat.le_refl _)
  have proper := ((form.placed_occurrences line).covers span member).start_lt_stop
  omega

end MarkForm

/-! ### The marks of a language -/

namespace Language

def spans (language : Language) (role : MarkRole) (line : Text) : List Span :=
  match language.marks.finder? role with
  | none => []
  | some search => search.find line

theorem placed_spans (language : Language) (role : MarkRole) (line : Text) :
    Span.Placed line (language.spans role line) := by
  unfold spans
  split
  · exact .nil line
  · rename_i search _
    exact search.placed line

variable {line : Text} {span : Span} {role : MarkRole}

theorem mem_spans_any : span ∈ any.spans role line ↔
    span ∈ c.spans role line ∨ span ∈ python.spans role line ∨ span ∈ bash.spans role line ∨
      span ∈ batch.spans role line := by
  cases role with
  | line =>
      refine MarkForm.mem_occurrences_anyLine.trans (or_congr_right ?_)
      exact or_self_left.symm
  | opening =>
      refine MarkForm.mem_occurrences_anyOpening.trans (or_congr_right ?_)
      exact (or_iff_left (by rintro (member | member) <;> cases member)).symm
  | closing =>
      refine MarkForm.mem_occurrences_anyClosing.trans (or_congr_right ?_)
      exact (or_iff_left (by rintro (member | member) <;> cases member)).symm

theorem exists_marks_eq {language : Language} (single : language ≠ any) :
    language.marks = c.marks ∨ language.marks = python.marks ∨ language.marks = bash.marks ∨
      language.marks = batch.marks := by
  cases language with
  | c | cpp | cOrCpp | javaScript | typeScript | java | kotlin | rust | go => exact .inl rfl
  | python => exact .inr (.inl rfl)
  | bash | shell => exact .inr (.inr (.inl rfl))
  | batch => exact .inr (.inr (.inr rfl))
  | any => exact absurd rfl single

theorem spans_eq_of_marks_eq {language other : Language} (same : language.marks = other.marks)
    (role : MarkRole) (line : Text) : language.spans role line = other.spans role line := by
  unfold spans
  rw [same]

theorem mem_spans_any_iff :
    span ∈ any.spans role line ↔ ∃ language, language ≠ any ∧ span ∈ language.spans role line := by
  rw [mem_spans_any]
  constructor
  · rintro (member | member | member | member)
    · exact ⟨c, by decide, member⟩
    · exact ⟨python, by decide, member⟩
    · exact ⟨bash, by decide, member⟩
    · exact ⟨batch, by decide, member⟩
  · rintro ⟨language, single, member⟩
    rcases exists_marks_eq single with same | same | same | same
    all_goals rw [spans_eq_of_marks_eq same] at member
    · exact .inl member
    · exact .inr (.inl member)
    · exact .inr (.inr (.inl member))
    · exact .inr (.inr (.inr member))

/-! ### Nothing is found twice -/

open MarkForm (not_letter_of_all slashes_writtenWith hash_writtenWith slashStar_writtenWith
  starSlash_writtenWith batchLine_writtenWith tripleQuote_writtenWith)

theorem nodup_line (line : Text) :
    (c.spans .line line ++ bash.spans .line line ++ batch.spans .line line).Nodup := by
  rw [List.nodup_append', List.nodup_append', List.disjoint_append_left]
  refine ⟨⟨(placed_spans _ _ _).nodup, (placed_spans _ _ _).nodup, ?_⟩,
    (placed_spans _ _ _).nodup, ?_, ?_⟩
  · exact slashes_writtenWith.disjoint hash_writtenWith (not_letter_of_all (by decide)) line
  · exact slashes_writtenWith.disjoint batchLine_writtenWith (not_letter_of_all (by decide)) line
  · exact hash_writtenWith.disjoint batchLine_writtenWith (not_letter_of_all (by decide)) line

theorem nodup_blocks {role : MarkRole} (ofBlock : role ≠ .line) (line : Text) :
    (c.spans role line ++ python.spans role line).Nodup := by
  refine List.nodup_append'.mpr ⟨(placed_spans _ _ _).nodup, (placed_spans _ _ _).nodup, ?_⟩
  cases role with
  | line => exact absurd rfl ofBlock
  | opening =>
      exact slashStar_writtenWith.disjoint tripleQuote_writtenWith
        (not_letter_of_all (by decide)) line
  | closing =>
      exact starSlash_writtenWith.disjoint tripleQuote_writtenWith
        (not_letter_of_all (by decide)) line

/-- All languages together have in a line the line marks of `c`, `bash` and `batch` and the block
marks of `c` and `python`, each of them once and from left to right.  So they have the marks
of every language. -/
theorem spans_any (line : Text) :
    any.spans .line line =
        Span.byStart (c.spans .line line ++ bash.spans .line line ++ batch.spans .line line) ∧
      any.spans .opening line =
        Span.byStart (c.spans .opening line ++ python.spans .opening line) ∧
      any.spans .closing line =
        Span.byStart (c.spans .closing line ++ python.spans .closing line) ∧
      ∀ role span, span ∈ any.spans role line ↔
        ∃ language, language ≠ any ∧ span ∈ language.spans role line := by
  refine ⟨?_, ?_, ?_, fun _ _ => mem_spans_any_iff⟩
  · apply (placed_spans _ _ _).eq_byStart (nodup_line line)
    intro span
    rw [List.mem_append, List.mem_append, or_assoc]
    exact MarkForm.mem_occurrences_anyLine
  · apply (placed_spans _ _ _).eq_byStart (nodup_blocks (by decide) line)
    intro span
    rw [List.mem_append]
    exact MarkForm.mem_occurrences_anyOpening
  · apply (placed_spans _ _ _).eq_byStart (nodup_blocks (by decide) line)
    intro span
    rw [List.mem_append]
    exact MarkForm.mem_occurrences_anyClosing

end Language
end Traceability
