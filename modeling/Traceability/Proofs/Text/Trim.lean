import Mathlib.Data.List.DropRight
import Traceability.Tag.Basic

/-!
Trimming, and the parts of identifiers that have been trimmed.

The two ends of a text are trimmed independently of each other, so trimming twice is trimming once
and white space around a text plays no part.
-/

namespace Traceability
namespace Text

theorem trimRight_eq_rdropWhile (drop : Char → Bool) (text : Text) :
    trimRight drop text = text.rdropWhile drop := rfl

theorem trimLeft_append {drop : Char → Bool} {front : Text} (dropped : ∀ c ∈ front, drop c = true)
    (text : Text) : trimLeft drop (front ++ text) = trimLeft drop text :=
  List.dropWhile_append_of_pos dropped

theorem trimLeft_eq_of_length_le {drop : Char → Bool} {text : Text}
    (kept : text.length ≤ (trimLeft drop text).length) : trimLeft drop text = text :=
  (List.dropWhile_suffix drop).eq_of_length_le kept

theorem trimLeft_append_of_eq {drop : Char → Bool} {front : Text} (nonempty : front ≠ [])
    (kept : trimLeft drop front = front) (text : Text) :
    trimLeft drop (front ++ text) = front ++ text := by
  have same : front.dropWhile drop = front := kept
  rw [trimLeft, List.dropWhile_append, same, List.isEmpty_eq_false_iff.mpr nonempty]
  rfl

theorem trimRight_append {drop : Char → Bool} {back : Text} (dropped : ∀ c ∈ back, drop c = true)
    (text : Text) : trimRight drop (text ++ back) = trimRight drop text := by
  have reversed : ∀ c ∈ back.reverse, drop c = true := by
    intro c member
    exact dropped c (List.mem_reverse.mp member)
  rw [trimRight, trimRight, List.reverse_append, List.dropWhile_append_of_pos reversed]

theorem trimLeft_trimRight (first last : Char → Bool) (text : Text) :
    trimLeft first (trimRight last text) = trimRight last (trimLeft first text) := by
  simp only [trimRight_eq_rdropWhile, trimLeft]
  induction text using List.reverseRecOn with
  | nil => rfl
  | append_singleton rest c ih =>
      by_cases dropped : last c = true
      · rw [List.rdropWhile_concat_pos _ _ _ dropped, ih, List.dropWhile_append]
        cases List.dropWhile first rest with
        | nil => cases kept : first c <;> simp [kept, dropped, List.rdropWhile_singleton]
        | cons next others =>
            exact (List.rdropWhile_concat_pos last (next :: others) c dropped).symm
      · rw [List.rdropWhile_concat_neg _ _ _ dropped, List.dropWhile_append]
        cases List.dropWhile first rest with
        | nil => cases kept : first c <;> simp [kept, dropped, List.rdropWhile_singleton]
        | cons next others =>
            exact (List.rdropWhile_concat_neg last (next :: others) c dropped).symm

theorem trim_trim (text : Text) : trim (trim text) = trim text := by
  unfold trim
  rw [trimLeft_trimRight, trimRight_eq_rdropWhile, trimRight_eq_rdropWhile,
    List.rdropWhile_idempotent]
  exact congrArg _ (List.dropWhile_idempotent isSpace text)

theorem trim_append_left {front : Text} (spaces : ∀ c ∈ front, isSpace c = true) (text : Text) :
    trim (front ++ text) = trim text := by
  rw [trim, trimLeft_append spaces, trim]

theorem trim_append_right {back : Text} (spaces : ∀ c ∈ back, isSpace c = true) (text : Text) :
    trim (text ++ back) = trim text := by
  rw [trim, ← trimLeft_trimRight, trimRight_append spaces, trimLeft_trimRight, trim]

theorem isSpace_of_mem_space : ∀ c ∈ [' '], isSpace c = true :=
  List.all_eq_true.mp rfl

theorem length_trim_le (text : Text) : (trim text).length ≤ text.length :=
  (List.rdropWhile_prefix isSpace (trimLeft isSpace text)).length_le.trans
    (List.dropWhile_suffix isSpace).length_le

end Text

namespace Tag

theorem trim_idPart (line : Text) : Text.trim (idPart line) = idPart line :=
  Text.trim_trim _

end Tag
end Traceability
