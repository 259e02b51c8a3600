import Traceability.Proofs.Text.Trim

/-!
The parts of identifiers on decorated lines.

A part is what is left of a line without its decoration, and a line that has nothing else is its own
part.  White space and stars that are put around such a part go away again (`idPart_decorated`), and
parts that are joined with spaces need no more than trimming (`idPart_space_join`).
-/

namespace Traceability

open Text (isSpace join trim trimLeft trimRight)

namespace Tag

theorem idPart_append_left {front : Text} (spaces : ∀ c ∈ front, isSpace c = true) (line : Text) :
    idPart (front ++ line) = idPart line := by
  rw [idPart, withoutDecoration, Text.trim_append_left spaces]
  rfl

theorem idPart_append_right {back : Text} (spaces : ∀ c ∈ back, isSpace c = true) (line : Text) :
    idPart (line ++ back) = idPart line := by
  rw [idPart, withoutDecoration, Text.trim_append_right spaces]
  rfl

/-- The end of the line need not be trimmed before the stars are taken away. -/
theorem idPart_eq (line : Text) :
    idPart line = trim (trimLeft (· == '*') (trimLeft isSpace line)) := by
  unfold idPart withoutDecoration trim
  rw [Text.trimLeft_trimRight (· == '*'), Text.trimLeft_trimRight isSpace,
    Text.trimRight_eq_rdropWhile, Text.trimRight_eq_rdropWhile, List.rdropWhile_idempotent]

section Parts

variable {part : Text}

theorem trim_of_idPart_eq (isPart : idPart part = part) : trim part = part := by
  rw [← isPart, trim_idPart]

theorem trimLeft_star_of_idPart_eq (isPart : idPart part = part) :
    trimLeft (· == '*') part = part := by
  apply Text.trimLeft_eq_of_length_le
  calc
    part.length = (trim (trimLeft (· == '*') (trim part))).length := congrArg _ isPart.symm
    _ ≤ (trimLeft (· == '*') (trim part)).length := Text.length_trim_le _
    _ = (trimLeft (· == '*') part).length := by rw [trim_of_idPart_eq isPart]

theorem trimLeft_space_of_idPart_eq (isPart : idPart part = part) :
    trimLeft isSpace part = part := by
  apply Text.trimLeft_eq_of_length_le
  calc
    part.length = (trim part).length := congrArg _ (trim_of_idPart_eq isPart).symm
    _ ≤ (trimLeft isSpace part).length := (List.rdropWhile_prefix _ _).length_le

theorem not_star_of_isSpace {c : Char} (space : isSpace c = true) : (c == '*') = false := by
  cases star : c == '*' with
  | false => rfl
  | true =>
      rw [beq_iff_eq.mp star] at space
      exact absurd space (by decide)

theorem trimLeft_star_gap {gap : Text} (spaces : ∀ c ∈ gap, isSpace c = true)
    (isPart : idPart part = part) : trimLeft (· == '*') (gap ++ part) = gap ++ part := by
  cases gap with
  | nil => exact trimLeft_star_of_idPart_eq isPart
  | cons c gap =>
      have notStar := not_star_of_isSpace (spaces c (.head gap))
      exact List.dropWhile_cons_of_neg (by simp [notStar])

/-- White space and stars around a part are no part of it. -/
theorem idPart_decorated (isPart : idPart part = part) {indent gap tail : Text} (stars : Nat)
    (indentSpaces : ∀ c ∈ indent, isSpace c = true) (gapSpaces : ∀ c ∈ gap, isSpace c = true)
    (tailSpaces : ∀ c ∈ tail, isSpace c = true) :
    idPart (indent ++ (List.replicate stars '*' ++ (gap ++ (part ++ tail)))) = part := by
  have withoutTail : indent ++ (List.replicate stars '*' ++ (gap ++ (part ++ tail))) =
      (indent ++ (List.replicate stars '*' ++ (gap ++ part))) ++ tail := by
    simp only [List.append_assoc]
  rw [withoutTail, idPart_append_right tailSpaces, idPart_append_left indentSpaces]
  cases stars with
  | zero => rw [List.replicate_zero, List.nil_append, idPart_append_left gapSpaces, isPart]
  | succ stars =>
      have allStars : ∀ c ∈ List.replicate (stars + 1) '*', (c == '*') = true := by
        intro c member
        rw [List.eq_of_mem_replicate member]
        rfl
      have first : trimLeft isSpace (List.replicate (stars + 1) '*' ++ (gap ++ part)) =
          List.replicate (stars + 1) '*' ++ (gap ++ part) :=
        List.dropWhile_cons_of_neg (by decide)
      rw [idPart_eq, first, Text.trimLeft_append allStars, trimLeft_star_gap gapSpaces isPart,
        Text.trim_append_left gapSpaces, trim_of_idPart_eq isPart]

end Parts

/-! ### Parts joined with spaces -/

variable {parts : List Text}

theorem trimLeft_star_join (areParts : ∀ part ∈ parts, idPart part = part) :
    trimLeft (· == '*') (trimLeft isSpace (join [' '] parts)) =
      trimLeft isSpace (join [' '] parts) := by
  induction parts with
  | nil => rfl
  | cons part others ih =>
      have isPart := areParts part (.head others)
      cases others with
      | nil =>
          rw [Text.join_singleton, trimLeft_space_of_idPart_eq isPart,
            trimLeft_star_of_idPart_eq isPart]
      | cons next others =>
          rw [Text.join_cons_cons]
          by_cases nonempty : part = []
          · rw [nonempty]
            exact ih fun other member => areParts other (.tail _ member)
          · rw [Text.trimLeft_append_of_eq nonempty (trimLeft_space_of_idPart_eq isPart),
              Text.trimLeft_append_of_eq nonempty (trimLeft_star_of_idPart_eq isPart)]

/-- A space before joined parts goes away, and so does what they leave at the ends. -/
theorem idPart_space_join (areParts : ∀ part ∈ parts, idPart part = part) :
    idPart (' ' :: join [' '] parts) = trim (join [' '] parts) := by
  have trimmed : trim (trimLeft isSpace (join [' '] parts)) = trim (join [' '] parts) :=
    congrArg (trimRight isSpace) (List.dropWhile_idempotent isSpace _)
  rw [← List.singleton_append, idPart_append_left Text.isSpace_of_mem_space, idPart_eq,
    trimLeft_star_join areParts, trimmed]

end Tag
end Traceability
