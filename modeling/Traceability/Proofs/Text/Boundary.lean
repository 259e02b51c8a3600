import Traceability.Proofs.Text.Bytes

/-!
Columns and the bytes of the UTF-8 form.

A byte position is a boundary when a character begins there or the text ends there.  These are
exactly the positions at which a text can be cut (`exists_splitAtByte?_iff`), so a conversion
from bytes to columns fails only inside a character, and the column that it gives counts the
characters of the bytes before it (`columns_agree_with_bytes`).
-/

namespace Traceability
namespace Text

def bytes (text : Text) : List UInt8 :=
  text.flatMap String.utf8EncodeChar

/-- The position is the end of the text, or the byte there is the first one of a character. -/
def IsBoundary (text : Text) (position : Nat) : Prop :=
  position = (bytes text).length ∨ ∃ byte ∈ (bytes text)[position]?, byte.IsUTF8FirstByte

instance (text : Text) (position : Nat) : Decidable (IsBoundary text position) :=
  inferInstanceAs (Decidable (_ ∨ ∃ byte ∈ (bytes text)[position]?, byte.IsUTF8FirstByte))

@[simp] theorem bytes_nil : bytes [] = [] := rfl

@[simp] theorem bytes_cons (c : Char) (rest : Text) :
    bytes (c :: rest) = String.utf8EncodeChar c ++ bytes rest := rfl

@[simp] theorem bytes_append (left right : Text) :
    bytes (left ++ right) = bytes left ++ bytes right :=
  List.flatMap_append

theorem length_bytes (text : Text) : (bytes text).length = byteLength text := by
  induction text with
  | nil => rfl
  | cons c rest ih =>
      rw [bytes_cons, List.length_append, String.length_utf8EncodeChar, ih, byteLength_cons]

/-! ### Where the boundaries are -/

theorem isBoundary_cons_of_lt {c : Char} {rest : Text} {position : Nat}
    (inside : position < c.utf8Size) : IsBoundary (c :: rest) position ↔ position = 0 := by
  have inCharacter : position < (String.utf8EncodeChar c).length := by
    rw [String.length_utf8EncodeChar]
    exact inside
  have notEnd : position ≠ (bytes (c :: rest)).length := by
    rw [bytes_cons, List.length_append]
    omega
  have byteHere : (bytes (c :: rest))[position]? = some (String.utf8EncodeChar c)[position] := by
    rw [bytes_cons, List.getElem?_append_left inCharacter, List.getElem?_eq_getElem inCharacter]
  rw [IsBoundary, byteHere, or_iff_right notEnd]
  simp only [Option.mem_some_iff, exists_eq_left', UInt8.isUTF8FirstByte_getElem_utf8EncodeChar]

theorem isBoundary_cons_add {c : Char} {rest : Text} {position : Nat} :
    IsBoundary (c :: rest) (c.utf8Size + position) ↔ IsBoundary rest position := by
  have byteThere : (bytes (c :: rest))[c.utf8Size + position]? = (bytes rest)[position]? := by
    rw [bytes_cons, List.getElem?_append_right (by rw [String.length_utf8EncodeChar]; omega),
      String.length_utf8EncodeChar, Nat.add_sub_cancel_left]
  have endThere : c.utf8Size + position = (bytes (c :: rest)).length ↔
      position = (bytes rest).length := by
    rw [bytes_cons, List.length_append, String.length_utf8EncodeChar]
    omega
  rw [IsBoundary, IsBoundary, byteThere, endThere]

/-- The boundaries are the lengths of the front parts of the text. -/
theorem isBoundary_iff {text : Text} {position : Nat} :
    IsBoundary text position ↔
      ∃ before after, text = before ++ after ∧ position = byteLength before := by
  induction text generalizing position with
  | nil => simp [IsBoundary]
  | cons c rest ih =>
      rcases Nat.lt_or_ge position c.utf8Size with inside | beyond
      · rw [isBoundary_cons_of_lt inside]
        constructor
        · rintro rfl
          exact ⟨[], c :: rest, rfl, rfl⟩
        · rintro ⟨before, after, whole, rfl⟩
          cases before with
          | nil => rfl
          | cons first before =>
              obtain ⟨rfl, _⟩ := List.cons.inj whole
              rw [byteLength_cons] at inside
              omega
      · obtain ⟨later, rfl⟩ := Nat.exists_eq_add_of_le beyond
        rw [isBoundary_cons_add, ih]
        constructor
        · rintro ⟨before, after, rfl, rfl⟩
          exact ⟨c :: before, after, rfl, rfl⟩
        · rintro ⟨before, after, whole, same⟩
          cases before with
          | nil =>
              have size := c.utf8Size_pos
              rw [byteLength_nil] at same
              omega
          | cons first before =>
              obtain ⟨rfl, rfl⟩ := List.cons.inj whole
              rw [byteLength_cons] at same
              exact ⟨before, after, rfl, by omega⟩

theorem exists_splitAtByte?_iff {text : Text} {position : Nat} :
    (∃ parts, splitAtByte? text position = some parts) ↔ IsBoundary text position := by
  rw [isBoundary_iff]
  constructor
  · rintro ⟨⟨before, after⟩, cut⟩
    exact ⟨before, after, splitAtByte?_eq_some cut⟩
  · rintro ⟨before, after, rfl, rfl⟩
    exact ⟨(before, after), splitAtByte?_append before after⟩

/-! ### From bytes to columns -/

theorem charsBefore?_eq_none_iff {line : Text} {position : Nat} :
    charsBefore? line position = none ↔
      position < (bytes line).length ∧ ¬IsBoundary line position := by
  have uncut : charsBefore? line position = none ↔
      ¬IsBoundary line (min position (bytes line).length) := by
    rw [← exists_splitAtByte?_iff, length_bytes, charsBefore?, takeBytes?, Option.map_map,
      Option.map_eq_none_iff, ← Option.isSome_iff_exists, Option.not_isSome_iff_eq_none]
  rw [uncut]
  rcases Nat.lt_or_ge position (bytes line).length with inside | beyond
  · rw [Nat.min_eq_left (Nat.le_of_lt inside)]
    exact ⟨fun apart => ⟨inside, apart⟩, And.right⟩
  · rw [Nat.min_eq_right beyond]
    constructor
    · exact fun apart => absurd (.inl rfl) apart
    · exact fun within => absurd within.1 (Nat.not_lt_of_le beyond)

theorem charsBefore?_eq_some {line : Text} {position column : Nat}
    (found : charsBefore? line position = some column) :
    ∃ before after, line = before ++ after ∧ column = before.length ∧
      min position (byteLength line) = byteLength before := by
  rw [charsBefore?, takeBytes?, Option.map_map] at found
  obtain ⟨⟨before, after⟩, cut, rfl⟩ := Option.map_eq_some_iff.mp found
  obtain ⟨whole, length⟩ := splitAtByte?_eq_some cut
  exact ⟨before, after, whole, rfl, length⟩

theorem bytes_take_of_charsBefore? {line : Text} {position column : Nat}
    (found : charsBefore? line position = some column) :
    bytes (line.take column) = (bytes line).take position ∧
      dropBytes? line (min position (bytes line).length) = some (line.drop column) := by
  obtain ⟨before, after, rfl, rfl, length⟩ := charsBefore?_eq_some found
  have front : (bytes (before ++ after)).take position = bytes before := by
    rw [List.take_eq_take_min, length_bytes, length, bytes_append, ← length_bytes, List.take_left]
  rw [List.take_left, List.drop_left, front, length_bytes, length, dropBytes?_byteLength]
  exact ⟨rfl, rfl⟩

theorem charsBefore?_between {line : Text} {first last : Nat} (ordered : first ≤ last)
    (atFirst : IsBoundary line first) (atLast : IsBoundary line last) :
    ∃ column middle, charsBefore? line first = some column ∧
      sliceBytes? line first last = some middle ∧
      bytes middle = ((bytes line).take last).drop first ∧
      charsBefore? line last = some (column + middle.length) := by
  obtain ⟨before, after, whole, rfl⟩ := isBoundary_iff.mp atFirst
  obtain ⟨front, back, rfl, rfl⟩ := isBoundary_iff.mp atLast
  obtain ⟨middle, rfl, rfl⟩ := exists_append_of_byteLength_le whole.symm ordered
  refine ⟨before.length, middle, ?_, ?_, ?_, ?_⟩
  · rw [List.append_assoc, charsBefore?_byteLength]
  · exact sliceBytes?_byteLength before middle back
  · rw [bytes_append, ← length_bytes, ← length_bytes, List.take_left, bytes_append, List.drop_left]
  · rw [charsBefore?_byteLength, List.length_append]

/-- A byte position has no column exactly when it lies inside a character.  Otherwise the
characters before its column are stored in the bytes before it, what is behind the column is
what is behind these bytes, and the columns of two boundaries differ by the characters of the
text between them. -/
theorem columns_agree_with_bytes (line : Text) (position : Nat) :
    (charsBefore? line position = none ↔
      position < (bytes line).length ∧ ¬IsBoundary line position) ∧
    (∀ column ∈ charsBefore? line position,
      (bytes (line.take column)).length = min position (bytes line).length ∧
      bytes (line.take column) = (bytes line).take position ∧
      dropBytes? line (min position (bytes line).length) = some (line.drop column)) ∧
    ∀ last, position ≤ last → IsBoundary line position → IsBoundary line last →
      ∃ column middle, charsBefore? line position = some column ∧
        sliceBytes? line position last = some middle ∧
        bytes middle = ((bytes line).take last).drop position ∧
        charsBefore? line last = some (column + middle.length) := by
  refine ⟨charsBefore?_eq_none_iff, ?_, ?_⟩
  · intro column found
    obtain ⟨front, back⟩ := bytes_take_of_charsBefore? found
    refine ⟨?_, front, back⟩
    rw [front, List.length_take]
  · intro last ordered atFirst atLast
    exact charsBefore?_between ordered atFirst atLast

/-- Between the first letter of two bytes and the slashes stand seven bytes and two characters. -/
theorem columns_agree_with_bytes_wideCharacters :
    IsBoundary "é日😀//".toList 2 ∧ IsBoundary "é日😀//".toList 9 ∧
      charsBefore? "é日😀//".toList 3 = none ∧
      ∃ column middle, charsBefore? "é日😀//".toList 2 = some column ∧
        sliceBytes? "é日😀//".toList 2 9 = some middle ∧
        bytes middle = ((bytes "é日😀//".toList).take 9).drop 2 ∧
        charsBefore? "é日😀//".toList 9 = some (column + middle.length) := by
  have atFirst : IsBoundary "é日😀//".toList 2 := by decide
  have atLast : IsBoundary "é日😀//".toList 9 := by decide
  refine ⟨atFirst, atLast, ?_, ?_⟩
  · exact (columns_agree_with_bytes "é日😀//".toList 3).1.mpr ⟨by decide, by decide⟩
  · exact (columns_agree_with_bytes "é日😀//".toList 2).2.2 9 (by decide) atFirst atLast

end Text
end Traceability
