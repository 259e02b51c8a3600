/-!
Text as a list of characters, its lines, and the bytes it is stored in.

Columns count characters, so a column is a position in the list.  Positions of
comment marks count the bytes of the UTF-8 form, so the two have to be converted
into each other.  A byte position inside a character belongs to no column: the
conversions are partial, and `splitAtByte?` says where they are defined.
-/

namespace Traceability

abbrev Text := List Char

namespace Text

/-! ### Byte positions -/

def byteLength : Text → Nat
  | [] => 0
  | c :: rest => c.utf8Size + byteLength rest

/-- The parts before and after the first `count` bytes.  There is no such cut
inside a character or past the end. -/
def splitAtByte? : Text → Nat → Option (Text × Text)
  | text, 0 => some ([], text)
  | [], _ + 1 => none
  | c :: rest, count + 1 =>
      if c.utf8Size ≤ count + 1 then
        (splitAtByte? rest (count + 1 - c.utf8Size)).map
          fun (before, after) => (c :: before, after)
      else
        none

def dropBytes? (text : Text) (count : Nat) : Option Text :=
  (splitAtByte? text count).map (·.2)

def takeBytes? (text : Text) (count : Nat) : Option Text :=
  (splitAtByte? text count).map (·.1)

def sliceBytes? (text : Text) (first last : Nat) : Option Text :=
  if first ≤ last then
    (takeBytes? text last).bind (dropBytes? · first)
  else
    none

/-- The number of characters in the first `count` bytes.  A count past the end
stands for the whole text; one inside a character has no answer. -/
def charsBefore? (text : Text) (count : Nat) : Option Nat :=
  (takeBytes? text (min count (byteLength text))).map List.length

@[simp] theorem byteLength_nil : byteLength [] = 0 := rfl

@[simp] theorem byteLength_cons (c : Char) (rest : Text) :
    byteLength (c :: rest) = c.utf8Size + byteLength rest := rfl

@[simp] theorem byteLength_append (left right : Text) :
    byteLength (left ++ right) = byteLength left + byteLength right := by
  induction left with
  | nil => simp
  | cons c rest ih => simp [ih, Nat.add_assoc]

theorem splitAtByte?_append (before after : Text) :
    splitAtByte? (before ++ after) (byteLength before) = some (before, after) := by
  induction before with
  | nil => simp [splitAtByte?]
  | cons c rest ih =>
      have positive : 0 < c.utf8Size := c.utf8Size_pos
      obtain ⟨count, hCount⟩ : ∃ count, c.utf8Size + byteLength rest = count + 1 :=
        ⟨c.utf8Size + byteLength rest - 1, by omega⟩
      have fits : c.utf8Size ≤ count + 1 := by omega
      have left : count + 1 - c.utf8Size = byteLength rest := by omega
      simp [hCount, splitAtByte?, fits, left, ih]

theorem splitAtByte?_eq_some {text before after : Text} {count : Nat}
    (cut : splitAtByte? text count = some (before, after)) :
    text = before ++ after ∧ count = byteLength before := by
  induction text generalizing count before with
  | nil =>
      cases count with
      | zero => simp [splitAtByte?] at cut; simp [cut]
      | succ count => simp [splitAtByte?] at cut
  | cons c rest ih =>
      cases count with
      | zero =>
          simp [splitAtByte?] at cut
          simp [cut]
      | succ count =>
          unfold splitAtByte? at cut
          split at cut
          · obtain ⟨⟨front, back⟩, inner, same⟩ := Option.map_eq_some_iff.mp cut
            obtain ⟨rfl, rfl⟩ := Prod.mk.inj same
            obtain ⟨rfl, length⟩ := ih inner
            simp only [List.cons_append, byteLength_cons, true_and]
            omega
          · contradiction

/-! ### Lines -/

def pieces : Text → List Text
  | [] => [[]]
  | c :: rest =>
      if c = '\n' then
        [] :: pieces rest
      else
        match pieces rest with
        | [] => [[c]]
        | first :: others => (c :: first) :: others

/-- A piece without the carriage return that may stand before its line feed. -/
def dropReturn (piece : Text) : Text :=
  if piece.getLast? = some '\r' then piece.dropLast else piece

/-- The physical lines: what lies between line ends, where a line ends with a line
feed or with a carriage return and a line feed. -/
def physicalLines (text : Text) : List Text :=
  (pieces text).map dropReturn

/-- The lines as they are shown: a last piece that is empty is no line, and a last
piece keeps its carriage return, since no line feed follows it. -/
def shownPieces : List Text → List Text
  | [] => []
  | [last] => if last.isEmpty then [] else [last]
  | piece :: others => dropReturn piece :: shownPieces others

def shownLines (text : Text) : List Text :=
  shownPieces (pieces text)

/-! ### Joining and counting -/

def join (separator : Text) (parts : List Text) : Text :=
  List.intercalate separator parts

theorem join_singleton (separator part : Text) : join separator [part] = part :=
  List.intercalate_singleton

theorem join_cons_cons (separator first second : Text) (others : List Text) :
    join separator (first :: second :: others) =
      first ++ (separator ++ join separator (second :: others)) := by
  rw [join, List.intercalate_cons_cons, List.append_assoc, join]

def ofNat (number : Nat) : Text :=
  Nat.toDigits 10 number

def padLeft (width : Nat) (text : Text) : Text :=
  List.replicate (width - text.length) ' ' ++ text

end Text
end Traceability
