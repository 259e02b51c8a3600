import Traceability.Mark.Span
import Traceability.Text.CharClass

/-!
Forms for comment marks.

A form is an ordered choice of alternatives.  An alternative is a sequence of
items, each a set of characters that may be repeated, and it may be bound to either
end of the line.  A repetition takes as many characters as it can and gives none of
them back.  `MarkForm.occurrences` searches a line from the left: at each place
the first alternative that matches decides, and the search goes on after the match.
`MarkForm.placed_occurrences` says that the result is well placed.
-/

namespace Traceability

inductive CharSet
  | exactly (c : Char)
  | oneOf (choices : List Char)
  | space
  deriving DecidableEq, Repr

def CharSet.accepts : CharSet → Char → Bool
  | .exactly c, other => c == other
  | .oneOf choices, other => choices.contains other
  | .space, other => Text.isSpace other

inductive Repetition
  | once
  | anyNumber
  | atLeastOnce
  deriving DecidableEq, Repr

structure MarkItem where
  chars : CharSet
  repetition : Repetition := .once
  deriving DecidableEq, Repr

def MarkItem.length? (item : MarkItem) (text : Text) : Option Nat :=
  let run := text.takeWhile item.chars.accepts
  match item.repetition with
  | .once => if text.head?.any item.chars.accepts then some 1 else none
  | .anyNumber => some run.length
  | .atLeastOnce => if run.isEmpty then none else some run.length

def MarkItem.lengthOfAll? : List MarkItem → Text → Option Nat
  | [], _ => some 0
  | item :: others, text =>
      (item.length? text).bind fun count =>
        (lengthOfAll? others (text.drop count)).map (count + ·)

/-- A sequence of items, which may be bound to the ends of the line. -/
structure MarkAlternative where
  items : List MarkItem
  atLineStart : Bool := false
  atLineEnd : Bool := false
  deriving DecidableEq, Repr

/-- The number of characters that the alternative takes from the front of a text,
where `isLineStart` says whether the text is the whole line. -/
def MarkAlternative.length? (alternative : MarkAlternative) (isLineStart : Bool)
    (text : Text) : Option Nat :=
  if alternative.atLineStart && !isLineStart then
    none
  else
    (MarkItem.lengthOfAll? alternative.items text).filter fun count =>
      !alternative.atLineEnd || (text.drop count).isEmpty

structure MarkForm where
  alternatives : List MarkAlternative
  deriving DecidableEq, Repr

namespace MarkForm

open Text (byteLength)

def exactly (mark : Text) : MarkAlternative :=
  { items := mark.map fun c => { chars := .exactly c } }

def literal (mark : Text) : MarkForm :=
  { alternatives := [exactly mark] }

def length? (form : MarkForm) (isLineStart : Bool) (text : Text) : Option Nat :=
  form.alternatives.findSome? fun alternative => alternative.length? isLineStart text

/-- Searches the rest of a line that starts after `offset` bytes, of which the next
`taken` characters belong to a match already found.  A match without characters is
no mark. -/
def occurrencesFrom (form : MarkForm) : Nat → Nat → Text → List Span
  | _, _, [] => []
  | taken + 1, offset, c :: rest =>
      form.occurrencesFrom taken (offset + c.utf8Size) rest
  | 0, offset, c :: rest =>
      match form.length? (offset == 0) (c :: rest) with
      | some (count + 1) =>
          { start := offset, stop := offset + byteLength ((c :: rest).take (count + 1)) } ::
            form.occurrencesFrom count (offset + c.utf8Size) rest
      | _ => form.occurrencesFrom 0 (offset + c.utf8Size) rest

def occurrences (form : MarkForm) (line : Text) : List Span :=
  form.occurrencesFrom 0 0 line

/-! ### The marks found are well placed -/

private theorem start_le_of_mem_occurrencesFrom (form : MarkForm) (taken offset : Nat)
    (rest : Text) (span : Span) (member : span ∈ form.occurrencesFrom taken offset rest) :
    offset + byteLength (rest.take taken) ≤ span.start := by
  induction rest generalizing taken offset with
  | nil => cases taken <;> simp [occurrencesFrom] at member
  | cons c rest ih =>
      cases taken with
      | succ taken =>
          have later := ih taken (offset + c.utf8Size) (by simpa [occurrencesFrom] using member)
          simp only [List.take_succ_cons, Text.byteLength_cons]
          omega
      | zero =>
          unfold occurrencesFrom at member
          split at member
          · rcases List.mem_cons.mp member with rfl | member
            · simp
            · have later := ih _ _ member
              simp only [List.take_zero, Text.byteLength_nil]
              omega
          · have later := ih _ _ member
            simp only [List.take_zero, Text.byteLength_nil]
            omega

private theorem covers_of_mem_occurrencesFrom (form : MarkForm) (taken : Nat)
    (before rest : Text) (span : Span)
    (member : span ∈ form.occurrencesFrom taken (byteLength before) rest) :
    span.Covers (before ++ rest) := by
  induction rest generalizing taken before with
  | nil => cases taken <;> simp [occurrencesFrom] at member
  | cons c rest ih =>
      have next : byteLength before + c.utf8Size = byteLength (before ++ [c]) := by simp
      have line : before ++ c :: rest = before ++ [c] ++ rest := by simp
      cases taken with
      | succ taken =>
          rw [line]
          exact ih taken (before ++ [c]) (by simpa [occurrencesFrom] using member)
      | zero =>
          unfold occurrencesFrom at member
          split at member
          · rename_i count _
            rcases List.mem_cons.mp member with rfl | member
            · refine ⟨before, (c :: rest).take (count + 1), (c :: rest).drop (count + 1), ?_,
                by simp, rfl, by simp⟩
              rw [List.append_assoc, List.take_append_drop]
            · rw [line]
              exact ih _ (before ++ [c]) (by rw [← next]; exact member)
          · rw [line]
            exact ih _ (before ++ [c]) (by rw [← next]; exact member)

private theorem ascending_occurrencesFrom (form : MarkForm) (taken offset : Nat)
    (rest : Text) :
    (form.occurrencesFrom taken offset rest).Pairwise
      fun left right => left.stop ≤ right.start := by
  induction rest generalizing taken offset with
  | nil => cases taken <;> simp [occurrencesFrom]
  | cons c rest ih =>
      cases taken with
      | succ taken => simpa [occurrencesFrom] using ih taken _
      | zero =>
          unfold occurrencesFrom
          split
          · refine List.Pairwise.cons ?_ (ih _ _)
            intro span member
            have later := start_le_of_mem_occurrencesFrom form _ _ _ _ member
            simp only [List.take_succ_cons, Text.byteLength_cons]
            omega
          · exact ih _ _

/-- The marks that a search finds cover whole characters and do not overlap. -/
theorem placed_occurrences (form : MarkForm) (line : Text) :
    Span.Placed line (form.occurrences line) :=
  ⟨fun span member => covers_of_mem_occurrencesFrom form 0 [] line span member,
    ascending_occurrencesFrom form 0 0 line⟩

end MarkForm
end Traceability
