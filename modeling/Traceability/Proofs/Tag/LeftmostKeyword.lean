import Mathlib.Data.Nat.Find
import Traceability.Proofs.Tag.KeywordForm

/-!
Which keyword is found.

Where no keyword stands before a position, the search comes to that position
(`KeywordHit.findFrom_skip`).  So it finds the leftmost keyword of a kind, and a line is read by
its leftmost requirement, or by its leftmost satisfaction when no requirement stands in it.
-/

namespace Traceability
namespace KeywordHit

open Tag (IsQualifier writtenKeyword)
open Text (byteLength isWord)

variable {kind : TagKind} {text : Text} {hit : KeywordHit}

/-- The keyword stands behind the given number of characters, with no word character right before
it, and the hit ends right after its colon. -/
def IsAt (text : Text) (position : Nat) (hit : KeywordHit) : Prop :=
  ∃ before after, text = before ++ writtenKeyword hit.kind hit.qualifier ++ after ∧
    before.length = position ∧ IsQualifier hit.qualifier ∧ hides false before = false ∧
    hit.stop = byteLength (before ++ writtenKeyword hit.kind hit.qualifier)

/-- No keyword of this kind stands further left. -/
def IsLeftmost (text : Text) (hit : KeywordHit) : Prop :=
  ∃ position, hit.IsAt text position ∧
    ∀ (other : KeywordHit) (place : Nat), other.kind = hit.kind → other.IsAt text place →
      position ≤ place

theorem stands_iff_exists_isAt :
    Stands kind text ↔
      ∃ position, ∃ hit : KeywordHit, hit.kind = kind ∧ hit.IsAt text position := by
  constructor
  · rintro ⟨before, qualifier, after, proper, shown, whole⟩
    let hit : KeywordHit :=
      { kind, qualifier, stop := byteLength (before ++ writtenKeyword kind qualifier) }
    exact ⟨before.length, hit, rfl, before, after, whole, rfl, proper, shown, rfl⟩
  · rintro ⟨_, hit, rfl, before, after, whole, _, proper, shown, _⟩
    exact ⟨before, hit.qualifier, after, proper, shown, whole⟩

theorem exists_isLeftmost (stands : Stands kind text) :
    ∃ hit : KeywordHit, hit.kind = kind ∧ hit.IsLeftmost text := by
  classical
  have placed := stands_iff_exists_isAt.mp stands
  obtain ⟨hit, sameKind, isAt⟩ := Nat.find_spec placed
  refine ⟨hit, sameKind, Nat.find placed, isAt, ?_⟩
  intro other place otherKind otherAt
  exact Nat.find_min' placed ⟨other, otherKind.trans sameKind, otherAt⟩

/-! ### The search comes to the leftmost keyword -/

theorem findFrom_skip (hidden : Bool) (offset : Nat) {before rest : Text}
    (absent : ∀ front qualifier back, front.length < before.length → IsQualifier qualifier →
      before ++ rest = front ++ writtenKeyword kind qualifier ++ back →
      hides hidden front = true) :
    findFrom kind hidden offset (before ++ rest) =
      findFrom kind (hides hidden before) (offset + byteLength before) rest := by
  induction before generalizing hidden offset with
  | nil => rfl
  | cons c before ih =>
      have notHere : (if hidden then none else atFront? kind.keyword (c :: (before ++ rest))) =
          none := by
        cases shown : hidden with
        | true => rfl
        | false =>
            rw [if_neg Bool.false_ne_true]
            cases found : atFront? kind.keyword (c :: (before ++ rest)) with
            | none => rfl
            | some result =>
                have hiddenHere := absent [] result.1 result.2 (Nat.zero_lt_succ _)
                  (isQualifier_of_atFront? found) (atFront?_eq_some found)
                rw [shown] at hiddenHere
                cases hiddenHere
      have later := ih (isWord c) (offset + c.utf8Size) (by
        intro front qualifier back shorter proper whole
        rw [← hides_cons hidden]
        exact absent (c :: front) qualifier back (Nat.succ_lt_succ shorter) proper
          (congrArg (c :: ·) whole))
      rw [List.cons_append, findFrom, notHere, hides_cons]
      rw [Nat.add_assoc, ← Text.byteLength_cons] at later
      exact later

theorem findKind_of_isLeftmost (leftmost : hit.IsLeftmost text) :
    findKind hit.kind text = some hit := by
  obtain ⟨_, ⟨before, after, whole, rfl, proper, shown, stop⟩, least⟩ := leftmost
  have absent (front : Text) (qualifier : Option Text) (back : Text)
      (shorter : front.length < before.length) (otherProper : IsQualifier qualifier)
      (same : before ++ (writtenKeyword hit.kind hit.qualifier ++ after) =
        front ++ writtenKeyword hit.kind qualifier ++ back) : hides false front = true := by
    cases otherShown : hides false front with
    | true => rfl
    | false =>
        rw [← List.append_assoc, ← whole] at same
        have notEarlier := least
          { kind := hit.kind, qualifier,
            stop := byteLength (front ++ writtenKeyword hit.kind qualifier) }
          front.length rfl ⟨front, back, same, rfl, otherProper, otherShown, rfl⟩
        omega
  rw [findKind, whole, List.append_assoc, findFrom_skip false 0 absent, shown,
    findFrom_written hit.kind proper, Nat.zero_add, ← Text.byteLength_append, ← stop]

theorem findKind_eq_some_iff :
    findKind kind text = some hit ↔ hit.kind = kind ∧ hit.IsLeftmost text := by
  constructor
  · intro found
    have stands : Stands kind text := by
      by_contra absent
      rw [findKind_eq_none_iff.mpr absent] at found
      cases found
    obtain ⟨leftmost, rfl, isLeftmost⟩ := exists_isLeftmost stands
    rw [findKind_of_isLeftmost isLeftmost] at found
    obtain rfl := Option.some.inj found
    exact ⟨rfl, isLeftmost⟩
  · rintro ⟨rfl, leftmost⟩
    exact findKind_of_isLeftmost leftmost

theorem find_eq_some_iff :
    find text = some hit ↔
      hit.IsLeftmost text ∧ (hit.kind = .satisfied → ¬Stands .require text) := by
  rw [find, Option.or_eq_some_iff, findKind_eq_some_iff, findKind_eq_some_iff, findKind_eq_none_iff]
  cases kind : hit.kind with
  | require => simp
  | satisfied => simp [and_comm]

theorem exists_find_iff :
    (∃ hit ∈ find text, hit.kind = kind) ↔
      Stands kind text ∧ (kind = .satisfied → ¬Stands .require text) := by
  constructor
  · rintro ⟨hit, found, rfl⟩
    obtain ⟨⟨position, isAt, _⟩, alone⟩ := find_eq_some_iff.mp found
    exact ⟨stands_iff_exists_isAt.mpr ⟨position, hit, rfl, isAt⟩, alone⟩
  · rintro ⟨stands, alone⟩
    obtain ⟨hit, rfl, leftmost⟩ := exists_isLeftmost stands
    exact ⟨hit, find_eq_some_iff.mpr ⟨leftmost, alone⟩, rfl⟩

theorem find_eq_none_of_isBlankLine (blank : isBlankLine text = true) : find text = none := by
  cases found : find text with
  | none => rfl
  | some hit =>
      rw [isBlankLine_of_find_eq_some found] at blank
      cases blank

/-- A text is read by its leftmost requirement, wherever a satisfaction stands.  It is read by its
leftmost satisfaction if no requirement stands in it, and there is no keyword in a blank line. -/
theorem find_leftmost (text : Text) :
    (∀ hit, find text = some hit ↔
      hit.IsLeftmost text ∧ (hit.kind = .satisfied → ¬Stands .require text)) ∧
    ((∃ hit ∈ find text, hit.kind = .require) ↔ Stands .require text) ∧
    ((∃ hit ∈ find text, hit.kind = .satisfied) ↔
      Stands .satisfied text ∧ ¬Stands .require text) ∧
    (isBlankLine text = true → find text = none) := by
  refine ⟨fun hit => find_eq_some_iff, ?_, ?_, find_eq_none_of_isBlankLine⟩
  · rw [exists_find_iff]
    simp
  · rw [exists_find_iff]
    simp

theorem find_leftmost_failedCandidates :
    IsLeftmost "REQUIREMENT: XREQUIRE: REQUIRE(a b): SATISFIED: é REQUIRE(x): REQUIRE: y".toList
        { kind := .require, qualifier := some "x".toList, stop := 62 } ∧
      isBlankLine " * -- */".toList = true ∧ find " * -- */".toList = none := by
  have found :
      find "REQUIREMENT: XREQUIRE: REQUIRE(a b): SATISFIED: é REQUIRE(x): REQUIRE: y".toList =
        some { kind := .require, qualifier := some "x".toList, stop := 62 } := by decide
  have blank : isBlankLine " * -- */".toList = true := by decide
  exact ⟨(((find_leftmost _).1 _).mp found).1, blank, (find_leftmost _).2.2.2 blank⟩

end KeywordHit
end Traceability
