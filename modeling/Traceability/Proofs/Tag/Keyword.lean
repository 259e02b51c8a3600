import Mathlib.Data.List.Basic
import Traceability.Proofs.Text.Bytes
import Traceability.Tag.Keyword

/-!
A keyword that is found stands in the text as it is written.

The search reports the position right after the colon.  What stands before that position
ends with the keyword, the qualifier in parentheses if there is one, and the colon.
-/

namespace Traceability
namespace KeywordHit

open Text (byteLength columnAt isWord)

theorem afterKeyword?_eq_some {text after : Text} {qualifier : Option Text} (kind : TagKind)
    (found : afterKeyword? text = some (qualifier, after)) :
    kind.keyword ++ text = Tag.writtenKeyword kind qualifier ++ after := by
  unfold afterKeyword? at found
  split at found
  · obtain ⟨rfl, rfl⟩ := Prod.mk.inj (Option.some.inj found)
    simp [Tag.writtenKeyword]
  · rename_i rest
    split at found
    · rename_i tail closed
      dsimp only at found
      split at found
      · cases found
      · obtain ⟨rfl, rfl⟩ := Prod.mk.inj (Option.some.inj found)
        have parts := List.takeWhile_append_dropWhile (p := isWord) (l := rest)
        rw [closed] at parts
        simp [Tag.writtenKeyword, parts]
    · cases found
  · cases found

theorem atFront?_eq_some {text after : Text} {kind : TagKind} {qualifier : Option Text}
    (found : atFront? kind.keyword text = some (qualifier, after)) :
    text = Tag.writtenKeyword kind qualifier ++ after := by
  obtain ⟨rest, isRest, suffix⟩ := Option.bind_eq_some_iff.mp found
  rw [← List.append_eq_of_isPrefixOf?_eq_some isRest]
  exact afterKeyword?_eq_some kind suffix

theorem findFrom_eq_some {kind : TagKind} {hidden : Bool} {offset : Nat} {text : Text}
    {hit : KeywordHit} (found : findFrom kind hidden offset text = some hit) :
    hit.kind = kind ∧ ∃ before after,
      text = before ++ Tag.writtenKeyword kind hit.qualifier ++ after ∧
      hit.stop = offset + byteLength (before ++ Tag.writtenKeyword kind hit.qualifier) := by
  induction text generalizing hidden offset with
  | nil => cases found
  | cons c rest ih =>
      unfold findFrom at found
      split at found
      · rename_i qualifier after atFront
        obtain rfl := Option.some.inj found
        have written : c :: rest = Tag.writtenKeyword kind qualifier ++ after := by
          cases hidden with
          | true => cases atFront
          | false => exact atFront?_eq_some atFront
        refine ⟨rfl, [], after, written, ?_⟩
        simp only [written, List.nil_append, Text.byteLength_append]
        omega
      · obtain ⟨sameKind, before, after, whole, stop⟩ := ih found
        refine ⟨sameKind, c :: before, after, ?_, ?_⟩
        · rw [whole]
          rfl
        · rw [stop, List.cons_append, Text.byteLength_cons]
          omega

theorem find_eq_some {text : Text} {hit : KeywordHit} (found : find text = some hit) :
    ∃ before after, text = before ++ Tag.writtenKeyword hit.kind hit.qualifier ++ after ∧
      hit.stop = byteLength (before ++ Tag.writtenKeyword hit.kind hit.qualifier) := by
  have ofKind : ∃ kind, findFrom kind false 0 text = some hit := by
    rcases Option.or_eq_some_iff.mp found with atFirst | ⟨_, atSecond⟩
    · exact ⟨.require, atFirst⟩
    · exact ⟨.satisfied, atSecond⟩
  obtain ⟨kind, foundFrom⟩ := ofKind
  obtain ⟨rfl, before, after, whole, stop⟩ := findFrom_eq_some foundFrom
  exact ⟨before, after, whole, by rw [stop, Nat.zero_add]⟩

theorem cuts_of_find_eq_some {text : Text} {hit : KeywordHit} (found : find text = some hit) :
    Text.charsBefore? text hit.stop = some (columnAt text hit.stop) ∧
      Text.dropBytes? text hit.stop = some (text.drop (columnAt text hit.stop)) := by
  obtain ⟨before, after, whole, stop⟩ := find_eq_some found
  rw [stop, whole, Text.charsBefore?_byteLength, Text.dropBytes?_byteLength,
    Text.columnAt_byteLength, List.drop_left]
  exact ⟨rfl, rfl⟩

theorem isBlankLine_of_find_eq_some {text : Text} {hit : KeywordHit}
    (found : find text = some hit) : isBlankLine text = false := by
  obtain ⟨before, after, whole, _⟩ := find_eq_some found
  have letter : ∃ c ∈ Tag.writtenKeyword hit.kind hit.qualifier,
      (Text.isAlphanumeric c || c == '_') = true := by
    have first : ∃ c rest, hit.kind.keyword = c :: rest ∧ Text.isAlphanumeric c = true := by
      cases hit.kind with
      | require => exact ⟨'R', "EQUIRE".toList, rfl, rfl⟩
      | satisfied => exact ⟨'S', "ATISFIED".toList, rfl, rfl⟩
    obtain ⟨c, rest, keyword, alphanumeric⟩ := first
    refine ⟨c, ?_, by rw [alphanumeric]; rfl⟩
    cases hit.qualifier <;> simp [Tag.writtenKeyword, keyword]
  obtain ⟨c, member, alphanumeric⟩ := letter
  have inText : c ∈ text := by
    rw [whole]
    exact List.mem_append_left after (List.mem_append_right before member)
  rw [isBlankLine, List.any_eq_true.mpr ⟨c, inText, alphanumeric⟩]
  rfl

end KeywordHit
end Traceability
