import Mathlib.Data.List.Induction
import Mathlib.Data.List.TakeWhile
import Traceability.Proofs.Tag.Keyword

/-!
Which texts have a keyword.

A keyword with its qualifier and its colon is written in word characters and parentheses, and the
colon comes last.  So no keyword runs over another character, and a text that is put together at
such a character has no other keywords than its parts (`Stands.split`).  `findKind_eq_none_iff`
says that the search misses none, and `find_written` that it finds the one at the front.
-/

namespace Traceability

open Text (byteLength isSpace isWord)

/-! ### The written form -/

namespace Tag

/-- There is no qualifier, or it is a word. -/
def IsQualifier (qualifier : Option Text) : Prop :=
  ∀ word ∈ qualifier, word ≠ [] ∧ ∀ c ∈ word, isWord c = true

instance (qualifier : Option Text) : Decidable (IsQualifier qualifier) :=
  decidable_of_iff (qualifier.all (fun word => decide (word ≠ []) && word.all isWord) = true)
    (by simp [IsQualifier, Option.all_eq_true])

def IsKeywordChar (c : Char) : Prop :=
  isWord c = true ∨ c = '(' ∨ c = ')'

instance (c : Char) : Decidable (IsKeywordChar c) :=
  inferInstanceAs (Decidable (isWord c = true ∨ c = '(' ∨ c = ')'))

def beforeColon (kind : TagKind) : Option Text → Text
  | none => kind.keyword
  | some word => kind.keyword ++ '(' :: (word ++ [')'])

theorem writtenKeyword_eq (kind : TagKind) (qualifier : Option Text) :
    writtenKeyword kind qualifier = beforeColon kind qualifier ++ [':'] := by
  cases qualifier <;> simp [writtenKeyword, beforeColon]

theorem isWord_of_mem_keyword {kind : TagKind} {c : Char} (member : c ∈ kind.keyword) :
    isWord c = true := by
  have letters : kind.keyword.all isWord = true := by cases kind <;> decide
  exact List.all_eq_true.mp letters c member

theorem isKeywordChar_of_mem {kind : TagKind} {qualifier : Option Text}
    (proper : IsQualifier qualifier) {c : Char} (member : c ∈ beforeColon kind qualifier) :
    IsKeywordChar c := by
  cases qualifier with
  | none => exact .inl (isWord_of_mem_keyword member)
  | some word =>
      rcases List.mem_append.mp member with inKeyword | member
      · exact .inl (isWord_of_mem_keyword inKeyword)
      · rcases List.mem_cons.mp member with rfl | member
        · exact .inr (.inl rfl)
        · rcases List.mem_append.mp member with inWord | member
          · exact .inl ((proper word rfl).2 c inWord)
          · exact .inr (.inr (List.mem_singleton.mp member))

theorem colon_not_mem {kind : TagKind} {qualifier : Option Text} (proper : IsQualifier qualifier) :
    ':' ∉ beforeColon kind qualifier := by
  intro member
  exact absurd (isKeywordChar_of_mem proper member) (by decide)

theorem exists_head_writtenKeyword (kind : TagKind) (qualifier : Option Text) :
    ∃ c rest, writtenKeyword kind qualifier = c :: rest ∧ isWord c = true := by
  have first : ∃ c rest, kind.keyword = c :: rest ∧ isWord c = true := by
    cases kind with
    | require => exact ⟨'R', "EQUIRE".toList, rfl, rfl⟩
    | satisfied => exact ⟨'S', "ATISFIED".toList, rfl, rfl⟩
  obtain ⟨c, rest, keyword, letter⟩ := first
  cases qualifier <;> simp [writtenKeyword, keyword, letter]

end Tag

theorem Text.not_isKeywordChar_of_isSpace {c : Char} (space : isSpace c = true) :
    ¬Tag.IsKeywordChar c := by
  have few : ∀ code ∈ [0x9, 0xA, 0xB, 0xC, 0xD, 0x20, 0x85, 0xA0, 0x1680, 0x2000, 0x2001, 0x2002,
      0x2003, 0x2004, 0x2005, 0x2006, 0x2007, 0x2008, 0x2009, 0x200A, 0x2028, 0x2029, 0x202F,
      0x205F, 0x3000], ¬Tag.IsKeywordChar (Char.ofNat code) := by
    decide +kernel
  have same := few c.toNat (by
    simp only [isSpace, Bool.or_eq_true, Bool.and_eq_true, decide_eq_true_eq, beq_iff_eq] at space
    simp only [List.mem_cons, List.not_mem_nil, or_false]
    omega)
  rwa [Char.ofNat_toNat] at same

namespace KeywordHit

open Tag (IsKeywordChar IsQualifier beforeColon writtenKeyword)

/-! ### A keyword at the front -/

theorem isQualifier_of_afterKeyword? {text after : Text} {qualifier : Option Text}
    (found : afterKeyword? text = some (qualifier, after)) : IsQualifier qualifier := by
  unfold afterKeyword? at found
  split at found
  · obtain ⟨rfl, rfl⟩ := Prod.mk.inj (Option.some.inj found)
    exact nofun
  · dsimp only at found
    split at found
    · split at found
      · cases found
      · rename_i nonempty
        obtain ⟨rfl, rfl⟩ := Prod.mk.inj (Option.some.inj found)
        intro word same
        obtain rfl := Option.some.inj same
        refine ⟨?_, fun c member => List.mem_takeWhile_imp member⟩
        intro empty
        exact nonempty (List.isEmpty_iff.mpr empty)
    · cases found
  · cases found

theorem isQualifier_of_atFront? {keyword text after : Text} {qualifier : Option Text}
    (found : atFront? keyword text = some (qualifier, after)) : IsQualifier qualifier := by
  obtain ⟨_, _, suffix⟩ := Option.bind_eq_some_iff.mp found
  exact isQualifier_of_afterKeyword? suffix

theorem atFront?_writtenKeyword (kind : TagKind) {qualifier : Option Text}
    (proper : IsQualifier qualifier) (after : Text) :
    atFront? kind.keyword (writtenKeyword kind qualifier ++ after) = some (qualifier, after) := by
  have rest (suffix : Text) :
      atFront? kind.keyword (kind.keyword ++ suffix) = afterKeyword? suffix := by
    rw [atFront?, List.isPrefixOf?_eq_some_iff_append_eq.mpr rfl, Option.bind_some]
  cases qualifier with
  | none => rw [writtenKeyword, List.append_assoc, rest]; rfl
  | some word =>
      obtain ⟨nonempty, letters⟩ := proper word rfl
      have split : writtenKeyword kind (some word) ++ after =
          kind.keyword ++ ('(' :: (word ++ ')' :: ':' :: after)) := by
        simp [writtenKeyword]
      have run : (word ++ ')' :: ':' :: after).takeWhile isWord = word := by
        rw [List.takeWhile_append_of_pos letters]
        exact List.append_nil word
      have closed : (word ++ ')' :: ':' :: after).dropWhile isWord = ')' :: ':' :: after := by
        rw [List.dropWhile_append_of_pos letters]
        rfl
      rw [split, rest]
      simp only [afterKeyword?, run, closed, List.isEmpty_iff, nonempty, if_false]

theorem atFront?_of_not_isKeywordChar (kind : TagKind) {c : Char} (other : ¬IsKeywordChar c)
    (rest : Text) : atFront? kind.keyword (c :: rest) = none := by
  cases found : atFront? kind.keyword (c :: rest) with
  | none => rfl
  | some result =>
      have written := atFront?_eq_some found
      obtain ⟨first, _, keyword, letter⟩ := Tag.exists_head_writtenKeyword kind result.1
      rw [keyword, List.cons_append] at written
      rw [(List.cons.inj written).1] at other
      exact absurd (.inl letter) other

/-! ### The search misses no keyword -/

/-- Whether a word character stands right before a text, where `hidden` says so of the front. -/
def hides (hidden : Bool) (front : Text) : Bool :=
  front.getLast?.elim hidden isWord

theorem hides_cons (hidden : Bool) (c : Char) (front : Text) :
    hides hidden (c :: front) = hides (isWord c) front := by
  unfold hides
  rw [List.getLast?_cons]
  cases front.getLast? <;> rfl

theorem hides_of_append {front back : Text} (shown : hides false (front ++ back) = false) :
    hides false back = false := by
  unfold hides at shown ⊢
  rw [List.getLast?_append] at shown
  cases last : back.getLast? with
  | none => rfl
  | some c =>
      rw [last] at shown
      exact shown

/-- A keyword of the kind stands in the text, and no word character right before it. -/
def Stands (kind : TagKind) (text : Text) : Prop :=
  ∃ before qualifier after, IsQualifier qualifier ∧ hides false before = false ∧
    text = before ++ writtenKeyword kind qualifier ++ after

theorem findFrom_eq_none_iff {kind : TagKind} {hidden : Bool} {offset : Nat} {text : Text} :
    findFrom kind hidden offset text = none ↔
      ∀ before qualifier after, IsQualifier qualifier →
        text = before ++ writtenKeyword kind qualifier ++ after → hides hidden before = true := by
  induction text generalizing hidden offset with
  | nil =>
      refine iff_of_true rfl ?_
      intro before qualifier after _ whole
      obtain ⟨c, rest, keyword, _⟩ := Tag.exists_head_writtenKeyword kind qualifier
      simp [keyword] at whole
  | cons c rest ih =>
      rw [findFrom]
      constructor
      · intro missed before qualifier after proper whole
        split at missed
        · cases missed
        · rename_i notHere
          cases before with
          | nil =>
              cases shown : hidden with
              | true => rfl
              | false =>
                  rw [shown, whole, List.nil_append, atFront?_writtenKeyword kind proper] at notHere
                  cases notHere
          | cons first before =>
              obtain ⟨rfl, later⟩ := List.cons.inj whole
              rw [hides_cons]
              exact ih.mp missed before qualifier after proper later
      · intro allHidden
        split
        · rename_i qualifier after here
          exfalso
          cases shown : hidden with
          | true => simp [shown] at here
          | false =>
              rw [shown, if_neg Bool.false_ne_true] at here
              have proper := isQualifier_of_atFront? here
              have hiddenHere := allHidden [] qualifier after proper (atFront?_eq_some here)
              rw [shown] at hiddenHere
              cases hiddenHere
        · refine ih.mpr ?_
          intro before qualifier after proper whole
          rw [← hides_cons hidden]
          exact allHidden (c :: before) qualifier after proper (congrArg (c :: ·) whole)

theorem findKind_eq_none_iff {kind : TagKind} {text : Text} :
    findKind kind text = none ↔ ¬Stands kind text := by
  rw [findKind, findFrom_eq_none_iff]
  constructor
  · rintro allHidden ⟨before, qualifier, after, proper, shown, whole⟩
    rw [allHidden before qualifier after proper whole] at shown
    cases shown
  · intro absent before qualifier after proper whole
    cases shown : hides false before with
    | true => rfl
    | false => exact absurd ⟨before, qualifier, after, proper, shown, whole⟩ absent

theorem find_eq_none_iff {text : Text} : find text = none ↔ ∀ kind, ¬Stands kind text := by
  rw [find, Option.or_eq_none_iff, findKind_eq_none_iff, findKind_eq_none_iff]
  constructor
  · rintro ⟨require, satisfied⟩ kind
    cases kind with
    | require => exact require
    | satisfied => exact satisfied
  · intro absent
    exact ⟨absent .require, absent .satisfied⟩

/-! ### Texts put together -/

variable {kind : TagKind}

theorem not_stands_nil (kind : TagKind) : ¬Stands kind [] := by
  rintro ⟨before, qualifier, after, _, _, whole⟩
  obtain ⟨c, rest, keyword, _⟩ := Tag.exists_head_writtenKeyword kind qualifier
  simp [keyword] at whole

private theorem exists_append_of_not_mem {form rest front back : Text} {c : Char}
    (same : form ++ rest = front ++ c :: back) (absent : c ∉ form) :
    ∃ gap, front = form ++ gap ∧ rest = gap ++ c :: back := by
  rcases List.append_eq_append_iff.mp same with ⟨gap, inFront, isRest⟩ | ⟨gap, rfl, isRest⟩
  · exact ⟨gap, inFront, isRest⟩
  · cases gap with
    | nil => exact ⟨[], by simp, isRest.symm⟩
    | cons first gap =>
        obtain ⟨rfl, _⟩ := List.cons.inj isRest
        exact absurd (List.mem_append_right front (.head gap)) absent

/-- A keyword does not go past a character that is none of its own, its colon included. -/
theorem Stands.split {front back : Text} {c : Char} (other : ¬IsKeywordChar c)
    (stands : Stands kind (front ++ c :: back)) :
    Stands kind (front ++ [c]) ∨ Stands kind back := by
  obtain ⟨before, qualifier, after, proper, shown, whole⟩ := stands
  rw [List.append_assoc] at whole
  rcases List.append_eq_append_iff.mp whole with ⟨gap, rfl, rest⟩ | ⟨gap, rfl, rest⟩
  · right
    cases gap with
    | nil =>
        obtain ⟨first, _, keyword, letter⟩ := Tag.exists_head_writtenKeyword kind qualifier
        rw [keyword] at rest
        obtain ⟨rfl, _⟩ := List.cons.inj rest
        exact absurd (.inl letter) other
    | cons first gap =>
        obtain ⟨rfl, rfl⟩ := List.cons.inj rest
        rw [← List.singleton_append, ← List.append_assoc] at shown
        refine ⟨gap, qualifier, after, proper, hides_of_append shown, ?_⟩
        rw [List.append_assoc]
        rfl
  · left
    have absent : c ∉ beforeColon kind qualifier := by
      intro member
      exact other (Tag.isKeywordChar_of_mem proper member)
    rw [Tag.writtenKeyword_eq, List.append_assoc] at rest
    obtain ⟨tail, rfl, colon⟩ := exists_append_of_not_mem rest absent
    cases tail with
    | nil =>
        obtain ⟨rfl, _⟩ := List.cons.inj colon
        refine ⟨before, qualifier, [], proper, shown, ?_⟩
        rw [Tag.writtenKeyword_eq]
        simp
    | cons first tail =>
        obtain ⟨rfl, _⟩ := List.cons.inj colon
        refine ⟨before, qualifier, tail ++ [c], proper, shown, ?_⟩
        rw [Tag.writtenKeyword_eq]
        simp

theorem Stands.of_concat {front : Text} {c : Char} (notColon : c ≠ ':')
    (stands : Stands kind (front ++ [c])) : Stands kind front := by
  obtain ⟨before, qualifier, after, proper, shown, whole⟩ := stands
  rcases List.eq_nil_or_concat after with rfl | ⟨after, last, rfl⟩
  · rw [List.append_nil, Tag.writtenKeyword_eq, ← List.append_assoc] at whole
    have last := (List.append_inj' whole rfl).2
    exact absurd (List.singleton_inj.mp last) notColon
  · rw [List.concat_eq_append, ← List.append_assoc] at whole
    have same := (List.append_inj' whole rfl).1
    exact ⟨before, qualifier, after, proper, shown, same⟩

/-- Characters that belong to no keyword and are no colon. -/
def Separates (gap : Text) : Prop :=
  ∀ c ∈ gap, ¬IsKeywordChar c ∧ c ≠ ':'

theorem Stands.of_gap_append {gap text : Text} (separates : Separates gap)
    (stands : Stands kind (gap ++ text)) : Stands kind text := by
  induction gap with
  | nil => exact stands
  | cons c gap ih =>
      obtain ⟨other, notColon⟩ := separates c (.head gap)
      have later : Separates gap := fun c member => separates c (.tail _ member)
      rw [← List.nil_append (c :: gap ++ text)] at stands
      rcases Stands.split other stands with alone | stands
      · exact absurd (alone.of_concat notColon) (not_stands_nil kind)
      · exact ih later stands

theorem Stands.of_append_gap {text gap : Text} (separates : Separates gap)
    (stands : Stands kind (text ++ gap)) : Stands kind text := by
  induction gap using List.reverseRecOn with
  | nil => rwa [List.append_nil] at stands
  | append_singleton gap c ih =>
      have notColon := (separates c (List.mem_append_right gap (.head []))).2
      have earlier : Separates gap := fun c member => separates c (List.mem_append_left _ member)
      rw [← List.append_assoc] at stands
      exact ih earlier (stands.of_concat notColon)

theorem Stands.of_join {parts : List Text} (stands : Stands kind (Text.join [' '] parts)) :
    ∃ part ∈ parts, Stands kind part := by
  induction parts with
  | nil => exact absurd stands (not_stands_nil kind)
  | cons part others ih =>
      cases others with
      | nil =>
          rw [Text.join_singleton] at stands
          exact ⟨part, .head _, stands⟩
      | cons next others =>
          rw [Text.join_cons_cons, List.singleton_append] at stands
          rcases Stands.split (by decide) stands with inPart | later
          · exact ⟨part, .head _, inPart.of_concat (by decide)⟩
          · obtain ⟨other, member, stands⟩ := ih later
            exact ⟨other, .tail _ member, stands⟩

/-! ### The keyword that is written -/

theorem findFrom_gap (kind : TagKind) {gap : Text} (separates : Separates gap) (offset : Nat)
    (text : Text) :
    findFrom kind false offset (gap ++ text) =
      findFrom kind false (offset + byteLength gap) text := by
  induction gap generalizing offset with
  | nil => rfl
  | cons c gap ih =>
      have other := (separates c (.head gap)).1
      have shown : isWord c = false := by
        cases word : isWord c with
        | false => rfl
        | true => exact absurd (.inl word) other
      rw [List.cons_append, findFrom, if_neg Bool.false_ne_true,
        atFront?_of_not_isKeywordChar kind other, shown]
      have offsets : offset + byteLength (c :: gap) = offset + c.utf8Size + byteLength gap := by
        rw [Text.byteLength_cons, Nat.add_assoc]
      rw [offsets]
      exact ih (fun c member => separates c (.tail _ member)) (offset + c.utf8Size)

theorem findFrom_written (kind : TagKind) {qualifier : Option Text} (proper : IsQualifier qualifier)
    (offset : Nat) (after : Text) :
    findFrom kind false offset (writtenKeyword kind qualifier ++ after) =
      some { kind, qualifier, stop := offset + byteLength (writtenKeyword kind qualifier) } := by
  have here := atFront?_writtenKeyword kind proper after
  obtain ⟨c, rest, keyword, _⟩ := Tag.exists_head_writtenKeyword kind qualifier
  rw [keyword, List.cons_append] at here ⊢
  rw [findFrom, if_neg Bool.false_ne_true, here]
  simp only [← List.cons_append, Text.byteLength_append, Nat.add_sub_cancel]

theorem findKind_written (kind : TagKind) {qualifier : Option Text} (proper : IsQualifier qualifier)
    {gap : Text} (separates : Separates gap) (after : Text) :
    findKind kind (gap ++ (writtenKeyword kind qualifier ++ after)) =
      some { kind, qualifier, stop := byteLength (gap ++ writtenKeyword kind qualifier) } := by
  rw [findKind, findFrom_gap kind separates, findFrom_written kind proper, Nat.zero_add,
    Text.byteLength_append]

theorem keyword_suffix_of_beforeColon {kind other : TagKind} {qualifier second : Option Text}
    (proper : IsQualifier qualifier)
    (ends : beforeColon other second <:+ beforeColon kind qualifier) :
    other.keyword <:+ kind.keyword := by
  obtain ⟨before, same⟩ := ends
  cases qualifier with
  | none =>
      cases second with
      | none => exact ⟨before, same⟩
      | some word =>
          have parenthesis : ')' ∈ kind.keyword := by
            rw [← beforeColon, ← same]
            simp [beforeColon]
          exact absurd (Tag.isWord_of_mem_keyword parenthesis) (by decide)
  | some word =>
      cases second with
      | none =>
          have last := congrArg List.getLast? same
          rw [beforeColon, beforeColon, List.getLast?_append, ← List.cons_append,
            ← List.append_assoc, List.getLast?_concat] at last
          cases other with
          | require => cases last
          | satisfied => cases last
      | some otherWord =>
          have noParenthesis : '(' ∉ word ++ [')'] := by
            intro member
            rcases List.mem_append.mp member with inWord | isLast
            · exact absurd ((proper word rfl).2 _ inWord) (by decide)
            · exact absurd isLast (by decide)
          have absent : '(' ∉ kind.keyword := by
            intro member
            exact absurd (Tag.isWord_of_mem_keyword member) (by decide)
          rw [beforeColon, beforeColon, ← List.append_assoc] at same
          obtain ⟨keywords, _⟩ := (List.append_cons_inj_of_notMem absent noParenthesis).mp same.symm
          exact ⟨before, keywords.symm⟩

/-- One kind of keyword does not stand in the other: it would have to end before the same colon. -/
theorem not_stands_writtenKeyword_satisfied {qualifier : Option Text}
    (proper : IsQualifier qualifier) : ¬Stands .require (writtenKeyword .satisfied qualifier) := by
  rintro ⟨before, other, after, otherProper, _, whole⟩
  have ends : beforeColon .require other <:+ beforeColon .satisfied qualifier := by
    have colons : beforeColon .satisfied qualifier ++ [':'] =
        (before ++ beforeColon .require other) ++ ':' :: after := by
      rw [← Tag.writtenKeyword_eq, whole, Tag.writtenKeyword_eq]
      simp
    obtain ⟨gap, inFront, rest⟩ := exists_append_of_not_mem colons (Tag.colon_not_mem proper)
    cases gap with
    | nil => exact ⟨before, by rw [inFront, List.append_nil]⟩
    | cons _ gap => simp at rest
  exact absurd (keyword_suffix_of_beforeColon proper ends) (by decide)

theorem not_stands_written_append {qualifier : Option Text} (proper : IsQualifier qualifier)
    {after : Text} (absent : ¬Stands .require after) :
    ¬Stands .require (writtenKeyword .satisfied qualifier ++ after) := by
  intro stands
  rw [Tag.writtenKeyword_eq, List.append_assoc] at stands
  rcases Stands.split (by decide) stands with inKeyword | inAfter
  · rw [← Tag.writtenKeyword_eq] at inKeyword
    exact not_stands_writtenKeyword_satisfied proper inKeyword
  · exact absent inAfter

/-- The keyword at the front of a text is found, unless a requirement follows a satisfaction. -/
theorem find_written {kind : TagKind} {qualifier : Option Text} (proper : IsQualifier qualifier)
    {gap : Text} (separates : Separates gap) {after : Text}
    (noRequire : kind = .satisfied → ¬Stands .require (writtenKeyword kind qualifier ++ after)) :
    find (gap ++ (writtenKeyword kind qualifier ++ after)) =
      some { kind, qualifier, stop := byteLength (gap ++ writtenKeyword kind qualifier) } := by
  have found := findKind_written kind proper separates after
  cases kind with
  | require => rw [find, found, Option.some_or]
  | satisfied =>
      have missed : findKind .require (gap ++ (writtenKeyword .satisfied qualifier ++ after)) =
          none := by
        refine findKind_eq_none_iff.mpr ?_
        intro stands
        exact noRequire rfl (stands.of_gap_append separates)
      rw [find, missed, found, Option.none_or]

theorem separates_of_spaces {gap : Text} (spaces : ∀ c ∈ gap, isSpace c = true) :
    Separates gap := by
  intro c member
  refine ⟨Text.not_isKeywordChar_of_isSpace (spaces c member), ?_⟩
  rintro rfl
  exact absurd (spaces ':' member) (by decide)

end KeywordHit
end Traceability
