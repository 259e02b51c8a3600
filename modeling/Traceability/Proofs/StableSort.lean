import Traceability.StableSort

/-!
The order that a stable sort produces.

The result is sorted, and items of equal rank keep the relation that the input has
between an earlier and a later item.  Both are stated at once by
`stableSort_pairwise`.  The sort agrees with the merge sort of the core library.
Items may be left out before or after the sort, and blocks of items whose ranks differ
may change places before it.
-/

namespace Traceability

variable {α : Type} {mayPrecede : α → α → Bool}

theorem mem_insertBefore {item other : α} {items : List α} :
    other ∈ insertBefore mayPrecede item items ↔ other = item ∨ other ∈ items := by
  rw [(insertBefore_perm mayPrecede item items).mem_iff, List.mem_cons]

theorem mem_stableSort {item : α} {items : List α} :
    item ∈ stableSort mayPrecede items ↔ item ∈ items :=
  (stableSort_perm mayPrecede items).mem_iff

section Order

variable (transitive : ∀ first second third, mayPrecede first second →
  mayPrecede second third → mayPrecede first third)
variable (total : ∀ left right, mayPrecede left right || mayPrecede right left)

include transitive total

private theorem insertBefore_pairwise {earlier : α → α → Prop} {item : α} {items : List α}
    (sorted : items.Pairwise fun left right =>
      mayPrecede left right ∧ (mayPrecede right left → earlier left right))
    (first : ∀ other ∈ items, earlier item other) :
    (insertBefore mayPrecede item items).Pairwise fun left right =>
      mayPrecede left right ∧ (mayPrecede right left → earlier left right) := by
  induction items with
  | nil => simp [insertBefore]
  | cons head rest ih =>
      have fromHead := (List.pairwise_cons.mp sorted).1
      have tailSorted := (List.pairwise_cons.mp sorted).2
      unfold insertBefore
      split
      · rename_i before
        refine List.Pairwise.cons ?_ sorted
        intro other member
        refine ⟨?_, fun _ => first other member⟩
        rcases List.mem_cons.mp member with rfl | inRest
        · exact before
        · exact transitive item head other before (fromHead other inRest).1
      · rename_i notBefore
        refine List.Pairwise.cons ?_
          (ih tailSorted fun other member => first other (.tail _ member))
        intro other member
        rcases mem_insertBefore.mp member with rfl | inRest
        · have either := total other head
          rw [Bool.or_eq_true] at either
          exact ⟨either.resolve_left notBefore, fun before => absurd before notBefore⟩
        · exact fromHead other inRest

/-- The result is sorted, and where two items may stand in either order, the one that
comes first in the input comes first in the result. -/
theorem stableSort_pairwise {earlier : α → α → Prop} {items : List α}
    (given : items.Pairwise earlier) :
    (stableSort mayPrecede items).Pairwise fun left right =>
      mayPrecede left right ∧ (mayPrecede right left → earlier left right) := by
  induction items with
  | nil => exact .nil
  | cons item rest ih =>
      obtain ⟨first, restGiven⟩ := List.pairwise_cons.mp given
      refine insertBefore_pairwise transitive total (ih restGiven) ?_
      intro other member
      exact first other (mem_stableSort.mp member)

omit transitive total in
private theorem insertBefore_append {item : α} {front back : List α}
    (later : ∀ other ∈ front, mayPrecede item other = false)
    (earlier : ∀ other ∈ back, mayPrecede item other = true) :
    insertBefore mayPrecede item (front ++ back) = front ++ item :: back := by
  induction front with
  | nil =>
      cases back with
      | nil => rfl
      | cons head rest =>
          simp only [List.nil_append, insertBefore, earlier head (.head _), if_true]
  | cons head rest ih =>
      have notBefore := later head (.head _)
      simp only [List.cons_append, insertBefore, notBefore, Bool.false_eq_true, if_false]
      rw [ih fun other member => later other (.tail _ member)]

/-- The sort is the merge sort of the core library. -/
theorem stableSort_eq_mergeSort (items : List α) :
    stableSort mayPrecede items = items.mergeSort mayPrecede := by
  induction items with
  | nil => simp
  | cons item rest ih =>
      obtain ⟨front, back, whole, tail, later⟩ :=
        List.mergeSort_cons transitive total item rest
      have sorted := List.pairwise_mergeSort transitive total (item :: rest)
      rw [whole] at sorted
      have earlier := (List.pairwise_cons.mp (List.pairwise_append.mp sorted).2.1).1
      rw [stableSort_cons, ih, tail, whole]
      refine insertBefore_append ?_ earlier
      intro other member
      have notBefore := later other member
      simpa using notBefore

private theorem stableSort_cons_split (item : α) (rest : List α) :
    ∃ front back, stableSort mayPrecede rest = front ++ back ∧
      stableSort mayPrecede (item :: rest) = front ++ item :: back ∧
      (∀ other ∈ front, mayPrecede item other = false) ∧
      ∀ other ∈ back, mayPrecede item other = true := by
  obtain ⟨front, back, whole, tail, later⟩ := List.mergeSort_cons transitive total item rest
  have sorted := List.pairwise_mergeSort transitive total (item :: rest)
  rw [whole] at sorted
  refine ⟨front, back, ?_, ?_, ?_, ?_⟩
  · rw [stableSort_eq_mergeSort transitive total, tail]
  · rw [stableSort_eq_mergeSort transitive total, whole]
  · intro other member
    have notBefore := later other member
    simpa using notBefore
  · exact (List.pairwise_cons.mp (List.pairwise_append.mp sorted).2.1).1

/-- Items may be left out before or after the sort. -/
theorem filter_stableSort (keep : α → Bool) (items : List α) :
    (stableSort mayPrecede items).filter keep = stableSort mayPrecede (items.filter keep) := by
  induction items with
  | nil => rfl
  | cons item rest ih =>
      obtain ⟨front, back, tail, whole, later, earlier⟩ :=
        stableSort_cons_split transitive total item rest
      rw [tail, List.filter_append] at ih
      rw [whole, List.filter_append, List.filter_cons, List.filter_cons]
      split
      · rw [stableSort_cons, ← ih]
        symm
        apply insertBefore_append
        · intro other member
          exact later other (List.mem_filter.mp member).1
        · intro other member
          exact earlier other (List.mem_filter.mp member).1
      · exact ih

omit total in
private theorem insertBefore_comm_of_lt {left right : α} (before : mayPrecede left right = true)
    (notAfter : mayPrecede right left = false) (items : List α) :
    insertBefore mayPrecede left (insertBefore mayPrecede right items) =
      insertBefore mayPrecede right (insertBefore mayPrecede left items) := by
  induction items with
  | nil => simp [insertBefore, before, notAfter]
  | cons head rest ih =>
      cases rightFirst : mayPrecede right head with
      | true =>
          have leftFirst := transitive left right head before rightFirst
          simp [insertBefore, before, notAfter, rightFirst, leftFirst]
      | false =>
          cases leftFirst : mayPrecede left head with
          | true => simp [insertBefore, notAfter, rightFirst, leftFirst]
          | false => simp [insertBefore, rightFirst, leftFirst, ih]

theorem insertBefore_comm {left right : α}
    (apart : ¬(mayPrecede left right = true ∧ mayPrecede right left = true)) (items : List α) :
    insertBefore mayPrecede left (insertBefore mayPrecede right items) =
      insertBefore mayPrecede right (insertBefore mayPrecede left items) := by
  have either := total left right
  cases before : mayPrecede left right with
  | true =>
      have notAfter : mayPrecede right left = false := by simpa [before] using apart
      exact insertBefore_comm_of_lt transitive before notAfter items
  | false =>
      have after : mayPrecede right left = true := by simpa [before] using either
      exact (insertBefore_comm_of_lt transitive after before items).symm

private theorem insertBefore_foldr_comm {item : α} {block : List α}
    (apart : ∀ other ∈ block, ¬(mayPrecede item other = true ∧ mayPrecede other item = true))
    (sorted : List α) :
    insertBefore mayPrecede item (block.foldr (insertBefore mayPrecede) sorted) =
      block.foldr (insertBefore mayPrecede) (insertBefore mayPrecede item sorted) := by
  induction block with
  | nil => rfl
  | cons first rest ih =>
      rw [List.foldr_cons, List.foldr_cons,
        insertBefore_comm transitive total (apart first (.head _)),
        ih fun other member => apart other (.tail _ member)]

private theorem foldr_insertBefore_comm {block other : List α}
    (apart : ∀ left ∈ block, ∀ right ∈ other,
      ¬(mayPrecede left right = true ∧ mayPrecede right left = true)) (sorted : List α) :
    block.foldr (insertBefore mayPrecede) (other.foldr (insertBefore mayPrecede) sorted) =
      other.foldr (insertBefore mayPrecede) (block.foldr (insertBefore mayPrecede) sorted) := by
  induction block with
  | nil => rfl
  | cons first rest ih =>
      rw [List.foldr_cons, List.foldr_cons,
        ih fun left member => apart left (.tail _ member),
        insertBefore_foldr_comm transitive total (apart first (.head _))]

/-- Blocks may change places before the sort if items of two blocks never have one rank. -/
theorem stableSort_flatMap_of_perm {β : Type} {blocks others : List β} (items : β → List α)
    (same : blocks.Perm others)
    (apart : ∀ block ∈ blocks, ∀ other ∈ blocks, block ≠ other →
      ∀ left ∈ items block, ∀ right ∈ items other,
        ¬(mayPrecede left right = true ∧ mayPrecede right left = true)) (last : List α) :
    stableSort mayPrecede (blocks.flatMap items ++ last) =
      stableSort mayPrecede (others.flatMap items ++ last) := by
  simp only [stableSort, List.foldr_append, List.foldr_flatMap]
  apply same.foldr_eq'
  intro block member other otherMember sorted
  by_cases equal : block = other
  · rw [equal]
  · exact foldr_insertBefore_comm transitive total
      (apart other otherMember block member (Ne.symm equal)) sorted

end Order

/-! ### Sorting by a comparison -/

section Comparison

variable (compareItems : α → α → Ordering) [Std.TransCmp compareItems]

theorem isLE_total (left right : α) :
    (compareItems left right).isLE || (compareItems right left).isLE := by
  cases order : compareItems left right with
  | lt => rfl
  | eq => rfl
  | gt => rw [Std.OrientedCmp.lt_of_gt order]; rfl

theorem pairwise_mergeSort_isLE (items : List α) :
    (items.mergeSort fun left right => (compareItems left right).isLE).Pairwise
      fun left right => (compareItems left right).isLE :=
  List.pairwise_mergeSort (fun _ _ _ => Std.TransCmp.isLE_trans) (isLE_total compareItems) items

theorem stableSort_isLE (items : List α) :
    stableSort (fun left right => (compareItems left right).isLE) items =
      items.mergeSort fun left right => (compareItems left right).isLE :=
  stableSort_eq_mergeSort (fun _ _ _ => Std.TransCmp.isLE_trans) (isLE_total compareItems) items

theorem stableSort_isLE_of_iff {precedes : α → α → Prop} [DecidableRel precedes]
    (same : ∀ left right, (compareItems left right).isLE ↔ precedes left right) (items : List α) :
    stableSort (fun left right => (compareItems left right).isLE) items =
      items.mergeSort fun left right => decide (precedes left right) := by
  rw [stableSort_isLE]
  congr 1
  funext left right
  exact Bool.eq_iff_iff.mpr ((same left right).trans decide_eq_true_iff.symm)

theorem stableSort_isLE_flatMap_of_perm {β : Type} {blocks others : List β} (items : β → List α)
    (same : blocks.Perm others)
    (apart : ∀ block ∈ blocks, ∀ other ∈ blocks, ∀ left ∈ items block, ∀ right ∈ items other,
      compareItems left right = .eq → block = other) (last : List α) :
    stableSort (fun left right => (compareItems left right).isLE) (blocks.flatMap items ++ last) =
      stableSort (fun left right => (compareItems left right).isLE)
        (others.flatMap items ++ last) := by
  apply stableSort_flatMap_of_perm (fun _ _ _ => Std.TransCmp.isLE_trans)
    (isLE_total compareItems) items same
  rintro block inBlocks other inOthers different left inLeft right inRight ⟨before, after⟩
  have equal := Std.OrientedCmp.isLE_antisymm before after
  exact different (apart block inBlocks other inOthers left inLeft right inRight equal)

/-- Items whose ranks all differ are sorted in one way only. -/
theorem stableSort_isLE_eq_of_perm {items others : List α} (same : items.Perm others)
    (apart : ∀ left ∈ items, ∀ right ∈ items, compareItems left right = .eq → left = right) :
    stableSort (fun left right => (compareItems left right).isLE) items =
      stableSort (fun left right => (compareItems left right).isLE) others := by
  have blocks := stableSort_isLE_flatMap_of_perm compareItems (fun item => [item]) same
    (by simpa using apart) []
  simpa using blocks

end Comparison
end Traceability
