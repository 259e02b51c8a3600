import Mathlib.Data.List.Dedup
import Traceability.Proofs.StableSort
import Traceability.TextTable

/-!
What a table answers after a key is set.

A table is determined by its answers, since its keys are in ascending order.
-/

namespace Traceability

theorem Text.ne_of_lt {left right : Text} (less : compare left right = .lt) : left ≠ right := by
  rintro rfl
  rw [Std.ReflOrd.compare_self] at less
  cases less

theorem Text.lt_of_isLE_of_ne {left right : Text} (notAfter : (compare left right).isLE)
    (different : left ≠ right) : compare left right = .lt := by
  rcases Ordering.isLE_iff_eq_lt_or_eq_eq.mp notAfter with less | equal
  · exact less
  · exact absurd (Std.LawfulEqOrd.eq_of_compare equal) different

/-- Every text of the list once, in ascending order. -/
def Text.ascending (texts : List Text) : List Text :=
  texts.dedup.mergeSort fun left right => (compare left right).isLE

theorem Text.mem_ascending {texts : List Text} {text : Text} :
    text ∈ Text.ascending texts ↔ text ∈ texts := by
  rw [Text.ascending, List.mem_mergeSort, List.mem_dedup]

theorem Text.ascending_pairwise (texts : List Text) :
    (Text.ascending texts).Pairwise fun left right => compare left right = .lt := by
  have sorted : (Text.ascending texts).Pairwise fun left right => (compare left right).isLE :=
    pairwise_mergeSort_isLE compare _
  have once : (Text.ascending texts).Nodup :=
    (List.mergeSort_perm _ _).nodup_iff.mpr texts.nodup_dedup
  refine (sorted.and once).imp ?_
  intro left right ordered
  exact Text.lt_of_isLE_of_ne ordered.1 ordered.2

theorem Text.eq_ascending {sorted texts : List Text}
    (inOrder : sorted.Pairwise fun left right => compare left right = .lt)
    (same : ∀ text, text ∈ sorted ↔ text ∈ texts) : sorted = Text.ascending texts := by
  have perm : sorted.Perm (Text.ascending texts) := by
    rw [List.perm_ext_iff_of_nodup (inOrder.imp Text.ne_of_lt)
      ((Text.ascending_pairwise texts).imp Text.ne_of_lt)]
    intro text
    rw [same, Text.mem_ascending]
  refine perm.eq_of_pairwise ?_ inOrder (Text.ascending_pairwise texts)
  intro left right _ _ before after
  rw [Std.OrientedCmp.gt_of_lt before] at after
  cases after

theorem Text.ascending_eq_of_mem_iff {texts others : List Text}
    (same : ∀ text, text ∈ texts ↔ text ∈ others) :
    Text.ascending texts = Text.ascending others := by
  apply Text.eq_ascending (Text.ascending_pairwise texts)
  intro text
  rw [Text.mem_ascending, same]

namespace TextTable

variable {α : Type} {table : TextTable α} {name other : Text} {value : α}

private theorem lookup_cons_ne {key : Text} {current : α} {rest : List (Text × α)}
    (different : name ≠ key) : ((key, current) :: rest).lookup name = rest.lookup name := by
  rw [List.lookup_cons, beq_false_of_ne different]

private theorem lookup_insertEntry (name other : Text) (value : α)
    (entries : List (Text × α)) :
    (insertEntry name value entries).lookup other =
      if other = name then some value else entries.lookup other := by
  induction entries with
  | nil =>
      by_cases asked : other = name
      · rw [if_pos asked, asked]
        exact List.lookup_cons_self
      · rw [if_neg asked]
        exact lookup_cons_ne asked
  | cons first rest ih =>
      obtain ⟨key, current⟩ := first
      unfold insertEntry
      split
      · by_cases asked : other = name
        · rw [if_pos asked, asked, List.lookup_cons_self]
        · rw [if_neg asked, lookup_cons_ne asked]
      · rename_i equal
        obtain rfl : name = key := Std.LawfulEqOrd.eq_of_compare equal
        by_cases asked : other = name
        · rw [if_pos asked, asked, List.lookup_cons_self]
        · rw [if_neg asked, lookup_cons_ne asked, lookup_cons_ne asked]
      · rename_i after
        have different := (Text.ne_of_lt (Std.OrientedCmp.lt_of_gt after)).symm
        by_cases asked : other = name
        · subst asked
          rw [if_pos rfl, lookup_cons_ne different, ih, if_pos rfl]
        · rw [if_neg asked, List.lookup_cons, List.lookup_cons, ih, if_neg asked]

theorem get?_empty (name : Text) : (empty : TextTable α).get? name = none := rfl

theorem get?_insert (table : TextTable α) (name other : Text) (value : α) :
    (table.insert name value).get? other =
      if other = name then some value else table.get? other :=
  lookup_insertEntry name other value table.entries

theorem mem_keys : name ∈ table.keys ↔ (table.get? name).isSome := by
  rw [get?, List.lookup_isSome_iff, keys, List.mem_map]
  constructor
  · rintro ⟨entry, member, rfl⟩
    exact ⟨entry, member, beq_self_eq_true _⟩
  · rintro ⟨entry, member, same⟩
    exact ⟨entry, member, (eq_of_beq same).symm⟩

theorem keys_ascending (table : TextTable α) :
    table.keys.Pairwise fun left right => compare left right = .lt :=
  List.pairwise_map.mpr table.ascending

theorem keys_eq_ascending {texts : List Text}
    (present : ∀ name, (table.get? name).isSome ↔ name ∈ texts) :
    table.keys = Text.ascending texts := by
  apply Text.eq_ascending table.keys_ascending
  intro name
  rw [mem_keys, present]

private theorem lookup_self_of_mem {entries : List (Text × α)}
    (ascending : entries.Pairwise fun left right => compare left.1 right.1 = .lt)
    {entry : Text × α} (member : entry ∈ entries) :
    entries.lookup entry.1 = some entry.2 := by
  induction entries with
  | nil => cases member
  | cons first rest ih =>
      obtain ⟨smallest, tail⟩ := List.pairwise_cons.mp ascending
      rcases List.mem_cons.mp member with rfl | inRest
      · exact List.lookup_cons_self
      · have different := (Text.ne_of_lt (smallest entry inRest)).symm
        exact (lookup_cons_ne different).trans (ih tail inRest)

theorem get?_of_mem {entry : Text × α} (member : entry ∈ table.entries) :
    table.get? entry.1 = some entry.2 :=
  lookup_self_of_mem table.ascending member

private theorem entries_eq_filterMap (table : TextTable α) :
    table.entries = table.keys.filterMap fun name => (table.get? name).map (name, ·) := by
  rw [keys, List.filterMap_map]
  refine List.filterMap_some.symm.trans (List.filterMap_congr ?_)
  intro entry member
  simp only [Function.comp_apply, get?_of_mem member, Option.map_some]

/-- A table is determined by its answers. -/
theorem eq_of_get?_eq {others : TextTable α} (same : ∀ name, table.get? name = others.get? name) :
    table = others := by
  have present : ∀ name, (table.get? name).isSome ↔ name ∈ others.keys := by
    intro name
    rw [same, mem_keys]
  have keys : table.keys = others.keys :=
    (keys_eq_ascending present).trans (keys_eq_ascending fun _ => mem_keys.symm).symm
  have entries : table.entries = others.entries := by
    rw [entries_eq_filterMap, entries_eq_filterMap others, keys]
    simp only [same]
  cases table
  cases others
  cases entries
  rfl

theorem values_eq_filterMap (table : TextTable α) :
    table.values = table.keys.filterMap table.get? := by
  rw [keys, List.filterMap_map, values, ← List.filterMap_eq_map]
  apply List.filterMap_congr
  intro entry member
  exact (get?_of_mem member).symm

theorem mem_values : value ∈ table.values ↔ ∃ name, table.get? name = some value := by
  rw [values_eq_filterMap, List.mem_filterMap]
  constructor
  · rintro ⟨name, _, found⟩
    exact ⟨name, found⟩
  · rintro ⟨name, found⟩
    exact ⟨name, mem_keys.mpr (by rw [found]; rfl), found⟩

theorem nodup_values (keyOf : α → Text)
    (named : ∀ name value, table.get? name = some value → keyOf value = name) :
    table.values.Nodup := by
  rw [values_eq_filterMap]
  refine List.Nodup.filterMap ?_ (table.keys_ascending.imp Text.ne_of_lt)
  intro name other value found otherFound
  exact (named name value found).symm.trans (named other value otherFound)

/-! ### Counting values -/

private theorem lookup_of_before {key : Text} {rest : List (Text × α)} {current : α}
    (ascending : ((key, current) :: rest).Pairwise fun left right => compare left.1 right.1 = .lt)
    (before : compare name key = .lt) : ((key, current) :: rest).lookup name = none := by
  rw [List.lookup_eq_none_iff]
  intro entry member
  have less : compare name entry.1 = .lt := by
    rcases List.mem_cons.mp member with rfl | inRest
    · exact before
    · exact Std.TransCmp.lt_trans before ((List.pairwise_cons.mp ascending).1 entry inRest)
  exact bne_iff_ne.mpr (Text.ne_of_lt less)

private theorem countP_insertEntry (test : α → Bool) (name : Text) (value : α)
    {entries : List (Text × α)}
    (ascending : entries.Pairwise fun left right => compare left.1 right.1 = .lt) :
    ((insertEntry name value entries).map (·.2)).countP test +
        (entries.lookup name).toList.countP test =
      (entries.map (·.2)).countP test + [value].countP test := by
  induction entries with
  | nil => simp only [insertEntry, List.lookup_nil, Option.toList_none, List.map_nil,
      List.map_cons, List.countP_nil, Nat.add_zero, Nat.zero_add]
  | cons first rest ih =>
      obtain ⟨key, current⟩ := first
      obtain ⟨smallest, tail⟩ := List.pairwise_cons.mp ascending
      unfold insertEntry
      split
      · rename_i before
        rw [lookup_of_before ascending before, List.map_cons, List.countP_cons]
        simp only [Option.toList_none, List.countP_nil, List.countP_singleton]
        omega
      · rename_i equal
        have same : name = key := Std.LawfulEqOrd.eq_of_compare equal
        rw [same, List.lookup_cons_self, List.map_cons, List.map_cons, List.countP_cons,
          List.countP_cons]
        simp only [Option.toList_some, List.countP_singleton]
        omega
      · rename_i after
        have different := (Text.ne_of_lt (Std.OrientedCmp.lt_of_gt after)).symm
        have others := ih tail
        rw [lookup_cons_ne different, List.map_cons, List.map_cons, List.countP_cons,
          List.countP_cons]
        omega

/-- Setting a key exchanges its old value, if there is one, for the new one. -/
theorem countP_values_insert (table : TextTable α) (test : α → Bool) (name : Text) (value : α) :
    (table.insert name value).values.countP test + (table.get? name).toList.countP test =
      table.values.countP test + [value].countP test :=
  countP_insertEntry test name value table.ascending

theorem size_insert (table : TextTable α) (name : Text) (value : α) :
    (table.insert name value).size + (table.get? name).toList.length = table.size + 1 := by
  have counted := table.countP_values_insert (fun _ => true) name value
  simp only [List.countP_true, values, List.length_map, List.length_singleton] at counted
  exact counted

end TextTable
end Traceability
