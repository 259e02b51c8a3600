import Traceability.Issue.Pairing
import Traceability.Proofs.TextTable

/-!
The first tag of a kind and identifier is kept, and every later one is a duplicate.

A scope `Holds` the tags that were routed into it if it keeps the first of each kind
and identifier and no other key.  Routing one more tag keeps this, and the issue it gives
names the first tag of the same kind and identifier.
-/

namespace Traceability

/-- What is judged by the items before it stays as it is when an item is added. -/
theorem filterMap_zipIdx_concat {α β : Type} (judge : List α → α → Option β) (items : List α)
    (item : α) :
    ((items ++ [item]).zipIdx.filterMap fun (later, index) =>
        judge ((items ++ [item]).take index) later) =
      (items.zipIdx.filterMap fun (later, index) => judge (items.take index) later) ++
        (judge items item).toList := by
  rw [List.zipIdx_append, List.filterMap_append]
  congr 1
  · apply List.filterMap_congr
    rintro ⟨later, index⟩ member
    have bound : index ≤ items.length := Nat.le_of_lt (List.snd_lt_of_mem_zipIdx member)
    simp only [List.take_append_of_le_length bound]
  · simp only [List.zipIdx_singleton, Nat.zero_add, List.filterMap_cons, List.take_left,
      List.filterMap_nil]
    cases judge items item <;> rfl

namespace Occurrence

def sameName (left right : Occurrence) : Bool :=
  left.kind == right.kind && left.id == right.id

def first? (occurrences : List Occurrence) (kind : TagKind) (id : Text) : Option Occurrence :=
  occurrences.find? fun occurrence => occurrence.kind == kind && occurrence.id == id

def ids (occurrences : List Occurrence) : List Text :=
  Text.ascending (occurrences.map (·.id))

/-- Every tag with an earlier one of its class, as a duplicate of the first of them. -/
def duplicates (sameClass : Occurrence → Occurrence → Bool) (occurrences : List Occurrence) :
    List Issue :=
  occurrences.zipIdx.filterMap fun (later, index) =>
    ((occurrences.take index).find? fun earlier => sameClass earlier later).map
      (.duplicate later)

/-- Every identifier with tags of one kind only, at the first of them. -/
def unpaired (occurrences : List Occurrence) : List Issue :=
  (ids occurrences).filterMap fun id =>
    match first? occurrences .require id, first? occurrences .satisfied id with
    | some require, none => some (.missing require)
    | none, some satisfied => some (.missing satisfied)
    | _, _ => none

variable {occurrences : List Occurrence} {occurrence : Occurrence} {kind : TagKind} {id : Text}

theorem first?_concat (occurrences : List Occurrence) (occurrence : Occurrence) (kind : TagKind)
    (id : Text) :
    first? (occurrences ++ [occurrence]) kind id =
      (first? occurrences kind id).or
        (if occurrence.kind = kind ∧ occurrence.id = id then some occurrence else none) := by
  simp only [first?, List.find?_append, List.find?_cons, List.find?_nil]
  congr 1
  by_cases same : occurrence.kind = kind ∧ occurrence.id = id
  · rw [if_pos same, same.1, same.2]
    simp only [beq_self_eq_true, Bool.and_self]
  · rw [if_neg same]
    have different : (occurrence.kind == kind && occurrence.id == id) = false := by
      simpa using same
    rw [different]

theorem of_first?_eq_some {first : Occurrence} (found : first? occurrences kind id = some first) :
    first ∈ occurrences ∧ first.kind = kind ∧ first.id = id := by
  have named := List.find?_some found
  simp only [Bool.and_eq_true, beq_iff_eq] at named
  exact ⟨List.mem_of_find?_eq_some found, named⟩

theorem first?_concat_of_known {first : Occurrence}
    (known : first? occurrences occurrence.kind occurrence.id = some first) (kind : TagKind)
    (id : Text) : first? (occurrences ++ [occurrence]) kind id = first? occurrences kind id := by
  rw [first?_concat]
  by_cases same : occurrence.kind = kind ∧ occurrence.id = id
  · rw [← same.1, ← same.2, known, Option.some_or]
  · rw [if_neg same, Option.or_none]

theorem first?_concat_of_new
    (new : first? occurrences occurrence.kind occurrence.id = none) (kind : TagKind)
    (id : Text) :
    first? (occurrences ++ [occurrence]) kind id =
      if occurrence.kind = kind ∧ occurrence.id = id then some occurrence
      else first? occurrences kind id := by
  rw [first?_concat]
  by_cases same : occurrence.kind = kind ∧ occurrence.id = id
  · rw [if_pos same, if_pos same, ← same.1, ← same.2, new, Option.none_or]
  · rw [if_neg same, if_neg same, Option.or_none]

def unpairedAt (occurrences : List Occurrence) (id : Text) : Option Issue :=
  match first? occurrences .require id, first? occurrences .satisfied id with
  | some require, none => some (.missing require)
  | none, some satisfied => some (.missing satisfied)
  | _, _ => none

theorem unpaired_eq (occurrences : List Occurrence) :
    unpaired occurrences = (ids occurrences).filterMap (unpairedAt occurrences) := rfl

theorem first?_of_unpairedAt {issue : Issue} (found : unpairedAt occurrences id = some issue) :
    ∃ kind, first? occurrences kind id = some issue.location := by
  unfold unpairedAt at found
  split at found
  · rename_i require _
    obtain rfl := Option.some.inj found
    exact ⟨.require, require⟩
  · rename_i _ satisfied
    obtain rfl := Option.some.inj found
    exact ⟨.satisfied, satisfied⟩
  · cases found

theorem location_mem_of_mem_unpaired {issue : Issue} (member : issue ∈ unpaired occurrences) :
    issue.location ∈ occurrences := by
  rw [unpaired_eq] at member
  obtain ⟨id, _, found⟩ := List.mem_filterMap.mp member
  obtain ⟨kind, first⟩ := first?_of_unpairedAt found
  exact (of_first?_eq_some first).1

/-- One more tag is a duplicate if its class has a tag already. -/
theorem duplicates_concat (sameClass : Occurrence → Occurrence → Bool)
    (occurrences : List Occurrence) (occurrence : Occurrence) :
    duplicates sameClass (occurrences ++ [occurrence]) =
      duplicates sameClass occurrences ++
        ((occurrences.find? fun earlier => sameClass earlier occurrence).map
          (Issue.duplicate occurrence)).toList :=
  filterMap_zipIdx_concat (fun seen later => (seen.find? fun earlier =>
    sameClass earlier later).map (Issue.duplicate later)) occurrences occurrence

end Occurrence

/-! ### Scopes -/

namespace TagPair

theorem get?_empty (kind : TagKind) : ({} : TagPair).get? kind = none := by
  cases kind <;> rfl

theorem get?_set (pair : TagPair) (occurrence : Occurrence) (kind : TagKind) :
    (pair.set occurrence).get? kind =
      if occurrence.kind = kind then some occurrence else pair.get? kind := by
  unfold set
  split <;> rename_i isKind <;> rw [isKind] <;> cases kind <;> rfl

end TagPair

namespace Scope

variable {scope : Scope} {occurrences : List Occurrence} {occurrence : Occurrence}

theorem first?_eq_get? (scope : Scope) (kind : TagKind) (id : Text) :
    scope.first? kind id = ((scope.get? id).getD {}).get? kind := by
  unfold first?
  cases scope.get? id with
  | none => exact (TagPair.get?_empty kind).symm
  | some pair => rfl

theorem first?_keep (scope : Scope) (occurrence : Occurrence) (kind : TagKind) (id : Text) :
    (scope.keep occurrence).first? kind id =
      if occurrence.kind = kind ∧ occurrence.id = id then some occurrence
      else scope.first? kind id := by
  rw [first?_eq_get?, first?_eq_get?, keep, TextTable.get?_insert]
  by_cases sameId : id = occurrence.id
  · subst sameId
    rw [if_pos rfl, Option.getD_some, TagPair.get?_set]
    simp only [and_true]
  · have different : ¬(occurrence.kind = kind ∧ occurrence.id = id) :=
      fun same => sameId same.2.symm
    rw [if_neg sameId, if_neg different]

/-- The scope keeps the first tag of each kind and identifier, and no other key. -/
structure Holds (scope : Scope) (occurrences : List Occurrence) : Prop where
  first : ∀ kind id, scope.first? kind id = Occurrence.first? occurrences kind id
  keys : ∀ id, (scope.get? id).isSome ↔ id ∈ occurrences.map (·.id)

theorem holds_empty : Holds .empty [] :=
  ⟨fun _ _ => rfl, fun id => by simp [TextTable.get?_empty]⟩

private theorem Holds.keep (holds : scope.Holds occurrences)
    (new : Occurrence.first? occurrences occurrence.kind occurrence.id = none) :
    (scope.keep occurrence).Holds (occurrences ++ [occurrence]) := by
  constructor
  · intro kind id
    rw [first?_keep, Occurrence.first?_concat_of_new new, holds.first]
  · intro id
    rw [Scope.keep, TextTable.get?_insert, List.map_append, List.mem_append, ← holds.keys]
    by_cases same : id = occurrence.id
    · simp [same]
    · simp [same]

private theorem Holds.again (holds : scope.Holds occurrences) {first : Occurrence}
    (known : Occurrence.first? occurrences occurrence.kind occurrence.id = some first) :
    scope.Holds (occurrences ++ [occurrence]) := by
  obtain ⟨member, -, sameId⟩ := Occurrence.of_first?_eq_some known
  constructor
  · intro kind id
    rw [holds.first, Occurrence.first?_concat_of_known known]
  · intro id
    have present : occurrence.id ∈ occurrences.map (·.id) :=
      List.mem_map.mpr ⟨first, member, sameId⟩
    rw [holds.keys, List.map_append, List.mem_append, List.map_singleton, List.mem_singleton]
    constructor
    · exact .inl
    · rintro (inside | rfl)
      · exact inside
      · exact present

/-- Routing a tag: the scope then holds it too, and a tag of a known kind and identifier
is a duplicate of the first one. -/
theorem Holds.record (holds : scope.Holds occurrences) (occurrence : Occurrence) :
    (scope.record occurrence).1.Holds (occurrences ++ [occurrence]) ∧
      (scope.record occurrence).2 =
        (Occurrence.first? occurrences occurrence.kind occurrence.id).map
          (.duplicate occurrence) := by
  have kept := holds.first occurrence.kind occurrence.id
  unfold Scope.record
  rw [kept]
  cases found : Occurrence.first? occurrences occurrence.kind occurrence.id with
  | none => exact ⟨holds.keep found, rfl⟩
  | some first => exact ⟨holds.again found, rfl⟩

theorem Holds.missing (holds : scope.Holds occurrences) :
    scope.missing = Occurrence.unpaired occurrences := by
  have keys : TextTable.keys scope = Occurrence.ids occurrences :=
    TextTable.keys_eq_ascending holds.keys
  rw [Scope.missing, TextTable.values_eq_filterMap, List.filterMap_filterMap,
    List.map_filterMap, keys, Occurrence.unpaired]
  apply List.filterMap_congr
  intro id _
  rw [← holds.first, ← holds.first, first?_eq_get?, first?_eq_get?]
  cases scope.get? id with
  | none => rfl
  | some pair => rcases pair with ⟨_ | require, _ | satisfied⟩ <;> rfl

private theorem countP_keep (scope : Scope) (kind : TagKind)
    (new : scope.first? occurrence.kind occurrence.id = none) :
    (scope.keep occurrence).values.countP (fun pair => (pair.get? kind).isSome) =
      scope.values.countP (fun pair => (pair.get? kind).isSome) +
        if occurrence.kind = kind then 1 else 0 := by
  have counted := scope.countP_values_insert (fun pair => (pair.get? kind).isSome) occurrence.id
    (((scope.get? occurrence.id).getD {}).set occurrence)
  rw [first?_eq_get?] at new
  rw [List.countP_singleton, TagPair.get?_set] at counted
  rw [keep]
  by_cases sameKind : occurrence.kind = kind
  · have unset : (scope.get? occurrence.id).toList.countP
        (fun pair => (pair.get? kind).isSome) = 0 := by
      rw [← sameKind]
      cases found : scope.get? occurrence.id with
      | none => rfl
      | some pair =>
          rw [found, Option.getD_some] at new
          simp [new]
    rw [if_pos sameKind, Option.isSome_some, if_pos rfl] at counted
    rw [if_pos sameKind]
    omega
  · have other : (scope.get? occurrence.id).toList.countP
        (fun pair => (pair.get? kind).isSome) =
        if (((scope.get? occurrence.id).getD {}).get? kind).isSome then 1 else 0 := by
      cases scope.get? occurrence.id with
      | none => simp [TagPair.get?_empty]
      | some pair => rw [Option.toList_some, List.countP_singleton, Option.getD_some]
    rw [if_neg sameKind, other] at counted
    rw [if_neg sameKind]
    omega

private theorem total_keep (scope : Scope) (shared : SharedScope)
    (new : scope.first? occurrence.kind occurrence.id = none) :
    (TagCounts.ofScopes (scope.keep occurrence) shared).total =
      (TagCounts.ofScopes scope shared).total + 1 := by
  have requires := countP_keep scope .require new
  have satisfied := countP_keep scope .satisfied new
  have oneKind : (if occurrence.kind = .require then 1 else 0) +
      (if occurrence.kind = .satisfied then 1 else 0) = 1 := by
    cases occurrence.kind <;> rfl
  simp only [TagPair.get?] at requires satisfied
  simp only [TagCounts.total, TagCounts.ofScopes, ← List.countP_eq_length_filter, requires,
    satisfied]
  omega

/-- A tag that is routed fills one more place or is reported. -/
theorem total_record (scope : Scope) (shared : SharedScope) (occurrence : Occurrence) :
    (TagCounts.ofScopes (scope.record occurrence).1 shared).total +
        (scope.record occurrence).2.toList.length =
      (TagCounts.ofScopes scope shared).total + 1 := by
  unfold Scope.record
  cases found : scope.first? occurrence.kind occurrence.id with
  | none => exact total_keep scope shared found
  | some first => rfl

end Scope

namespace SharedScope

variable {scope : SharedScope} {occurrences : List Occurrence} {occurrence : Occurrence}

theorem get?_insert (scope : SharedScope) (occurrence : Occurrence) (kind : TagKind) (id : Text) :
    ((scope.insert occurrence).get kind).get? id =
      if occurrence.kind = kind ∧ occurrence.id = id then some occurrence
      else (scope.get kind).get? id := by
  have answer (table : TextTable Occurrence) :
      (table.insert occurrence.id occurrence).get? id =
        if occurrence.id = id then some occurrence else table.get? id := by
    rw [TextTable.get?_insert]
    simp only [eq_comm]
  unfold insert
  split <;> rename_i isKind <;> rw [isKind] <;> cases kind <;> simp [get, answer]

def Holds (scope : SharedScope) (occurrences : List Occurrence) : Prop :=
  ∀ kind id, (scope.get kind).get? id = Occurrence.first? occurrences kind id

theorem holds_empty : Holds {} [] := by
  intro kind id
  cases kind <;> rfl

theorem Holds.record (holds : scope.Holds occurrences) (occurrence : Occurrence) :
    (scope.record occurrence).1.Holds (occurrences ++ [occurrence]) ∧
      (scope.record occurrence).2 =
        (Occurrence.first? occurrences occurrence.kind occurrence.id).map
          (.duplicate occurrence) := by
  have kept := holds occurrence.kind occurrence.id
  unfold SharedScope.record
  rw [kept]
  cases found : Occurrence.first? occurrences occurrence.kind occurrence.id with
  | none =>
      refine ⟨fun kind id => ?_, rfl⟩
      rw [get?_insert, Occurrence.first?_concat_of_new found, holds]
  | some first =>
      refine ⟨fun kind id => ?_, rfl⟩
      rw [Occurrence.first?_concat_of_known found]
      exact holds kind id

private theorem total_insert (scope : Scope) (shared : SharedScope)
    (new : (shared.get occurrence.kind).get? occurrence.id = none) :
    (TagCounts.ofScopes scope (shared.insert occurrence)).total =
      (TagCounts.ofScopes scope shared).total + 1 := by
  have size := (shared.get occurrence.kind).size_insert occurrence.id occurrence
  rw [new, Option.toList_none, List.length_nil, Nat.add_zero] at size
  unfold insert
  split <;> rename_i isKind <;> rw [isKind] at size <;> simp only [get] at size <;>
    simp only [TagCounts.total, TagCounts.ofScopes, size] <;> omega

theorem total_record (scope : Scope) (shared : SharedScope) (occurrence : Occurrence) :
    (TagCounts.ofScopes scope (shared.record occurrence).1).total +
        (shared.record occurrence).2.toList.length =
      (TagCounts.ofScopes scope shared).total + 1 := by
  unfold SharedScope.record
  cases found : (shared.get occurrence.kind).get? occurrence.id with
  | none => exact total_insert scope shared found
  | some first => rfl

end SharedScope
end Traceability
