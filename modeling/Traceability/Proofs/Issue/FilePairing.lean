import Mathlib.Data.List.Induction
import Traceability.Proofs.Issue.FirstSeen
import Traceability.Proofs.Issue.Order

/-!
Pairing the tags of one file.

Tags with a qualifier and tags without one are routed differently, but by one law: the first
tag of each class is kept and every later one is a duplicate of it.  The invariant `After`
says this for the tags that were routed so far, and that no tag is lost.
-/

namespace Traceability
namespace Occurrence

/-- The tags that are shared between files, or those that are not. -/
def whereShared (shared : Bool) (occurrences : List Occurrence) : List Occurrence :=
  occurrences.filter fun occurrence => occurrence.tag.isShared == shared

/-- Tags of one file that are alike: shared or not, of one kind and one identifier. -/
def sameClass (left right : Occurrence) : Bool :=
  left.tag.isShared == right.tag.isShared && sameName left right

variable {occurrence : Occurrence} {shared : Bool}

theorem whereShared_concat_same (occurrences : List Occurrence)
    (same : occurrence.tag.isShared = shared) :
    whereShared shared (occurrences ++ [occurrence]) =
      whereShared shared occurrences ++ [occurrence] := by
  rw [whereShared, List.filter_append, List.filter_singleton, same, beq_self_eq_true]
  rfl

theorem whereShared_concat_other (occurrences : List Occurrence)
    (other : occurrence.tag.isShared ≠ shared) :
    whereShared shared (occurrences ++ [occurrence]) = whereShared shared occurrences := by
  rw [whereShared, List.filter_append, List.filter_singleton, beq_false_of_ne other]
  exact List.append_nil _

/-- The first tag of a class is the first of its kind and identifier on its side. -/
theorem first?_whereShared (occurrences : List Occurrence)
    (same : occurrence.tag.isShared = shared) :
    first? (whereShared shared occurrences) occurrence.kind occurrence.id =
      occurrences.find? fun earlier => sameClass earlier occurrence := by
  rw [first?, whereShared, List.find?_filter]
  congr 1
  funext earlier
  rw [sameClass, same, sameName]
  rw [Bool.decide_and, Bool.decide_coe, Bool.decide_coe]

end Occurrence

def Issue.isDuplicate : Issue → Bool
  | duplicate _ _ => true
  | missing _ => false

namespace Occurrence

theorem isDuplicate_of_mem_duplicates {sameClass : Occurrence → Occurrence → Bool}
    {occurrences : List Occurrence} {issue : Issue}
    (member : issue ∈ duplicates sameClass occurrences) : issue.isDuplicate = true := by
  obtain ⟨⟨later, index⟩, _, found⟩ := List.mem_filterMap.mp member
  obtain ⟨first, _, rfl⟩ := Option.map_eq_some_iff.mp found
  rfl

theorem isDuplicate_of_mem_unpaired {occurrences : List Occurrence} {issue : Issue}
    (member : issue ∈ unpaired occurrences) : issue.isDuplicate = false := by
  obtain ⟨id, _, found⟩ := List.mem_filterMap.mp member
  split at found <;> cases found <;> rfl

/-- The issues of a pairing are its duplicates and what is unpaired, and each tells which it is. -/
theorem mem_sortByLocation_iff {sameClass : Occurrence → Occurrence → Bool}
    {occurrences others : List Occurrence} {issue : Issue} :
    issue ∈ Issue.sortByLocation (duplicates sameClass occurrences ++ unpaired others) ↔
      if issue.isDuplicate then issue ∈ duplicates sameClass occurrences
      else issue ∈ unpaired others := by
  rw [Issue.sortByLocation, mem_stableSort, List.mem_append]
  cases kind : issue.isDuplicate with
  | true =>
      refine or_iff_left fun missing => ?_
      rw [isDuplicate_of_mem_unpaired missing] at kind
      cases kind
  | false =>
      refine or_iff_right fun duplicate => ?_
      rw [isDuplicate_of_mem_duplicates duplicate] at kind
      cases kind

theorem sublist_of_mem_duplicates {sameClass : Occurrence → Occurrence → Bool}
    {occurrences : List Occurrence} {later first : Occurrence}
    (member : .duplicate later first ∈ duplicates sameClass occurrences) :
    [first, later].Sublist occurrences := by
  obtain ⟨⟨item, index⟩, numbered, found⟩ := List.mem_filterMap.mp member
  obtain ⟨earlier, isEarlier, same⟩ := Option.map_eq_some_iff.mp found
  injection same with sameItem sameEarlier
  subst sameItem sameEarlier
  have atIndex : occurrences[index]? = some item := List.mem_zipIdx_iff_getElem?.mp numbered
  obtain ⟨within, isItem⟩ := List.getElem?_eq_some_iff.mp atIndex
  have front : [earlier].Sublist (occurrences.take index) :=
    List.singleton_sublist.mpr (List.mem_of_find?_eq_some isEarlier)
  have back : [item].Sublist (occurrences.drop index) := by
    rw [List.drop_eq_getElem_cons within, isItem]
    exact (List.nil_sublist _).cons_cons item
  rw [← List.take_append_drop index occurrences]
  exact front.append back

end Occurrence

namespace FilePairing

open Occurrence (whereShared sameClass duplicates unpaired)

/-- What the routed tags have led to.  No tag is lost: each fills a place of a scope or is
reported. -/
structure After (current : FilePairing) (seen : List Occurrence) : Prop where
  localScope : current.localScope.Holds (whereShared false seen)
  sharedScope : current.sharedScope.Holds (whereShared true seen)
  issues : current.issues = duplicates sameClass seen
  counted : (TagCounts.ofScopes current.localScope current.sharedScope).total +
    current.issues.length = seen.length

variable {current : FilePairing} {seen : List Occurrence} {occurrence : Occurrence}

theorem after_nothing : After {} [] :=
  ⟨Scope.holds_empty, SharedScope.holds_empty, rfl, rfl⟩

private theorem After.route_shared (after : current.After seen)
    (shared : occurrence.tag.isShared = true) :
    (current.route occurrence).After (seen ++ [occurrence]) := by
  have other : occurrence.tag.isShared ≠ false := by rw [shared]; decide
  obtain ⟨holds, issue⟩ := after.sharedScope.record occurrence
  rw [Occurrence.first?_whereShared seen shared] at issue
  simp only [route, shared, if_true]
  constructor
  · rw [Occurrence.whereShared_concat_other seen other]
    exact after.localScope
  · rw [Occurrence.whereShared_concat_same seen shared]
    exact holds
  · rw [Occurrence.duplicates_concat, after.issues, issue]
  · have counted := after.counted
    have places := SharedScope.total_record current.localScope current.sharedScope occurrence
    simp only [List.length_append, List.length_singleton]
    omega

private theorem After.route_local (after : current.After seen)
    (unshared : occurrence.tag.isShared = false) :
    (current.route occurrence).After (seen ++ [occurrence]) := by
  have other : occurrence.tag.isShared ≠ true := by rw [unshared]; decide
  obtain ⟨holds, issue⟩ := after.localScope.record occurrence
  rw [Occurrence.first?_whereShared seen unshared] at issue
  simp only [route, unshared, Bool.false_eq_true, if_false]
  constructor
  · rw [Occurrence.whereShared_concat_same seen unshared]
    exact holds
  · rw [Occurrence.whereShared_concat_other seen other]
    exact after.sharedScope
  · rw [Occurrence.duplicates_concat, after.issues, issue]
  · have counted := after.counted
    have places := Scope.total_record current.localScope current.sharedScope occurrence
    simp only [List.length_append, List.length_singleton]
    omega

theorem After.route (after : current.After seen) (occurrence : Occurrence) :
    (current.route occurrence).After (seen ++ [occurrence]) := by
  cases side : occurrence.tag.isShared with
  | true => exact after.route_shared side
  | false => exact after.route_local side

theorem after_routed (occurrences : List Occurrence) :
    (occurrences.foldl FilePairing.route {}).After occurrences := by
  induction occurrences using List.reverseRecOn with
  | nil => exact after_nothing
  | append_singleton seen occurrence ih =>
      rw [List.foldl_append]
      exact ih.route occurrence

theorem issues_ofOccurrences (occurrences : List Occurrence) :
    (ofOccurrences occurrences).issues = Issue.sortByLocation
      (duplicates sameClass occurrences ++ unpaired (whereShared false occurrences)) := by
  have after := after_routed occurrences
  rw [ofOccurrences, after.issues, after.localScope.missing]

theorem mem_duplicates {occurrences : List Occurrence} {later first : Occurrence}
    (member : .duplicate later first ∈ (ofOccurrences occurrences).issues) :
    .duplicate later first ∈ duplicates sameClass occurrences := by
  rw [issues_ofOccurrences] at member
  exact Occurrence.mem_sortByLocation_iff.mp member

theorem mem_missing {occurrences : List Occurrence} {present : Occurrence}
    (member : .missing present ∈ (ofOccurrences occurrences).issues) :
    .missing present ∈ unpaired (whereShared false occurrences) := by
  rw [issues_ofOccurrences] at member
  exact Occurrence.mem_sortByLocation_iff.mp member

theorem mem_of_mem_anchors {occurrences : List Occurrence} {issue : Issue}
    (member : issue ∈ (ofOccurrences occurrences).issues) {occurrence : Occurrence}
    (anchor : occurrence ∈ issue.anchors) : occurrence ∈ occurrences := by
  cases issue with
  | duplicate later first =>
      have both := Occurrence.sublist_of_mem_duplicates (mem_duplicates member)
      rcases List.mem_pair.mp anchor with rfl | rfl
      · exact both.subset (.tail _ (.head _))
      · exact both.subset (.head _)
  | missing present =>
      obtain rfl := List.mem_singleton.mp anchor
      exact List.mem_of_mem_filter (Occurrence.location_mem_of_mem_unpaired (mem_missing member))

private theorem countP_missing (occurrences : List Occurrence) :
    (unpaired occurrences).countP Issue.isDuplicate = 0 := by
  rw [List.countP_eq_zero]
  intro issue member
  rw [Occurrence.isDuplicate_of_mem_unpaired member]
  exact Bool.false_ne_true

private theorem countP_duplicates (sameClass : Occurrence → Occurrence → Bool)
    (occurrences : List Occurrence) :
    (duplicates sameClass occurrences).countP Issue.isDuplicate =
      (duplicates sameClass occurrences).length := by
  rw [List.countP_eq_length]
  intro issue member
  exact Occurrence.isDuplicate_of_mem_duplicates member

/-- Every tag of a file is kept or reported.  The scopes hold the first tag of each class and
nothing else, every later tag is a duplicate of the first of its class, and the
identifiers of one kind only among the tags that are not shared are reported once each.  What is
reported is sorted by file, line and column, and issues at one place stay in this order. -/
theorem ofOccurrences_first_seen (occurrences : List Occurrence) :
    (∀ kind id, (ofOccurrences occurrences).localScope.first? kind id =
      Occurrence.first? (whereShared false occurrences) kind id) ∧
    (ofOccurrences occurrences).localScope.keys =
      Occurrence.ids (whereShared false occurrences) ∧
    (∀ kind id, ((ofOccurrences occurrences).sharedScope.get kind).get? id =
      Occurrence.first? (whereShared true occurrences) kind id) ∧
    (ofOccurrences occurrences).issues =
      (duplicates sameClass occurrences ++ unpaired (whereShared false occurrences)).mergeSort
        (fun left right => decide (left.location.NotAfter right.location)) ∧
    occurrences.length =
      (TagCounts.ofScopes (ofOccurrences occurrences).localScope
        (ofOccurrences occurrences).sharedScope).total +
      (ofOccurrences occurrences).issues.countP Issue.isDuplicate := by
  have after := after_routed occurrences
  have issues : (ofOccurrences occurrences).issues =
      (duplicates sameClass occurrences ++ unpaired (whereShared false occurrences)).mergeSort
        (fun left right => decide (left.location.NotAfter right.location)) := by
    rw [ofOccurrences, Issue.sortByLocation_eq, after.issues, after.localScope.missing]
  refine ⟨after.localScope.first, TextTable.keys_eq_ascending after.localScope.keys,
    after.sharedScope, issues, ?_⟩
  rw [issues, (List.mergeSort_perm _ _).countP_eq, List.countP_append, countP_missing,
    countP_duplicates, Nat.add_zero, ← after.issues]
  exact after.counted.symm

end FilePairing
end Traceability
