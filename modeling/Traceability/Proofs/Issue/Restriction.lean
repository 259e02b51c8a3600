import Traceability.Proofs.Issue.ProjectPairing

/-!
Identifiers do not interfere with each other.

Tags of different identifiers are never paired, so leaving out all tags but those of one
identifier changes neither what the scopes keep for it nor what is reported about it.  In the
same way the tags that are shared between files do not matter for those of one file.  The
reported issues keep their order, because a stable sort does not notice what was left out.
-/

namespace Traceability

namespace TextTable

def only {α : Type} (name : Text) (table : TextTable α) : TextTable α where
  entries := table.entries.filter fun entry => entry.1 == name
  ascending := table.ascending.filter _

end TextTable

def SharedScope.only (id : Text) (scope : SharedScope) : SharedScope :=
  { require := scope.require.only id, satisfied := scope.satisfied.only id }

/-! ### Duplicates and unpaired tags -/

namespace Occurrence

def withId (id : Text) (occurrences : List Occurrence) : List Occurrence :=
  occurrences.filter fun occurrence => occurrence.id == id

variable {sameClass : Occurrence → Occurrence → Bool} {occurrences : List Occurrence} {id : Text}

theorem duplicates_filter {keep : Occurrence → Bool}
    (alike : ∀ earlier later, sameClass earlier later = true → keep earlier = keep later)
    (occurrences : List Occurrence) :
    duplicates sameClass (occurrences.filter keep) =
      (duplicates sameClass occurrences).filter fun issue => keep issue.location := by
  induction occurrences using List.reverseRecOn with
  | nil => rfl
  | append_singleton seen occurrence ih =>
      rw [duplicates_concat, List.filter_append, List.filter_append, ← ih]
      cases kept : keep occurrence with
      | true =>
          have found : ((seen.filter keep).find? fun earlier => sameClass earlier occurrence) =
              seen.find? fun earlier => sameClass earlier occurrence := by
            rw [List.find?_filter]
            congr 1
            funext earlier
            cases same : sameClass earlier occurrence with
            | true => simp [alike earlier occurrence same, kept]
            | false => simp
          rw [List.filter_singleton, kept, cond_true, duplicates_concat, found]
          congr 1
          cases seen.find? fun earlier => sameClass earlier occurrence with
          | none => rfl
          | some first => simp [Issue.location, kept]
      | false =>
          rw [List.filter_singleton, kept, cond_false, List.append_nil]
          symm
          apply List.append_right_eq_self.mpr
          cases seen.find? fun earlier => sameClass earlier occurrence with
          | none => rfl
          | some first => simp [Issue.location, kept]

theorem first?_withId (occurrences : List Occurrence) (kind : TagKind) (id : Text) :
    first? (withId id occurrences) kind id = first? occurrences kind id := by
  rw [first?, withId, List.find?_filter, first?]
  congr 1
  funext occurrence
  rw [Bool.decide_and, Bool.decide_coe, Bool.decide_coe]
  cases occurrence.id == id <;> simp

theorem ids_withId (occurrences : List Occurrence) (id : Text) :
    ids (withId id occurrences) = (ids occurrences).filter (· == id) := by
  symm
  apply Text.eq_ascending ((Text.ascending_pairwise _).filter _)
  intro other
  simp only [List.mem_filter, Text.mem_ascending, List.mem_map, withId, beq_iff_eq]
  constructor
  · rintro ⟨⟨occurrence, member, rfl⟩, same⟩
    exact ⟨occurrence, ⟨member, same⟩, rfl⟩
  · rintro ⟨occurrence, ⟨member, same⟩, rfl⟩
    exact ⟨⟨occurrence, member, rfl⟩, same⟩

private theorem id_of_unpairedAt {issue : Issue}
    (found : unpairedAt occurrences id = some issue) : issue.location.id = id := by
  obtain ⟨kind, first⟩ := first?_of_unpairedAt found
  exact (of_first?_eq_some first).2.2

theorem unpaired_withId (occurrences : List Occurrence) (id : Text) :
    unpaired (withId id occurrences) =
      (unpaired occurrences).filter fun issue => issue.location.id == id := by
  have same : unpairedAt (withId id occurrences) id = unpairedAt occurrences id := by
    simp only [unpairedAt, first?_withId]
  rw [unpaired_eq, ids_withId, List.filterMap_filter, unpaired_eq, List.filter_filterMap]
  apply List.filterMap_congr
  intro other _
  by_cases asked : other = id
  · subst asked
    rw [beq_self_eq_true, if_pos rfl, same]
    cases found : unpairedAt occurrences other with
    | none => rfl
    | some issue => simp [Option.filter, id_of_unpairedAt found]
  · rw [beq_false_of_ne asked, if_neg Bool.false_ne_true]
    cases found : unpairedAt occurrences other with
    | none => rfl
    | some issue => simp [Option.filter, id_of_unpairedAt found, asked]

theorem whereShared_withId (shared : Bool) (id : Text) (occurrences : List Occurrence) :
    whereShared shared (withId id occurrences) = withId id (whereShared shared occurrences) := by
  simp only [whereShared, withId, List.filter_filter, Bool.and_comm]

theorem whereShared_whereShared (shared : Bool) (occurrences : List Occurrence) :
    whereShared shared (whereShared shared occurrences) = whereShared shared occurrences := by
  simp only [whereShared, List.filter_filter, Bool.and_self]

theorem id_eq_of_sameName {left right : Occurrence} (same : sameName left right = true) :
    left.id = right.id := by
  simp only [sameName, Bool.and_eq_true, beq_iff_eq] at same
  exact same.2

end Occurrence

theorem TagPair.eq_of_get?_eq {pair other : TagPair}
    (same : ∀ kind, pair.get? kind = other.get? kind) : pair = other := by
  have require := same .require
  have satisfied := same .satisfied
  cases pair
  cases other
  cases require
  cases satisfied
  rfl

namespace Scope

variable {scope other : Scope} {occurrences others : List Occurrence}

theorem Holds.get?_eq (holds : scope.Holds occurrences) (otherHolds : other.Holds others)
    {id : Text}
    (same : ∀ kind, Occurrence.first? occurrences kind id = Occurrence.first? others kind id) :
    scope.get? id = other.get? id := by
  have present : (scope.get? id).isSome = (other.get? id).isSome := by
    rw [Bool.eq_iff_iff, holds.keys, otherHolds.keys, Occurrence.mem_map_id_iff,
      Occurrence.mem_map_id_iff]
    simp only [same]
  have kept : ∀ kind, scope.first? kind id = other.first? kind id := by
    intro kind
    rw [holds.first, otherHolds.first, same]
  simp only [first?_eq_get?] at kept
  cases found : scope.get? id with
  | none =>
      rw [found, Option.isSome_none] at present
      exact (Option.isNone_iff_eq_none.mp (Option.isSome_eq_false_iff.mp present.symm)).symm
  | some pair =>
      rw [found, Option.isSome_some] at present
      obtain ⟨otherPair, otherFound⟩ := Option.isSome_iff_exists.mp present.symm
      simp only [found, otherFound, Option.getD_some] at kept
      rw [otherFound, TagPair.eq_of_get?_eq kept]

theorem Holds.eq (holds : scope.Holds occurrences) (otherHolds : other.Holds occurrences) :
    scope = other :=
  TextTable.eq_of_get?_eq fun _ => holds.get?_eq otherHolds fun _ => rfl

end Scope

/-- Issues may be left out before or after they are sorted. -/
theorem Issue.filter_sortByLocation (keep : Issue → Bool) (issues : List Issue) :
    (sortByLocation issues).filter keep = sortByLocation (issues.filter keep) :=
  filter_stableSort (fun _ _ _ => Std.TransCmp.isLE_trans) (isLE_total compareLocation) keep issues

/-! ### One file -/

namespace FilePairing

open Occurrence (whereShared withId sameClass duplicates unpaired)

theorem localScope_withId (id : Text) (occurrences : List Occurrence) :
    (ofOccurrences (withId id occurrences)).localScope.get? id =
      (ofOccurrences occurrences).localScope.get? id := by
  have holds := (after_routed (withId id occurrences)).localScope
  rw [Occurrence.whereShared_withId] at holds
  apply holds.get?_eq (after_routed occurrences).localScope
  intro kind
  exact Occurrence.first?_withId _ kind id

theorem sharedScope_withId (id : Text) (occurrences : List Occurrence) (kind : TagKind) :
    ((ofOccurrences (withId id occurrences)).sharedScope.get kind).get? id =
      ((ofOccurrences occurrences).sharedScope.get kind).get? id := by
  have holds := (after_routed (withId id occurrences)).sharedScope kind id
  rw [Occurrence.whereShared_withId, Occurrence.first?_withId] at holds
  exact holds.trans ((after_routed occurrences).sharedScope kind id).symm

theorem issues_withId (id : Text) (occurrences : List Occurrence) :
    (ofOccurrences (withId id occurrences)).issues =
      (ofOccurrences occurrences).issues.filter fun issue => issue.location.id == id := by
  have duplicate : duplicates sameClass (withId id occurrences) =
      (duplicates sameClass occurrences).filter fun issue => issue.location.id == id := by
    apply Occurrence.duplicates_filter
    intro earlier later same
    rw [Occurrence.id_eq_of_sameName (Bool.and_eq_true_iff.mp same).2]
  rw [issues_ofOccurrences, issues_ofOccurrences, Issue.filter_sortByLocation,
    List.filter_append, duplicate, Occurrence.whereShared_withId, Occurrence.unpaired_withId]

theorem localScope_unshared (occurrences : List Occurrence) :
    (ofOccurrences (whereShared false occurrences)).localScope =
      (ofOccurrences occurrences).localScope := by
  have holds := (after_routed (whereShared false occurrences)).localScope
  rw [Occurrence.whereShared_whereShared] at holds
  exact holds.eq (after_routed occurrences).localScope

theorem issues_unshared (occurrences : List Occurrence) :
    (ofOccurrences (whereShared false occurrences)).issues =
      (ofOccurrences occurrences).issues.filter fun issue =>
        issue.location.tag.isShared == false := by
  have duplicate : duplicates sameClass (whereShared false occurrences) =
      (duplicates sameClass occurrences).filter fun issue =>
        issue.location.tag.isShared == false := by
    apply Occurrence.duplicates_filter
    intro earlier later same
    rw [eq_of_beq (Bool.and_eq_true_iff.mp same).1]
  have missing : (unpaired (whereShared false occurrences)).filter
      (fun issue => issue.location.tag.isShared == false) =
        unpaired (whereShared false occurrences) := by
    rw [List.filter_eq_self]
    intro issue member
    exact (List.mem_filter.mp (Occurrence.location_mem_of_mem_unpaired member)).2
  rw [issues_ofOccurrences, issues_ofOccurrences, Issue.filter_sortByLocation,
    List.filter_append, duplicate, missing, Occurrence.whereShared_whereShared]

end FilePairing

/-! ### All files together -/

namespace TextTable

theorem values_only {α : Type} {table : TextTable α} (keyOf : α → Text)
    (named : ∀ name value, table.get? name = some value → keyOf value = name) (name : Text) :
    (table.only name).values = table.values.filter fun value => keyOf value == name := by
  rw [values, values, only, List.filter_map]
  congr 1
  apply List.filter_congr
  intro entry member
  rw [Function.comp_apply, named entry.1 entry.2 (get?_of_mem member)]

end TextTable

theorem SharedScope.Holds.occurrences_only {scope : SharedScope} {occurrences : List Occurrence}
    (holds : scope.Holds occurrences) (id : Text) :
    (scope.only id).occurrences = Occurrence.withId id scope.occurrences := by
  have named (kind : TagKind) (name : Text) (occurrence : Occurrence)
      (found : (scope.get kind).get? name = some occurrence) : occurrence.id = name := by
    rw [holds kind name] at found
    exact (Occurrence.of_first?_eq_some found).2.2
  rw [SharedScope.occurrences, SharedScope.occurrences, Occurrence.withId, List.filter_append]
  congr 1
  · exact TextTable.values_only Occurrence.id (named .require) id
  · exact TextTable.values_only Occurrence.id (named .satisfied) id

namespace ProjectPairing

open Occurrence (withId sameName duplicates unpaired)

/-- Pairs the tags in the order in which they are given. -/
def ofOccurrences (occurrences : List Occurrence) : ProjectPairing :=
  let routed := occurrences.foldl ProjectPairing.route {}
  { routed with issues := Issue.sortByLocation (routed.issues ++ routed.scope.missing) }

theorem issues_ofOccurrences (occurrences : List Occurrence) :
    (ofOccurrences occurrences).issues =
      Issue.sortByLocation (duplicates sameName occurrences ++ unpaired occurrences) := by
  have after := after_routed occurrences
  rw [ofOccurrences, after.issues, after.scope.missing]

theorem scope_withId (id : Text) (occurrences : List Occurrence) :
    (ofOccurrences (withId id occurrences)).scope.get? id =
      (ofOccurrences occurrences).scope.get? id := by
  apply (after_routed (withId id occurrences)).scope.get?_eq (after_routed occurrences).scope
  intro kind
  exact Occurrence.first?_withId _ kind id

theorem issues_withId (id : Text) (occurrences : List Occurrence) :
    (ofOccurrences (withId id occurrences)).issues =
      (ofOccurrences occurrences).issues.filter fun issue => issue.location.id == id := by
  have duplicate : duplicates sameName (withId id occurrences) =
      (duplicates sameName occurrences).filter fun issue => issue.location.id == id := by
    apply Occurrence.duplicates_filter
    intro earlier later same
    rw [Occurrence.id_eq_of_sameName same]
  rw [issues_ofOccurrences, issues_ofOccurrences, Issue.filter_sortByLocation,
    List.filter_append, duplicate, Occurrence.unpaired_withId]

theorem ofFiles_eq_ofOccurrences (files : List (Text × List Occurrence)) :
    ofFiles files = ofOccurrences (passedOn files) := by
  rw [ofFiles, ofScopes, sortByName_map, List.flatMap_map]
  rfl

/-- What the files pass on for one identifier. -/
def ofFilesOnly (id : Text) (files : List (Text × List Occurrence)) : ProjectPairing :=
  .ofScopes (files.map fun file =>
    (file.1, (FilePairing.ofOccurrences file.2).sharedScope.only id))

theorem ofFilesOnly_eq (id : Text) (files : List (Text × List Occurrence)) :
    ofFilesOnly id files = ofOccurrences (withId id (passedOn files)) := by
  have restricted : (inOrder files).flatMap (fun file =>
        ((FilePairing.ofOccurrences file.2).sharedScope.only id).occurrences) =
      withId id (passedOn files) := by
    rw [passedOn, withId, List.filter_flatMap]
    congr 1
    funext file
    exact (FilePairing.after_routed file.2).sharedScope.occurrences_only id
  rw [← restricted, ofFilesOnly, ofScopes, sortByName_map, List.flatMap_map]
  rfl

end ProjectPairing

/-! ### Independence -/

/-- Identifiers do not interfere.  Tags of other identifiers change neither what a file or all
files together keep for one nor what is reported about it and in which order.  The tags
that are shared between files do not matter for what a file keeps and reports about the others. -/
theorem Occurrence.identifiers_independent (id : Text) :
    (∀ occurrences : List Occurrence,
      (FilePairing.ofOccurrences (withId id occurrences)).localScope.get? id =
        (FilePairing.ofOccurrences occurrences).localScope.get? id ∧
      (∀ kind, ((FilePairing.ofOccurrences (withId id occurrences)).sharedScope.get kind).get? id =
        ((FilePairing.ofOccurrences occurrences).sharedScope.get kind).get? id) ∧
      (FilePairing.ofOccurrences (withId id occurrences)).issues =
        (FilePairing.ofOccurrences occurrences).issues.filter (·.location.id == id)) ∧
    (∀ files : List (Text × List Occurrence),
      (ProjectPairing.ofFilesOnly id files).scope.get? id =
        (ProjectPairing.ofFiles files).scope.get? id ∧
      (ProjectPairing.ofFilesOnly id files).issues =
        (ProjectPairing.ofFiles files).issues.filter (·.location.id == id)) ∧
    (∀ occurrences : List Occurrence,
      (FilePairing.ofOccurrences (whereShared false occurrences)).localScope =
        (FilePairing.ofOccurrences occurrences).localScope ∧
      (FilePairing.ofOccurrences (whereShared false occurrences)).issues =
        (FilePairing.ofOccurrences occurrences).issues.filter (!·.location.tag.isShared)) := by
  refine ⟨?_, ?_, ?_⟩
  · intro occurrences
    exact ⟨FilePairing.localScope_withId id occurrences,
      FilePairing.sharedScope_withId id occurrences, FilePairing.issues_withId id occurrences⟩
  · intro files
    rw [ProjectPairing.ofFilesOnly_eq, ProjectPairing.ofFiles_eq_ofOccurrences]
    exact ⟨ProjectPairing.scope_withId id _, ProjectPairing.issues_withId id _⟩
  · intro occurrences
    refine ⟨FilePairing.localScope_unshared occurrences, ?_⟩
    rw [FilePairing.issues_unshared]
    simp only [beq_false]

end Traceability
