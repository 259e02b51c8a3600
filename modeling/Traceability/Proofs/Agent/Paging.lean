import Traceability.Agent.Tools
import Traceability.Proofs.Project.FileOrder

/-!
Reading the issues of a project page by page.

A caller asks for pages from the start, each time as many issues further as a page holds, and
stops at the page that says that there are no more.  The caller then has every issue
once and in order (`walk_lists_all_issues`): no page overlaps the one before it, none is left
out between them, and the walk does not stop early.
-/

namespace Traceability

theorem Json.nat?_ofNat (number : Nat) : (Json.ofNat number).nat? = some number := by
  have digits : (Nat.toDigits 10 number).all (fun c => '0' ≤ c && c ≤ '9') = true := by
    rw [List.all_eq_true]
    intro c member
    exact Nat.isDigit_of_mem_toDigits (by decide) (by decide) member
  rw [ofNat, nat?, Text.ofNat, if_pos digits, ← Nat.ofDigitChars_eq_foldl,
    Nat.ofDigitChars_toDigits (by decide) (by decide)]

namespace Agent

/-! ### Requests -/

namespace IssueQuery

/-- The parameters of a request, each under its name. -/
def toJson (query : IssueQuery) : Json :=
  .ofMembers [("projectRootPath", .ofText query.rootPath),
    ("kind", query.kind.elim .null fun kind => .ofText kind.name),
    ("limit", query.limit.elim .null .ofNat), ("offset", query.offset.elim .null .ofNat)]

/-- A limit and an offset are numbers of 32 bits. -/
structure FitsWord (query : IssueQuery) : Prop where
  limit : ∀ limit ∈ query.limit, limit < UInt32.size
  offset : ∀ offset ∈ query.offset, offset < UInt32.size

theorem nullable?_word32? {number : Option Nat} (fits : ∀ value ∈ number, value < UInt32.size) :
    nullable? word32? (number.elim .null .ofNat) = some number := by
  cases number with
  | none => rfl
  | some value =>
      have within := decide_eq_true (fits value rfl)
      change (word32? (.ofNat value)).map some = _
      rw [word32?, Json.nat?_ofNat, Option.filter_some, if_pos within, Option.map_some]

theorem nullable?_issueKind? (kind : Option IssueKind) :
    nullable? issueKind? (kind.elim .null fun kind => .ofText kind.name) = some kind := by
  cases kind with
  | none => rfl
  | some kind => cases kind <;> rfl

theorem ofJson?_toJson {query : IssueQuery} (fits : query.FitsWord) :
    ofJson? query.toJson = some query := by
  have read : ofJson? query.toJson =
      (nullable? issueKind? (query.kind.elim .null fun kind => .ofText kind.name)).bind
        fun kind => (nullable? word32? (query.limit.elim .null .ofNat)).bind
          fun limit => (nullable? word32? (query.offset.elim .null .ofNat)).bind
            fun offset => some { rootPath := query.rootPath, kind, limit, offset } := rfl
  rw [read, nullable?_issueKind?, nullable?_word32? fits.limit, nullable?_word32? fits.offset]
  rfl

end IssueQuery

/-! ### One page -/

section

variable (issues : List Issue) (offset limit : Nat)

theorem hasMore_pageOf_iff :
    (pageOf issues offset limit).hasMore = true ↔ offset + limit < issues.length := by
  simp only [pageOf, decide_eq_true_eq, List.length_take, List.length_drop]
  omega

theorem issues_pageOf_append :
    (pageOf issues offset limit).issues ++ issues.drop (offset + limit) = issues.drop offset := by
  rw [← List.drop_drop]
  exact List.take_append_drop limit (issues.drop offset)

end

/-! ### A walk over all pages -/

/-- The pages that a caller gets who starts at an offset and goes on by the limit until a page
says that there are no more. -/
inductive Walk (ask : Nat → Except ToolError IssuePage) (limit : Nat) :
    Nat → List IssuePage → Prop
  | last {offset : Nat} {page : IssuePage} (answer : ask offset = .ok page)
      (done : page.hasMore = false) : Walk ask limit offset [page]
  | more {offset : Nat} {page : IssuePage} {pages : List IssuePage}
      (answer : ask offset = .ok page) (again : page.hasMore = true)
      (later : Walk ask limit (offset + limit) pages) : Walk ask limit offset (page :: pages)

namespace Walk

variable {issues : List Issue} {limit : Nat} {ask : Nat → Except ToolError IssuePage}
  (answers : ∀ offset, ask offset = .ok (pageOf issues offset limit))

include answers

private theorem page_eq {offset : Nat} {page : IssuePage} (answer : ask offset = .ok page) :
    page = pageOf issues offset limit :=
  Except.ok.inj (answer.symm.trans (answers offset))

theorem exists_pages (positive : 0 < limit) (offset : Nat) :
    ∃ pages, Walk ask limit offset pages := by
  induction unread : issues.length - offset using Nat.strongRecOn generalizing offset with
  | ind count ih =>
      cases more : (pageOf issues offset limit).hasMore with
      | false => exact ⟨_, .last (answers offset) more⟩
      | true =>
          have inside := (hasMore_pageOf_iff issues offset limit).mp more
          obtain ⟨pages, later⟩ := ih (issues.length - (offset + limit)) (by omega)
            (offset + limit) rfl
          exact ⟨_, .more (answers offset) more later⟩

theorem flatMap_issues {offset : Nat} {pages : List IssuePage}
    (walk : Walk ask limit offset pages) : pages.flatMap (·.issues) = issues.drop offset := by
  induction walk with
  | @last offset page answer done =>
      rw [page_eq answers answer] at done ⊢
      have nothing : issues.length ≤ offset + limit := by
        rw [← Nat.not_lt, ← hasMore_pageOf_iff, done]
        exact Bool.false_ne_true
      have whole := issues_pageOf_append issues offset limit
      rw [List.drop_of_length_le nothing, List.append_nil] at whole
      rw [List.flatMap_singleton, whole]
  | @more offset page pages answer again later ih =>
      rw [page_eq answers answer, List.flatMap_cons, ih, issues_pageOf_append]

/-- Every page tells the number of all issues, and only the first one may start outside them. -/
theorem of_mem {offset : Nat} {pages : List IssuePage} (walk : Walk ask limit offset pages)
    {page : IssuePage} (member : page ∈ pages) :
    page.total = issues.length ∧ (page.offset = offset ∨ page.offset < issues.length) := by
  induction walk with
  | @last offset first answer done =>
      rw [List.mem_singleton.mp member, page_eq answers answer]
      exact ⟨rfl, .inl rfl⟩
  | @more offset first pages answer again later ih =>
      rcases List.mem_cons.mp member with rfl | inLater
      · rw [page_eq answers answer]
        exact ⟨rfl, .inl rfl⟩
      · rw [page_eq answers answer, hasMore_pageOf_iff] at again
        obtain ⟨total, start⟩ := ih inLater
        exact ⟨total, .inr (by omega)⟩

end Walk

/-! ### The issues of a project -/

/-- The issues of a project that a query lists: all of them or those of a kind, by file, line,
column and sentence. -/
def listedIssues (project : ProjectCheck) (kind : Option IssueKind) : List Issue :=
  let sorted := project.issues.mergeSort fun left right => decide (left.NotAfter right)
  match kind with
  | none => sorted
  | some kind => sorted.filter fun issue => issue.kind = kind

theorem ofKind_sortForReport (project : ProjectCheck) (kind : Option IssueKind) :
    ofKind kind (Issue.sortForReport project.issues) = listedIssues project kind := by
  rw [ofKind, Issue.sortForReport_eq]
  cases kind with
  | none => exact List.filter_eq_self.mpr fun _ _ => rfl
  | some kind => rfl

theorem scanIssues_eq {tree : FileTree} {rootPath : Text} {project : ProjectCheck}
    (checked : checkAt tree rootPath = .ok project) (kind : Option IssueKind)
    (limit offset : Option Nat) :
    scanIssues tree { rootPath, kind, limit, offset } =
      .ok (pageOf (listedIssues project kind) (offset.getD 0) (pageLimit limit)) := by
  rw [← ofKind_sortForReport, scanIssues, checked]
  rfl

/-- The page that a query with a limit and an offset is answered with. -/
def askedPage (tree : FileTree) (rootPath : Text) (kind : Option IssueKind) (limit offset : Nat) :
    Except ToolError IssuePage :=
  scanIssues tree { rootPath, kind, limit := some limit, offset := some offset }

theorem issuesTool_toJson {tree : FileTree} {query : IssueQuery} (fits : query.FitsWord) :
    issuesTool tree query.toJson = (scanIssues tree query).map IssuePage.toJson := by
  rw [issuesTool, IssueQuery.ofJson?_toJson fits]
  change (scanIssues tree query).bind _ = _
  cases scanIssues tree query <;> rfl

/-- A walk with a limit of at least one ends, and its pages together are the listed issues.  On
whatever page, more is announced exactly if the list goes on behind it.  The pages are what
the tool answers as long as the limit and the offset are numbers of 32 bits. -/
theorem walk_lists_all_issues {tree : FileTree} {rootPath : Text} {project : ProjectCheck}
    (checked : checkAt tree rootPath = .ok project) (kind : Option IssueKind) :
    (∀ limit, 0 < limit →
      (∃ pages, Walk (askedPage tree rootPath kind limit) (min limit 100) 0 pages) ∧
      ∀ pages, Walk (askedPage tree rootPath kind limit) (min limit 100) 0 pages →
        pages.flatMap (·.issues) = listedIssues project kind ∧
        ∀ page ∈ pages, page.total = (listedIssues project kind).length ∧
          (page.offset = 0 ∨ page.offset < page.total)) ∧
    (∀ limit offset, ∃ page behind,
      scanIssues tree { rootPath, kind, limit, offset } = .ok page ∧
      listedIssues project kind =
        (listedIssues project kind).take (offset.getD 0) ++ page.issues ++ behind ∧
      (page.hasMore = true ↔ behind ≠ [])) ∧
    ∀ limit offset, limit < UInt32.size → offset < UInt32.size →
      issuesTool tree (IssueQuery.toJson
          { rootPath, kind, limit := some limit, offset := some offset }) =
        (askedPage tree rootPath kind limit offset).map IssuePage.toJson := by
  refine ⟨?_, ?_, ?_⟩
  · intro limit positive
    have answers : ∀ offset, askedPage tree rootPath kind limit offset =
        .ok (pageOf (listedIssues project kind) offset (min limit 100)) := by
      intro offset
      exact scanIssues_eq checked kind (some limit) (some offset)
    refine ⟨Walk.exists_pages answers (Nat.lt_min.mpr ⟨positive, by decide⟩) 0, ?_⟩
    intro pages walk
    refine ⟨walk.flatMap_issues answers, ?_⟩
    intro page member
    obtain ⟨total, start⟩ := walk.of_mem answers member
    rw [total]
    exact ⟨rfl, start⟩
  · intro limit offset
    refine ⟨_, (listedIssues project kind).drop (offset.getD 0 + pageLimit limit),
      scanIssues_eq checked kind limit offset, ?_, ?_⟩
    · rw [List.append_assoc, issues_pageOf_append, List.take_append_drop]
    · rw [hasMore_pageOf_iff, ne_eq, List.drop_eq_nil_iff, Nat.not_le]
  · intro limit offset limitFits offsetFits
    exact issuesTool_toJson ⟨fun _ same => Option.some.inj same ▸ limitFits,
      fun _ same => Option.some.inj same ▸ offsetFits⟩

def fourProblems : FileTree :=
  { root := .directory [("a.rs".toList, .file (.text
      "// REQUIRE: a\n// REQUIRE: b\n// REQUIRE: a\n// SATISFIED: c".toList))] }

theorem walk_lists_all_issues_fourProblems : ∃ project,
    checkAt fourProblems "a.rs".toList = .ok project ∧ project.issues.length = 4 ∧ 0 < 3 ∧
    (∃ pages, Walk (askedPage fourProblems "a.rs".toList none 3) (min 3 100) 0 pages) ∧
    ∀ pages, Walk (askedPage fourProblems "a.rs".toList none 3) (min 3 100) 0 pages →
      pages.flatMap (·.issues) = listedIssues project none ∧
      ∀ page ∈ pages, page.total = (listedIssues project none).length ∧
        (page.offset = 0 ∨ page.offset < page.total) := by
  have counted : (checkAt fourProblems "a.rs".toList).map (·.issues.length) = .ok 4 := by
    decide +kernel
  obtain ⟨project, checked, four⟩ := exists_of_map_eq_ok counted
  have positive : 0 < 3 := by decide
  exact ⟨project, checked, four, positive,
    (walk_lists_all_issues checked none).1 3 positive⟩

end Agent
end Traceability
