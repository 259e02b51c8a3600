import Traceability.Proofs.StableSort
import Traceability.Report.Issues

/-!
Colours do not change what a report says.

Stripping removes each escape sequence, up to the `m` that ends it.  It reads the text character
by character, so what it does with a piece is stated for any text behind the piece: it is again
outside of every sequence there (`Style.Decorates`).  From the pieces of a line this is carried to
the lines of an issue and to the whole report (`Report.strip_ofIssues`).
-/

namespace Traceability

/-- Nothing in the text begins an escape sequence. -/
def Text.Unescaped (text : Text) : Prop :=
  '\x1b' ∉ text

instance (text : Text) : Decidable text.Unescaped :=
  inferInstanceAs (Decidable ('\x1b' ∉ text))

namespace Style

open Text (Unescaped)

/-- The text without escape sequences, where `inside` says that it begins within one. -/
def stripFrom : (inside : Bool) → Text → Text
  | _, [] => []
  | true, c :: rest => stripFrom (c != 'm') rest
  | false, c :: rest => if c = '\x1b' then stripFrom true rest else c :: stripFrom false rest

def strip (text : Text) : Text :=
  stripFrom false text

/-- Stripping turns the coloured piece into the plain one, whatever follows. -/
def Decorates (coloured plain : Text) : Prop :=
  ∀ rest, strip (coloured ++ rest) = plain ++ strip rest

namespace Decorates

variable {coloured plain otherColoured otherPlain : Text}

theorem strip_eq (decorates : Decorates coloured plain) : strip coloured = plain := by
  have alone := decorates []
  rwa [List.append_nil, show strip [] = [] from rfl, List.append_nil] at alone

theorem append (first : Decorates coloured plain) (second : Decorates otherColoured otherPlain) :
    Decorates (coloured ++ otherColoured) (plain ++ otherPlain) := by
  intro rest
  rw [List.append_assoc, first, second, List.append_assoc]

theorem cons (decorates : Decorates coloured plain) (c : Char) (other : c ≠ '\x1b') :
    Decorates (c :: coloured) (c :: plain) := by
  intro rest
  have kept : strip (c :: (coloured ++ rest)) = c :: strip (coloured ++ rest) := if_neg other
  rw [List.cons_append, kept, decorates, List.cons_append]

theorem self (text : Text) (unescaped : Unescaped text) : Decorates text text := by
  induction text with
  | nil => exact fun _ => rfl
  | cons c text ih =>
      have other := List.ne_of_not_mem_cons unescaped
      have later := ih (List.not_mem_of_not_mem_cons unescaped)
      exact later.cons c other.symm

theorem append_text (decorates : Decorates coloured plain) (text : Text)
    (unescaped : Unescaped text) : Decorates (coloured ++ text) (plain ++ text) :=
  decorates.append (self text unescaped)

theorem endLine (decorates : Decorates coloured plain) :
    Decorates (coloured ++ ['\n']) (plain ++ ['\n']) :=
  decorates.append_text ['\n'] (by decide)

theorem space (decorates : Decorates coloured plain) :
    Decorates (' ' :: coloured) (' ' :: plain) :=
  decorates.cons ' ' (by decide)

theorem flatMap {α : Type} {items : List α} {coloured plain : α → Text}
    (each : ∀ item ∈ items, Decorates (coloured item) (plain item)) :
    Decorates (items.flatMap coloured) (items.flatMap plain) := by
  induction items with
  | nil => exact fun _ => rfl
  | cons item items ih =>
      have others := ih fun item member => each item (.tail _ member)
      exact (each item (.head _)).append others

end Decorates

/-! ### Escape sequences -/

theorem stripFrom_codes {codes : Text} (unended : 'm' ∉ codes) (rest : Text) :
    stripFrom true (codes ++ 'm' :: rest) = strip rest := by
  induction codes with
  | nil => rfl
  | cons c codes ih =>
      have stays : (c != 'm') = true := bne_iff_ne.mpr (List.ne_of_not_mem_cons unended).symm
      rw [List.cons_append, stripFrom, stays]
      exact ih (List.not_mem_of_not_mem_cons unended)

theorem decorates_escape {codes : List Text} (unended : 'm' ∉ Text.join [';'] codes) :
    Decorates (escape codes) [] := by
  intro rest
  have inside : '[' :: Text.join [';'] codes ++ ['m'] ++ rest =
      ('[' :: Text.join [';'] codes) ++ 'm' :: rest := List.append_assoc _ _ _
  have bracket : 'm' ∉ '[' :: Text.join [';'] codes := by
    simpa using unended
  exact (congrArg (stripFrom true) inside).trans (stripFrom_codes bracket rest)

theorem not_mem_codes (style : Style) : 'm' ∉ Text.join [';'] style.codes := by
  obtain ⟨bold, dimmed, colour⟩ := style
  cases colour with
  | none => cases bold <;> cases dimmed <;> decide
  | some colour => cases colour <;> cases bold <;> cases dimmed <;> decide

theorem restart_of_unescaped (start : Text) {text : Text} (unescaped : Unescaped text) :
    restart start text = text := by
  induction text with
  | nil => rfl
  | cons c text ih =>
      have other := List.ne_of_not_mem_cons unescaped
      rw [restart, ih (List.not_mem_of_not_mem_cons unescaped)]
      exact fun _ same => absurd same.symm other

theorem decorates_paint (style : Style) (text : Text) (unescaped : Unescaped text) :
    Decorates (paint .coloured style text) (paint .plain style text) := by
  have start := decorates_escape (not_mem_codes style)
  have stop : Decorates reset [] := decorates_escape (by decide)
  have painted := (start.append_text text unescaped).append stop
  rw [List.nil_append, List.append_nil] at painted
  have wrapped : paint .coloured style text = escape style.codes ++ text ++ reset := by
    rw [paint, restart_of_unescaped _ unescaped]
  rw [wrapped]
  exact painted

end Style

/-! ### Texts without escape sequences -/

namespace Text

@[simp] theorem unescaped_nil : Unescaped [] :=
  List.not_mem_nil

@[simp] theorem unescaped_cons {c : Char} {rest : Text} :
    Unescaped (c :: rest) ↔ c ≠ '\x1b' ∧ Unescaped rest := by
  rw [Unescaped, List.mem_cons, not_or, ne_comm, Unescaped]

@[simp] theorem unescaped_append {left right : Text} :
    Unescaped (left ++ right) ↔ Unescaped left ∧ Unescaped right := by
  rw [Unescaped, List.mem_append, not_or, Unescaped, Unescaped]

@[simp] theorem unescaped_replicate_space (count : Nat) :
    Unescaped (List.replicate count ' ') := by
  intro member
  exact absurd (List.eq_of_mem_replicate member) (by decide)

@[simp] theorem unescaped_ofNat (number : Nat) : Unescaped (ofNat number) := by
  intro member
  cases Nat.isDigit_of_mem_toDigits (by decide) (by decide) member

end Text

@[simp] theorem TagKind.unescaped_keyword (kind : TagKind) : kind.keyword.Unescaped := by
  cases kind <;> decide

@[simp] theorem Severity.unescaped_name (severity : Severity) : severity.name.Unescaped := by
  cases severity <;> decide

@[simp] theorem IssueKind.unescaped_name (kind : IssueKind) : kind.name.Unescaped := by
  cases kind <;> decide

/-- What an occurrence has from a source begins no escape sequence. -/
structure Occurrence.Unescaped (occurrence : Occurrence) : Prop where
  filePath : occurrence.filePath.Unescaped
  id : occurrence.id.Unescaped
  qualifier : ∀ word ∈ occurrence.tag.qualifier, Text.Unescaped word
  sourceLine : occurrence.sourceLine.Unescaped

instance (occurrence : Occurrence) : Decidable occurrence.Unescaped :=
  decidable_of_iff
    (occurrence.filePath.Unescaped ∧ occurrence.id.Unescaped ∧
      (∀ word ∈ occurrence.tag.qualifier, Text.Unescaped word) ∧ occurrence.sourceLine.Unescaped)
    ⟨fun ⟨filePath, id, qualifier, sourceLine⟩ => ⟨filePath, id, qualifier, sourceLine⟩,
      fun ⟨filePath, id, qualifier, sourceLine⟩ => ⟨filePath, id, qualifier, sourceLine⟩⟩

def Issue.Unescaped (issue : Issue) : Prop :=
  ∀ occurrence ∈ issue.anchors, occurrence.Unescaped

instance (issue : Issue) : Decidable issue.Unescaped :=
  inferInstanceAs (Decidable (∀ occurrence ∈ issue.anchors, occurrence.Unescaped))

namespace Occurrence.Unescaped

variable {occurrence : Occurrence}

theorem location (unescaped : occurrence.Unescaped) : occurrence.location.Unescaped := by
  simp [Occurrence.location, unescaped.filePath]

theorem display (unescaped : occurrence.Unescaped) : occurrence.tag.display.Unescaped := by
  have isId : occurrence.tag.id.Unescaped := unescaped.id
  cases qualifier : occurrence.tag.qualifier with
  | none => simp [Tag.display, Tag.writtenKeyword, qualifier, isId]
  | some word =>
      have inParentheses := unescaped.qualifier word qualifier
      simp [Tag.display, Tag.writtenKeyword, qualifier, isId, inParentheses]

end Occurrence.Unescaped

namespace Issue.Unescaped

variable {issue : Issue}

theorem location (unescaped : issue.Unescaped) : issue.location.Unescaped :=
  unescaped issue.location issue.location_mem_anchors

theorem message (unescaped : issue.Unescaped) : issue.message.Unescaped := by
  have display := unescaped.location.display
  cases issue with
  | duplicate later first => exact Text.unescaped_append.mpr ⟨by decide, display⟩
  | missing present =>
      have counterpart := present.kind.counterpart.unescaped_keyword
      have opening : Text.Unescaped ("Missing corresponding ".toList ++
          present.kind.counterpart.keyword ++ " for ".toList) :=
        Text.unescaped_append.mpr ⟨Text.unescaped_append.mpr ⟨by decide, counterpart⟩, by decide⟩
      exact Text.unescaped_append.mpr ⟨opening, display⟩

theorem details (unescaped : issue.Unescaped) : ∀ note ∈ issue.details, note.Unescaped := by
  cases issue with
  | duplicate later first =>
      have place := (unescaped first (.tail _ (.head _))).location
      simpa [Issue.details, Issue.keptPlace?] using place
  | missing present => exact nofun

end Issue.Unescaped

/-! ### The report -/

namespace Report

open Style (Decorates decorates_paint ofColour paint strip)

variable {issue : Issue}

theorem decorates_bar : Decorates (' ' :: bar .coloured) (' ' :: bar .plain) :=
  (decorates_paint _ ['|'] (by decide)).space

theorem decorates_spaces (count : Nat) : Decorates (spaces count) (spaces count) :=
  .self _ (Text.unescaped_replicate_space count)

theorem decorates_headline (unescaped : issue.Unescaped) :
    Decorates (headline .coloured issue) (headline .plain issue) := by
  have severity := decorates_paint (severityStyle issue.severity) issue.severity.name
    issue.severity.unescaped_name
  have said := ((severity.append_text ": ".toList (by decide)).append_text issue.message
    unescaped.message).append_text "  ".toList (by decide)
  have kind := decorates_paint { dimmed := true, colour := some .cyan } issue.kind.name
    issue.kind.unescaped_name
  exact (said.append kind).endLine

theorem decorates_placeLine (unescaped : issue.Unescaped) :
    Decorates (placeLine .coloured issue) (placeLine .plain issue) := by
  have indent := Decorates.self "  ".toList (by decide)
  have arrow := decorates_paint (ofColour .blue) "-->".toList (by decide)
  have place := (Decorates.self _ unescaped.location.location).space
  exact ((indent.append arrow).append place).endLine

theorem decorates_sourceLines (margin : Nat) (unescaped : issue.Unescaped) :
    Decorates (sourceLines .coloured margin issue) (sourceLines .plain margin issue) := by
  have number := (decorates_paint (ofColour .blue)
    (Text.padLeft margin (Text.ofNat issue.location.line)) (by simp [Text.padLeft])).cons '\n'
      (by decide)
  have source := (Decorates.self _ unescaped.location.sourceLine).space
  have numbered := (((decorates_spaces margin).append decorates_bar).append number).append
    decorates_bar
  exact (numbered.append source).endLine

theorem decorates_caretLine (margin : Nat) (issue : Issue) :
    Decorates (caretLine .coloured margin issue) (caretLine .plain margin issue) := by
  have columns := (decorates_spaces (caretColumns issue)).space
  have caret := decorates_paint (caretStyle issue.severity) ['^'] (by decide)
  have pointed := (((decorates_spaces margin).append decorates_bar).append columns).append caret
  exact pointed.endLine

theorem decorates_noteLine (margin : Nat) {note : Text} (unescaped : note.Unescaped) :
    Decorates (noteLine .coloured margin note) (noteLine .plain margin note) := by
  have sign := (decorates_paint (ofColour .blue) ['='] (by decide)).space
  have name := (decorates_paint { bold := true } "note:".toList (by decide)).space
  have said := (Decorates.self note unescaped).space
  exact ((((decorates_spaces margin).append sign).append name).append said).endLine

theorem decorates_issueText (margin : Nat) (unescaped : issue.Unescaped) :
    Decorates (issueText .coloured margin issue) (issueText .plain margin issue) := by
  have place := (decorates_headline unescaped).append (decorates_placeLine unescaped)
  have caret := (place.append (decorates_sourceLines margin unescaped)).append
    (decorates_caretLine margin issue)
  have notes : Decorates (issue.details.flatMap (noteLine .coloured margin))
      (issue.details.flatMap (noteLine .plain margin)) :=
    .flatMap fun note member => decorates_noteLine margin (unescaped.details note member)
  exact (caret.append notes).endLine

theorem decorates_counted {coloured plain : Text} (decorates : Decorates coloured plain)
    (colour : Colour) (count : Nat) (one several : String)
    (unescaped : Text.Unescaped (one.toList ++ several.toList)) :
    Decorates
      (coloured ++ Text.ofNat count ++
        ' ' :: paint .coloured (ofColour colour) (plural count one several))
      (plain ++ Text.ofNat count ++
        ' ' :: paint .plain (ofColour colour) (plural count one several)) := by
  have forms := Text.unescaped_append.mp unescaped
  have noun : Text.Unescaped (plural count one several) := by
    rw [plural]
    split
    · exact forms.1
    · exact forms.2
  have number := decorates.append_text (Text.ofNat count) (Text.unescaped_ofNat count)
  exact number.append ((decorates_paint _ _ noun).space)

theorem decorates_summary (issues : List Issue) :
    Decorates (summary .coloured issues) (summary .plain issues) := by
  have mark := decorates_paint (ofColour .red) "\u2718".toList (by decide)
  have number := (Decorates.self _ (Text.unescaped_ofNat issues.length)).space
  have total := (mark.append number).append_text " problems (".toList (by decide)
  have errors := decorates_counted total .red (Issue.countSeverity .error issues) "error" "errors"
    (by decide)
  have warnings := decorates_counted (errors.append_text ", ".toList (by decide)) .yellow
    (issues.length - Issue.countSeverity .error issues) "warning" "warnings" (by decide)
  exact warnings.append_text ")\n".toList (by decide)

/-- Stripped, a coloured report is the plain one. -/
theorem strip_ofIssues (issues : List Issue) (unescaped : ∀ issue ∈ issues, issue.Unescaped) :
    strip (ofIssues .coloured issues) = ofIssues .plain issues := by
  by_cases empty : issues.isEmpty = true
  · rw [ofIssues, if_pos empty, ofIssues, if_pos empty]
    rfl
  · rw [ofIssues, if_neg empty, ofIssues, if_neg empty]
    have texts : Decorates
        ((Issue.sortForReport issues).flatMap
          (issueText .coloured (marginOf (Issue.sortForReport issues))))
        ((Issue.sortForReport issues).flatMap
          (issueText .plain (marginOf (Issue.sortForReport issues)))) :=
      .flatMap fun issue member =>
        decorates_issueText _ (unescaped issue (mem_stableSort.mp member))
    exact (texts.append (decorates_summary _)).strip_eq

def twoSeverities : List Issue :=
  let tag (line : Nat) : Tag :=
    { kind := .require, qualifier := some "extern".toList, id := "日本".toList
      startLine := line, startCol := 26, endLine := line, endCol := 28 }
  let occurrence (line : Nat) : Occurrence :=
    { filePath := "./a.py".toList, tag := tag line
      sourceLine := "\"日本\" # REQUIRE(extern): 日本".toList }
  [.duplicate (occurrence 12) (occurrence 3), .missing (occurrence 3)]

theorem strip_ofIssues_twoSeverities :
    (∀ issue ∈ twoSeverities, issue.Unescaped) ∧
      strip (ofIssues .coloured twoSeverities) = ofIssues .plain twoSeverities := by
  have unescaped : ∀ issue ∈ twoSeverities, issue.Unescaped := by decide
  exact ⟨unescaped, strip_ofIssues twoSeverities unescaped⟩

end Report
end Traceability
