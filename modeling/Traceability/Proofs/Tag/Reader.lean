import Traceability.Tag.Reader

/-!
Asking for the tags of a comment one after the other.

Each request is answered with the first of the tags that are left, and it leaves the others.
So the requests are answered with the tags of the comment in order, and with nothing from then on,
however often a reader is asked (`Comment.answers_eq`).
-/

namespace Traceability

open BlockReading (State)

/-- The tags that a reader has yet to give. -/
def TagReader.Leaves (transform : Text → Text) (comment : Comment) (reader : TagReader)
    (tags : List Tag) : Prop :=
  if reader.isDone then
    tags = []
  else
    (match comment.kind with
      | .line => (comment.lineTag transform).map Option.toList
      | .block =>
          BlockReading.run (BlockReading.step comment.startLine comment.startCol transform)
            reader.number reader.lines reader.state) = .ok tags

theorem TagReader.advance_of_run
    {read : Nat → Text → State → Except Fault (Option Tag × State)} {number : Nat}
    {lines : List Text} {state : State} {tags : List Tag}
    (ran : BlockReading.run read number lines state = .ok tags) :
    ∃ later, advance read number lines state = .ok (tags.head?, later) ∧
      if later.isDone then tags.tail = []
      else BlockReading.run read later.number later.lines later.state = .ok tags.tail := by
  induction lines generalizing number state with
  | nil =>
      obtain ⟨last, ended, rfl⟩ := exists_of_map_eq_ok ran
      refine ⟨{ number, lines := [], isDone := true }, ?_, ?_⟩
      · rw [advance, ended]
        cases last <;> rfl
      · cases last <;> rfl
  | cons text others ih =>
      obtain ⟨⟨closed, next⟩, stepped, ran⟩ := exists_of_bind_eq_ok ran
      obtain ⟨found, rest, ran⟩ := exists_of_bind_eq_ok ran
      obtain rfl : closed.toList ++ found = tags := Except.ok.inj ran
      rw [advance, stepped]
      cases closed with
      | none => exact ih rest
      | some tag => exact ⟨_, rfl, rest⟩

namespace Comment

variable {transform : Text → Text} {comment : Comment} {reader : TagReader} {tags : List Tag}

theorem nextTag_of_leaves (leaves : reader.Leaves transform comment tags) :
    ∃ later, comment.nextTag transform reader = .ok (tags.head?, later) ∧
      later.Leaves transform comment tags.tail := by
  unfold TagReader.Leaves at leaves
  unfold nextTag
  cases finished : reader.isDone with
  | true =>
      rw [finished, if_pos rfl] at leaves
      subst leaves
      refine ⟨reader, rfl, ?_⟩
      rw [TagReader.Leaves, finished, if_pos rfl]
      rfl
  | false =>
      rw [finished, if_neg Bool.false_ne_true] at leaves
      rw [if_neg Bool.false_ne_true]
      cases kind : comment.kind with
      | line =>
          rw [kind] at leaves
          obtain ⟨tag, read, rfl⟩ := exists_of_map_eq_ok leaves
          refine ⟨{ reader with isDone := true }, ?_, ?_⟩
          · rw [read]
            cases tag <;> rfl
          · cases tag <;> rfl
      | block =>
          rw [kind] at leaves
          obtain ⟨later, advanced, left⟩ := TagReader.advance_of_run leaves
          refine ⟨later, advanced, ?_⟩
          rw [TagReader.Leaves, kind]
          exact left

theorem answers_of_leaves (leaves : reader.Leaves transform comment tags) (count : Nat) :
    comment.answers transform count reader = .ok ((List.range count).map (tags[·]?)) := by
  induction count generalizing reader tags with
  | zero => rfl
  | succ count ih =>
      obtain ⟨later, answer, left⟩ := nextTag_of_leaves leaves
      rw [answers, answer]
      change (comment.answers transform count later).bind _ = _
      rw [ih left, List.range_succ_eq_map, List.map_cons, List.map_map, List.head?_eq_getElem?]
      change Except.ok _ = Except.ok _
      simp only [List.getElem?_tail, Function.comp_def]

theorem answers_eq (read : comment.tagsWith transform = .ok tags) (count : Nat) :
    comment.answers transform count (.ofComment comment) =
      .ok ((List.range count).map (tags[·]?)) := by
  have leaves : (TagReader.ofComment comment).Leaves transform comment tags := read
  exact answers_of_leaves leaves count

end Comment
end Traceability
