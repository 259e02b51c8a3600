/-!
A stable sort by structural recursion: an item is placed before the first one that
may follow it, so items of equal rank keep their order.
-/

namespace Traceability

variable {α : Type}

def insertBefore (mayPrecede : α → α → Bool) (item : α) : List α → List α
  | [] => [item]
  | first :: rest =>
      if mayPrecede item first then
        item :: first :: rest
      else
        first :: insertBefore mayPrecede item rest

/-- Sorts by a total preorder and keeps the order of items of equal rank. -/
def stableSort (mayPrecede : α → α → Bool) (items : List α) : List α :=
  items.foldr (insertBefore mayPrecede) []

@[simp] theorem stableSort_nil (mayPrecede : α → α → Bool) :
    stableSort mayPrecede [] = [] := rfl

@[simp] theorem stableSort_cons (mayPrecede : α → α → Bool) (item : α) (items : List α) :
    stableSort mayPrecede (item :: items) =
      insertBefore mayPrecede item (stableSort mayPrecede items) := rfl

theorem insertBefore_perm (mayPrecede : α → α → Bool) (item : α) (items : List α) :
    (insertBefore mayPrecede item items).Perm (item :: items) := by
  induction items with
  | nil => exact .refl _
  | cons first rest ih =>
      unfold insertBefore
      split
      · exact .refl _
      · exact (ih.cons first).trans (.swap item first rest)

theorem stableSort_perm (mayPrecede : α → α → Bool) (items : List α) :
    (stableSort mayPrecede items).Perm items := by
  induction items with
  | nil => exact .refl _
  | cons item rest ih =>
      exact (insertBefore_perm mayPrecede item _).trans (ih.cons item)

end Traceability
