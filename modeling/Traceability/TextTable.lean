import Traceability.Text.Basic

/-!
Tables keyed by text, in ascending order of the keys.

The order is that of the code points, which is also the order of the UTF-8 bytes.
A table holds at most one entry for a key.
-/

namespace Traceability

/-- Entries in ascending order of their keys. -/
structure TextTable (α : Type) where
  entries : List (Text × α)
  ascending : entries.Pairwise fun left right => compare left.1 right.1 = .lt

namespace TextTable

variable {α : Type}

def insertEntry (name : Text) (value : α) : List (Text × α) → List (Text × α)
  | [] => [(name, value)]
  | (key, current) :: rest =>
      match compare name key with
      | .lt => (name, value) :: (key, current) :: rest
      | .eq => (name, value) :: rest
      | .gt => (key, current) :: insertEntry name value rest

theorem mem_insertEntry {name : Text} {value : α} {entries : List (Text × α)}
    {entry : Text × α} (member : entry ∈ insertEntry name value entries) :
    entry = (name, value) ∨ entry ∈ entries := by
  induction entries with
  | nil => simpa [insertEntry] using member
  | cons first rest ih =>
      unfold insertEntry at member
      split at member
      · simpa using member
      · rcases List.mem_cons.mp member with same | member
        · exact .inl same
        · exact .inr (.tail _ member)
      · rcases List.mem_cons.mp member with same | member
        · exact .inr (same ▸ .head _)
        · exact (ih member).imp_right (.tail _)

theorem insertEntry_ascending (name : Text) (value : α) (entries : List (Text × α))
    (ascending : entries.Pairwise fun left right => compare left.1 right.1 = .lt) :
    (insertEntry name value entries).Pairwise
      fun left right => compare left.1 right.1 = .lt := by
  induction entries with
  | nil => simp [insertEntry]
  | cons first rest ih =>
      have smallest := (List.pairwise_cons.mp ascending).1
      have tail := (List.pairwise_cons.mp ascending).2
      unfold insertEntry
      split
      · rename_i before
        refine List.Pairwise.cons ?_ ascending
        intro entry member
        rcases List.mem_cons.mp member with rfl | member
        · exact before
        · exact Std.TransCmp.lt_trans before (smallest entry member)
      · rename_i same
        have equal : name = first.1 := Std.LawfulEqOrd.eq_of_compare same
        refine List.Pairwise.cons ?_ tail
        intro entry member
        rw [equal]
        exact smallest entry member
      · rename_i after
        refine List.Pairwise.cons ?_ (ih tail)
        intro entry member
        rcases mem_insertEntry member with rfl | member
        · exact Std.OrientedCmp.lt_of_gt after
        · exact smallest entry member

def empty : TextTable α :=
  ⟨[], .nil⟩

def get? (table : TextTable α) (name : Text) : Option α :=
  table.entries.lookup name

def insert (table : TextTable α) (name : Text) (value : α) : TextTable α :=
  ⟨insertEntry name value table.entries, insertEntry_ascending name value _ table.ascending⟩

def values (table : TextTable α) : List α :=
  table.entries.map (·.2)

def keys (table : TextTable α) : List Text :=
  table.entries.map (·.1)

def size (table : TextTable α) : Nat :=
  table.entries.length

def isEmpty (table : TextTable α) : Bool :=
  table.entries.isEmpty

end TextTable
end Traceability
