/-!
# The history

A history holds the names of the programs launched last, oldest first, and no more of them than its
capacity. Adding an entry to a full history drops the oldest one.
-/

namespace RecallShell

/-- The last elements of a list, at most a given number of them. -/
def newest {α : Type} (count : Nat) (xs : List α) : List α := xs.drop (xs.length - count)

/-- Bounded list of entries, oldest first. -/
structure History where
  /-- How many entries there is room for. -/
  capacity : Nat
  /-- The entries, oldest first. -/
  entries : List String
  /-- There is room for an entry. -/
  capacity_pos : 0 < capacity
  /-- There are no more entries than there is room for. -/
  length_le : entries.length ≤ capacity
  deriving DecidableEq, Repr

namespace History

/-- The number of entries a session keeps. -/
def defaultCapacity : Nat := 10

/-- A history without entries; one without room is given room for one entry. -/
def withCapacity (capacity : Nat) : History where
  capacity := max capacity 1
  entries := []
  capacity_pos := by omega
  length_le := Nat.zero_le _

/-- The history that a session starts from when nothing is stored. -/
def empty : History := withCapacity defaultCapacity

instance : Inhabited History := ⟨empty⟩

/-- Whether the next entry drops the oldest one. -/
def isFull (h : History) : Bool := h.entries.length == h.capacity

/-- Adds an entry as the newest one. -/
def append (h : History) (entry : String) : History where
  capacity := h.capacity
  entries := (if h.isFull then h.entries.tail else h.entries) ++ [entry]
  capacity_pos := h.capacity_pos
  length_le := by
    have hl := h.length_le
    have hc := h.capacity_pos
    simp only [isFull, beq_iff_eq]
    split
    · simp only [List.length_append, List.length_tail, List.length_singleton]
      omega
    · simp only [List.length_append, List.length_singleton]
      omega

@[simp] theorem capacity_append (h : History) (entry : String) :
    (h.append entry).capacity = h.capacity := rfl

/-- Adding an entry keeps the newest entries that there is room for. -/
theorem entries_append (h : History) (entry : String) :
    (h.append entry).entries = newest h.capacity (h.entries ++ [entry]) := by
  have hl := h.length_le
  have hc := h.capacity_pos
  by_cases hf : h.entries.length = h.capacity
  · have hd : (h.entries ++ [entry]).length - h.capacity = 1 := by simp; omega
    have hn : 1 ≤ h.entries.length := by omega
    simp only [append, isFull, hf, beq_self_eq_true, if_true, newest, hd]
    rw [List.drop_append_of_le_length hn, List.drop_one]
  · have hd : (h.entries ++ [entry]).length - h.capacity = 0 := by simp; omega
    simp only [append, isFull, newest, hd]
    simp [hf]

/-- Adds entries one after the other. -/
def appendAll (h : History) (entries : List String) : History := entries.foldl append h

/-- The entry added last, if there is one. -/
def newest? (h : History) : Option String := h.entries.getLast?

/-- The number of entries. -/
def size (h : History) : Nat := h.entries.length

/-- Whether there is no entry. -/
def isEmpty (h : History) : Bool := h.entries.isEmpty

end History

end RecallShell
