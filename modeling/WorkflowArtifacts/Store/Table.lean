/-!
# Tables of shared records

Records are shared: the same form may be reached through its configuration, through a name given
to it and through an artifact, and a change made through one is seen through all. So a record is
stored once, in the table of its type, and everything else holds a reference to it.

A reference carries the type of its record, so a reference to a form is never taken for one to a
field. Allocation hands out the next free position, hence a reference that nobody held before.
Reading is total: a position that was never allocated reads as the default record, and writing
there changes nothing.
-/

namespace WorkflowArtifacts

/-- A reference to a stored record. -/
structure Ref (α : Type) where
  /-- The position of the record in its table. -/
  index : Nat

namespace Ref

variable {α : Type}

theorem ext_iff {r q : Ref α} : r = q ↔ r.index = q.index := by
  cases r; cases q; simp

instance : DecidableEq (Ref α) := fun _ _ ↦ decidable_of_iff' _ ext_iff

instance : Inhabited (Ref α) := ⟨⟨0⟩⟩

end Ref

/-- The stored records of one type. -/
structure Table (α : Type) where
  /-- The records in order of allocation. -/
  rows : Array α
  deriving Inhabited

namespace Table

variable {α : Type}

/-- The table without records. -/
def empty : Table α := ⟨#[]⟩

/-- The number of allocated records. -/
def size (t : Table α) : Nat := t.rows.size

/-- The record a reference leads to. -/
def get [Inhabited α] (t : Table α) (r : Ref α) : α := t.rows.getD r.index default

/-- The table with another record at a reference. -/
def set (t : Table α) (r : Ref α) (x : α) : Table α := ⟨t.rows.setIfInBounds r.index x⟩

/-- The reference that the next allocation hands out. -/
def next (t : Table α) : Ref α := ⟨t.size⟩

/-- The table with one more record, at the reference `next`. -/
def push (t : Table α) (x : α) : Table α := ⟨t.rows.push x⟩

/-- Whether a reference has been handed out. -/
def Allocated (t : Table α) (r : Ref α) : Prop := r.index < t.size

instance (t : Table α) (r : Ref α) : Decidable (t.Allocated r) := Nat.decLt ..

@[simp] theorem size_push (t : Table α) (x : α) : (t.push x).size = t.size + 1 := by
  simp [size, push]

@[simp] theorem size_set (t : Table α) (r : Ref α) (x : α) : (t.set r x).size = t.size := by
  simp [size, set]

theorem get_push_next [Inhabited α] (t : Table α) (x : α) : (t.push x).get t.next = x := by
  simp [get, push, next, size, Array.getD]

theorem get_push_of_allocated [Inhabited α] {t : Table α} {r : Ref α} (h : t.Allocated r)
    (x : α) : (t.push x).get r = t.get r := by
  have h' : r.index < t.rows.size := h
  simp [get, push, Array.getElem_push_lt, h', Nat.lt_succ_of_lt h']

theorem get_set_self [Inhabited α] {t : Table α} {r : Ref α} (h : t.Allocated r) (x : α) :
    (t.set r x).get r = x := by
  have h' : r.index < t.rows.size := h
  simp [get, set, h']

theorem get_set_of_ne [Inhabited α] (t : Table α) {r q : Ref α} (h : q ≠ r) (x : α) :
    (t.set r x).get q = t.get q := by
  have h' : r.index ≠ q.index := fun e ↦ h (Ref.ext_iff.2 e.symm)
  simp [get, set, Array.getElem?_setIfInBounds_ne h']

end Table

end WorkflowArtifacts
