import WorkflowArtifacts.Fault
import WorkflowArtifacts.Item
import WorkflowArtifacts.Store.Table

/-!
# The store

All records that exist, one table for each type. `Stored` says which table holds a type, so that
reading, writing and allocating are written once for all of them. Besides records the store holds
what was put in the place of a form's field without being one.

Building is a computation over the store. It comes in two kinds: `Build`, which cannot fail, and
`CheckedBuild`, which may stop at a fault; the store keeps whatever was done up to there.
-/

namespace WorkflowArtifacts

/-- All records that exist. -/
structure Store where
  /-- The workflow definitions. -/
  definitions : Table Definition
  /-- The process graphs. -/
  processes : Table Process
  /-- The elements of process graphs. -/
  elements : Table Element
  /-- The namespaces of content models. -/
  namespaces : Table ModelNamespace
  /-- The content models. -/
  contentModels : Table ContentModel
  /-- The parameters of controls. -/
  parameters : Table ControlParameter
  /-- The controls. -/
  controls : Table Control
  /-- The sets. -/
  formSets : Table FormSet
  /-- The fields. -/
  formFields : Table FormField
  /-- The visibilities. -/
  visibilities : Table Visibility
  /-- The appearances. -/
  appearances : Table Appearance
  /-- The forms. -/
  forms : Table Form
  /-- The configurations. -/
  configurations : Table Configuration
  /-- The form modules. -/
  formModules : Table FormModule
  /-- Everything loose. -/
  loose : Table Item
  deriving Inhabited

/-- The store without records. -/
def Store.empty : Store :=
  ⟨.empty, .empty, .empty, .empty, .empty, .empty, .empty, .empty, .empty, .empty, .empty, .empty,
    .empty, .empty, .empty⟩

/-- The types whose records the store holds. -/
class Stored (α : Type) extends Inhabited α where
  /-- The table of the type. -/
  table : Store → Table α
  /-- The store with another table for the type. -/
  withTable : Store → Table α → Store
  /-- What is put in is found again. -/
  table_withTable : ∀ s t, table (withTable s t) = t := by intros; rfl
  /-- Putting in what is there changes nothing. -/
  withTable_table : ∀ s, withTable s (table s) = s := by intros; rfl
  /-- Only the last table put in counts. -/
  withTable_withTable : ∀ s t u, withTable (withTable s t) u = withTable s u := by intros; rfl

instance : Stored Definition where
  table := Store.definitions
  withTable s t := { s with definitions := t }

instance : Stored Process where
  table := Store.processes
  withTable s t := { s with processes := t }

instance : Stored Element where
  table := Store.elements
  withTable s t := { s with elements := t }

instance : Stored ModelNamespace where
  table := Store.namespaces
  withTable s t := { s with namespaces := t }

instance : Stored ContentModel where
  table := Store.contentModels
  withTable s t := { s with contentModels := t }

instance : Stored ControlParameter where
  table := Store.parameters
  withTable s t := { s with parameters := t }

instance : Stored Control where
  table := Store.controls
  withTable s t := { s with controls := t }

instance : Stored FormSet where
  table := Store.formSets
  withTable s t := { s with formSets := t }

instance : Stored FormField where
  table := Store.formFields
  withTable s t := { s with formFields := t }

instance : Stored Visibility where
  table := Store.visibilities
  withTable s t := { s with visibilities := t }

instance : Stored Appearance where
  table := Store.appearances
  withTable s t := { s with appearances := t }

instance : Stored Form where
  table := Store.forms
  withTable s t := { s with forms := t }

instance : Stored Configuration where
  table := Store.configurations
  withTable s t := { s with configurations := t }

instance : Stored FormModule where
  table := Store.formModules
  withTable s t := { s with formModules := t }

namespace Store

variable {α : Type} [Stored α]

/-- The record a reference leads to. -/
def get (s : Store) (r : Ref α) : α := (Stored.table s).get r

/-- The store with another record at a reference. -/
def set (s : Store) (r : Ref α) (x : α) : Store :=
  Stored.withTable s ((Stored.table s).set r x)

/-- The store with the record at a reference changed by a function. -/
def modify (s : Store) (r : Ref α) (f : α → α) : Store := s.set r (f (s.get r))

/-- A new record: its reference, and the store that holds it. -/
def alloc (s : Store) (x : α) : Ref α × Store :=
  ((Stored.table s).next, Stored.withTable s ((Stored.table s).push x))

/-- What is loose at a place. -/
def looseItem (s : Store) (r : LooseRef) : Item := s.loose.get ⟨r.index⟩

/-- A new place for something loose, and the store that holds it. -/
def allocLoose (s : Store) (item : Item) : LooseRef × Store :=
  (⟨s.loose.size⟩, { s with loose := s.loose.push item })

theorem looseItem_allocLoose (s : Store) (item : Item) :
    (s.allocLoose item).2.looseItem (s.allocLoose item).1 = item :=
  Table.get_push_next s.loose item

/-- Whether a reference has been handed out. -/
def Allocated (s : Store) (r : Ref α) : Prop := (Stored.table s).Allocated r

theorem get_alloc (s : Store) (x : α) : (s.alloc x).2.get (s.alloc x).1 = x := by
  simp [alloc, get, Stored.table_withTable, Table.get_push_next]

theorem get_alloc_of_allocated {s : Store} {r : Ref α} (h : s.Allocated r) (x : α) :
    (s.alloc x).2.get r = s.get r := by
  simp [alloc, get, Stored.table_withTable, Table.get_push_of_allocated h]

theorem get_set_self {s : Store} {r : Ref α} (h : s.Allocated r) (x : α) :
    (s.set r x).get r = x := by
  simp [set, get, Stored.table_withTable, Table.get_set_self h]

theorem get_set_of_ne (s : Store) {r q : Ref α} (h : q ≠ r) (x : α) :
    (s.set r x).get q = s.get q := by
  simp [set, get, Stored.table_withTable, Table.get_set_of_ne _ h]

end Store

/-! ## Building -/

/-- A computation over the store that cannot fail. -/
abbrev Build := StateM Store

/-- A computation over the store that may stop at a fault. -/
abbrev CheckedBuild := ExceptT Fault Build

namespace Build

variable {α : Type} [Stored α]

/-- Allocates a record. -/
def alloc (x : α) : Build (Ref α) := fun s ↦ s.alloc x

/-- Finds a place for something loose. -/
def allocLoose (item : Item) : Build LooseRef := fun s ↦ s.allocLoose item

/-- Reads a record. -/
def fetch (r : Ref α) : Build α := fun s ↦ (s.get r, s)

/-- Changes a record. -/
def update (r : Ref α) (f : α → α) : Build Unit := fun s ↦ ((), s.modify r f)

end Build

/-- The normal form of a document of a class, or the fault of its being refused. -/
def validated (c : RecordClass) (j : Json) : CheckedBuild Json :=
  ExceptT.mk (pure (Fault.ofValidation (c.validate j)))

end WorkflowArtifacts
