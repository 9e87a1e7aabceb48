import Mathlib.Data.List.Forall2
import WorkflowArtifacts.Store.Basic

/-!
# Stores that only grow

Most of what is done to a store adds records and leaves those that exist alone. Then everything that
was known about an existing record stays known, however much is added in between. `Table.Extends`
says this of a table, and `Store.Holds` is the kind of knowledge that is kept: a reference has been
handed out and leads to a certain record.

## The parts of forms

A form consists of records of seven classes. Whoever makes a form adds records of these classes and
touches nothing else, which is `Store.OnlyFormsGrow`. What is known about a finished form needs
less, `Store.FormsGrow`: other tables may change in any way.
-/

namespace WorkflowArtifacts

/-! ## Tables -/

namespace Table

variable {α : Type}

theorem set_push_next (t : Table α) (x y : α) : (t.push x).set t.next y = t.push y := by
  rw [push, set, next, size, push, Array.setIfInBounds_def, dif_pos (by simp), Array.set_push]
  simp

/-- Writing where nothing was handed out changes nothing. -/
theorem set_of_not_allocated {t : Table α} {r : Ref α} (h : ¬ t.Allocated r) (x : α) :
    t.set r x = t := by
  rw [set, Array.setIfInBounds_eq_of_size_le (Nat.le_of_not_lt h)]

/-- Writing what is there already changes nothing. -/
theorem set_get [Inhabited α] (t : Table α) (r : Ref α) : t.set r (t.get r) = t := by
  by_cases h : r.index < t.rows.size
  · rw [set, get, Array.getD, dif_pos h, Array.setIfInBounds_def, dif_pos h]
    exact congrArg Table.mk (Array.set_getElem_self h)
  · exact set_of_not_allocated h _

/-- Of two records that are written to the same place, the later one stays. -/
theorem set_set (t : Table α) (r : Ref α) (x y : α) : (t.set r x).set r y = t.set r y := by
  rw [set, set, set, Array.setIfInBounds_setIfInBounds]

theorem allocated_push_next (t : Table α) (x : α) : (t.push x).Allocated t.next := by
  rw [Allocated, size_push]
  exact Nat.lt_succ_self _

/-- Whether a table goes on from another one: it starts with all of its records, in order. -/
def Extends (later earlier : Table α) : Prop := ∃ rows, later.rows = earlier.rows ++ rows

namespace Extends

theorem refl (t : Table α) : t.Extends t := ⟨#[], by simp⟩

theorem trans {t u v : Table α} (hu : u.Extends t) (hv : v.Extends u) : v.Extends t := by
  obtain ⟨first, hfirst⟩ := hu
  obtain ⟨second, hsecond⟩ := hv
  exact ⟨first ++ second, by rw [hsecond, hfirst, Array.append_assoc]⟩

theorem push (t : Table α) (x : α) : (t.push x).Extends t := ⟨#[x], rfl⟩

theorem size_le {t u : Table α} (h : u.Extends t) : t.size ≤ u.size := by
  obtain ⟨rows, hrows⟩ := h
  rw [size, size, hrows, Array.size_append]
  exact Nat.le_add_right _ _

theorem allocated {t u : Table α} (h : u.Extends t) {r : Ref α} (hr : t.Allocated r) :
    u.Allocated r :=
  Nat.lt_of_lt_of_le hr h.size_le

theorem get [Inhabited α] {t u : Table α} (h : u.Extends t) {r : Ref α} (hr : t.Allocated r) :
    u.get r = t.get r := by
  obtain ⟨rows, hrows⟩ := h
  have hr' : r.index < t.rows.size := hr
  have hu : r.index < (t.rows ++ rows).size := by
    rw [Array.size_append]
    exact Nat.lt_add_right _ hr'
  rw [Table.get, Table.get, hrows, Array.getD, Array.getD, dif_pos hr', dif_pos hu]
  exact Array.getElem_append_left hr'

end Extends

/-- Whether a reference has been handed out and leads to a certain record. -/
def Holds [Inhabited α] (t : Table α) (r : Ref α) (x : α) : Prop := t.Allocated r ∧ t.get r = x

theorem Holds.of_extends [Inhabited α] {t u : Table α} {r : Ref α} {x : α} (h : t.Holds r x)
    (hgrow : u.Extends t) : u.Holds r x :=
  ⟨hgrow.allocated h.1, (hgrow.get h.1).trans h.2⟩

theorem holds_push_next [Inhabited α] (t : Table α) (x : α) : (t.push x).Holds t.next x :=
  ⟨allocated_push_next t x, get_push_next t x⟩

end Table

theorem Build.bind_apply {α β : Type} (action : Build α) (f : α → Build β) (s : Store) :
    (action >>= f) s = f (action s).1 (action s).2 := rfl

theorem CheckedBuild.run_bind {α β : Type} (action : CheckedBuild α) (f : α → CheckedBuild β)
    (s : Store) :
    (action >>= f).run s = match action.run s with
      | (.ok a, t) => (f a).run t
      | (.error fault, t) => (.error fault, t) := by
  rw [ExceptT.run, ExceptT.run]
  rcases h : action s with ⟨fault | a, t⟩
  · simp only [bind, ExceptT.bind, ExceptT.mk, ExceptT.bindCont, StateT.bind, h]
    rfl
  · simp only [bind, ExceptT.bind, ExceptT.mk, ExceptT.bindCont, StateT.bind, h, ExceptT.run]

/-- What is done with a document is done if the document is accepted. -/
theorem CheckedBuild.run_validated_bind {α : Type} (cls : RecordClass) (j : Json)
    (f : Json → CheckedBuild α) (s : Store) :
    (validated cls j >>= f).run s = match cls.validate j with
      | .ok document => (f document).run s
      | .error failure => (.error (.invalid failure), s) := by
  have hrun : (validated cls j).run s = (Fault.ofValidation (cls.validate j), s) := rfl
  rw [CheckedBuild.run_bind, hrun]
  cases cls.validate j <;> rfl

namespace Store

/-! ## What is known about a record -/

section Holds

variable {α : Type} [Stored α]

instance (s : Store) (r : Ref α) : Decidable (s.Allocated r) :=
  inferInstanceAs (Decidable ((Stored.table s).Allocated r))

/-- Whether a reference has been handed out and leads to a certain record. -/
def Holds (s : Store) (r : Ref α) (x : α) : Prop := s.Allocated r ∧ s.get r = x

theorem holds_iff {s : Store} {r : Ref α} {x : α} :
    s.Holds r x ↔ (Stored.table s : Table α).Holds r x := Iff.rfl

theorem holds_alloc (s : Store) (x : α) : (s.alloc x).2.Holds (s.alloc x).1 x := by
  rw [holds_iff, alloc, Stored.table_withTable]
  exact Table.holds_push_next _ _

/-- A new record that is changed right away might as well have been made as it is then. -/
theorem modify_next {s : Store} {table : Table α} {x : α} (h : Stored.table s = table.push x)
    (f : α → α) : s.modify table.next f = Stored.withTable s (table.push (f x)) := by
  rw [modify, set, get, h, Table.get_push_next, Table.set_push_next]

/-- A change is only seen at the reference that it was made at. -/
theorem get_modify_of_not {s : Store} {r q : Ref α} (h : ¬ (q = r ∧ s.Allocated q)) (f : α → α) :
    (s.modify r f).get q = s.get q := by
  by_cases hq : q = r
  · subst hq
    -- there is nothing to change where nothing was handed out
    have hallocated : ¬ (Stored.table s : Table α).Allocated q := fun hq ↦ h ⟨rfl, hq⟩
    rw [modify, set, Table.set_of_not_allocated hallocated, Stored.withTable_table]
  · rw [modify, get_set_of_ne s hq]

/-- A change that leaves the record as it is changes nothing. -/
theorem modify_of_eq {s : Store} {r : Ref α} {f : α → α} (h : f (s.get r) = s.get r) :
    s.modify r f = s := by
  rw [modify, h, set, get, Table.set_get, Stored.withTable_table]

/-- Two changes at one reference are one change. -/
theorem modify_modify (s : Store) (r : Ref α) (f g : α → α) :
    (s.modify r f).modify r g = s.modify r (g ∘ f) := by
  by_cases h : s.Allocated r
  · have hget : (s.modify r f).get r = f (s.get r) := get_set_self h _
    rw [modify, hget, modify, set, set, Stored.table_withTable, Stored.withTable_withTable,
      Table.set_set]
    rfl
  · have hsame (f : α → α) : s.modify r f = s := by
      rw [modify, set, Table.set_of_not_allocated h, Stored.withTable_table]
    rw [hsame, hsame, hsame]

/-- A new reference is none that was handed out before. -/
theorem not_allocated_alloc (s : Store) (x : α) : ¬ s.Allocated (s.alloc x).1 :=
  Nat.lt_irrefl _

theorem map_get_of_holds {s : Store} {refs : List (Ref α)} {xs : List α}
    (h : List.Forall₂ s.Holds refs xs) : refs.map s.get = xs := by
  induction h with
  | nil => rfl
  | cons hr _ ih => rw [List.map_cons, hr.2, ih]

theorem Holds.of_extends {s t : Store} {r : Ref α} {x : α} (h : s.Holds r x)
    (hgrow : (Stored.table t : Table α).Extends (Stored.table s)) : t.Holds r x :=
  Table.Holds.of_extends h hgrow

theorem extends_alloc (s : Store) (x : α) :
    (Stored.table (s.alloc x).2 : Table α).Extends (Stored.table s) := by
  rw [alloc, Stored.table_withTable]
  exact Table.Extends.push _ _

/-- Making records of one class one after the other adds them to the table of the class and changes
nothing else. -/
theorem mapM_alloc_holds (xs : List α) (s : Store) :
    ∃ table : Table α, (xs.mapM Build.alloc s).2 = Stored.withTable s table ∧
      table.Extends (Stored.table s) ∧
      List.Forall₂ table.Holds (xs.mapM Build.alloc s).1 xs := by
  induction xs generalizing s with
  | nil => exact ⟨Stored.table s, (Stored.withTable_table s).symm, .refl _, .nil⟩
  | cons x xs ih =>
    obtain ⟨table, hstore, htable, hxs⟩ := ih (s.alloc x).2
    rw [List.mapM_cons]
    refine ⟨table, hstore.trans ?_, (s.extends_alloc x).trans htable, .cons ?_ hxs⟩
    · rw [alloc, Stored.withTable_withTable]
    · exact (holds_iff.1 (s.holds_alloc x)).of_extends htable

end Holds

/-! ## The parts of forms -/

/-- Whether a store has the parts of forms of another one, and perhaps more. -/
structure FormsGrow (s t : Store) : Prop where
  /-- The parameters of controls. -/
  parameters : t.parameters.Extends s.parameters
  /-- The controls. -/
  controls : t.controls.Extends s.controls
  /-- The sets. -/
  formSets : t.formSets.Extends s.formSets
  /-- The fields. -/
  formFields : t.formFields.Extends s.formFields
  /-- The visibilities. -/
  visibilities : t.visibilities.Extends s.visibilities
  /-- The appearances. -/
  appearances : t.appearances.Extends s.appearances
  /-- The forms. -/
  forms : t.forms.Extends s.forms

/-- Whether a store is another one with perhaps more parts of forms. -/
structure OnlyFormsGrow (s t : Store) : Prop extends FormsGrow s t where
  /-- The definitions are the same. -/
  definitions : t.definitions = s.definitions
  /-- The processes are the same. -/
  processes : t.processes = s.processes
  /-- The elements are the same. -/
  elements : t.elements = s.elements
  /-- The namespaces are the same. -/
  namespaces : t.namespaces = s.namespaces
  /-- The content models are the same. -/
  contentModels : t.contentModels = s.contentModels
  /-- The configurations are the same. -/
  configurations : t.configurations = s.configurations
  /-- The form modules are the same. -/
  formModules : t.formModules = s.formModules
  /-- What is loose is the same. -/
  loose : t.loose = s.loose

theorem FormsGrow.refl (s : Store) : s.FormsGrow s :=
  ⟨.refl _, .refl _, .refl _, .refl _, .refl _, .refl _, .refl _⟩

/-- It only matters what a store has of the parts of forms. -/
theorem FormsGrow.of_same {s t : Store}
    (h : t = { t with
      parameters := s.parameters, controls := s.controls, formSets := s.formSets,
      formFields := s.formFields, visibilities := s.visibilities, appearances := s.appearances,
      forms := s.forms }) : s.FormsGrow t := by
  rw [h]
  exact ⟨.refl _, .refl _, .refl _, .refl _, .refl _, .refl _, .refl _⟩

theorem FormsGrow.trans {s t u : Store} (ht : s.FormsGrow t) (hu : t.FormsGrow u) :
    s.FormsGrow u where
  parameters := ht.parameters.trans hu.parameters
  controls := ht.controls.trans hu.controls
  formSets := ht.formSets.trans hu.formSets
  formFields := ht.formFields.trans hu.formFields
  visibilities := ht.visibilities.trans hu.visibilities
  appearances := ht.appearances.trans hu.appearances
  forms := ht.forms.trans hu.forms

theorem OnlyFormsGrow.refl (s : Store) : s.OnlyFormsGrow s :=
  ⟨.refl s, rfl, rfl, rfl, rfl, rfl, rfl, rfl, rfl⟩

theorem OnlyFormsGrow.trans {s t u : Store} (ht : s.OnlyFormsGrow t) (hu : t.OnlyFormsGrow u) :
    s.OnlyFormsGrow u where
  toFormsGrow := ht.toFormsGrow.trans hu.toFormsGrow
  definitions := hu.definitions.trans ht.definitions
  processes := hu.processes.trans ht.processes
  elements := hu.elements.trans ht.elements
  namespaces := hu.namespaces.trans ht.namespaces
  contentModels := hu.contentModels.trans ht.contentModels
  configurations := hu.configurations.trans ht.configurations
  formModules := hu.formModules.trans ht.formModules
  loose := hu.loose.trans ht.loose

end Store

/-- The classes of records that forms consist of. -/
class FormPart (α : Type) [Stored α] : Prop where
  /-- A new record of the class is all that its allocation adds. -/
  onlyFormsGrow_alloc : ∀ (s : Store) (x : α), s.OnlyFormsGrow (s.alloc x).2
  /-- The table of the class is one of those that grow. -/
  extends_of_formsGrow : ∀ {s t : Store}, s.FormsGrow t →
    (Stored.table t : Table α).Extends (Stored.table s)

instance : FormPart ControlParameter where
  onlyFormsGrow_alloc s _ := { Store.OnlyFormsGrow.refl s with parameters := .push _ _ }
  extends_of_formsGrow h := h.parameters

instance : FormPart Control where
  onlyFormsGrow_alloc s _ := { Store.OnlyFormsGrow.refl s with controls := .push _ _ }
  extends_of_formsGrow h := h.controls

instance : FormPart FormSet where
  onlyFormsGrow_alloc s _ := { Store.OnlyFormsGrow.refl s with formSets := .push _ _ }
  extends_of_formsGrow h := h.formSets

instance : FormPart FormField where
  onlyFormsGrow_alloc s _ := { Store.OnlyFormsGrow.refl s with formFields := .push _ _ }
  extends_of_formsGrow h := h.formFields

instance : FormPart Visibility where
  onlyFormsGrow_alloc s _ := { Store.OnlyFormsGrow.refl s with visibilities := .push _ _ }
  extends_of_formsGrow h := h.visibilities

instance : FormPart Appearance where
  onlyFormsGrow_alloc s _ := { Store.OnlyFormsGrow.refl s with appearances := .push _ _ }
  extends_of_formsGrow h := h.appearances

instance : FormPart Form where
  onlyFormsGrow_alloc s _ := { Store.OnlyFormsGrow.refl s with forms := .push _ _ }
  extends_of_formsGrow h := h.forms

namespace Store

variable {α : Type}

theorem Holds.of_formsGrow [Stored α] [FormPart α] {s t : Store} {r : Ref α} {x : α}
    (h : s.Holds r x) (hgrow : s.FormsGrow t) : t.Holds r x :=
  h.of_extends (FormPart.extends_of_formsGrow hgrow)

theorem forall₂_holds_of_formsGrow [Stored α] [FormPart α] {s t : Store} {refs : List (Ref α)}
    {xs : List α} (h : List.Forall₂ s.Holds refs xs) (hgrow : s.FormsGrow t) :
    List.Forall₂ t.Holds refs xs :=
  h.imp fun _ _ hr ↦ hr.of_formsGrow hgrow

end Store

end WorkflowArtifacts
