import Mathlib.Logic.Relation
import WorkflowArtifacts.Proofs.Store.Growth
import WorkflowArtifacts.Store.Item

/-!
# What records consist of

The parts of a record are the records that it refers to, those that stand in the place of its fields
included. A list that was put there leads to the record whose list it is. A store is *closed* if
whatever a record refers to exists, as it does in every store that was only changed by those who
hold the references they use.
-/

namespace WorkflowArtifacts

/-! ## Parts -/

/-- The record that a list belongs to. -/
def Listing.owner : Listing → Entity
  | .steps owner => .definition owner
  | .elements owner => .process owner
  | .namespaces owner => .contentModel owner
  | .imports owner => .contentModel owner
  | .parameters owner => .control owner
  | .shown owner => .visibility owner
  | .hidden owner => .visibility owner
  | .formSets owner => .appearance owner
  | .formFields owner => .appearance owner
  | .forms owner => .configuration owner
  | .configurations owner => .formModule owner

/-- The records that an item leads to at once. -/
def Item.entities : Item → List Entity
  | .entity e => [e]
  | .listing l => [l.owner]
  | .group es => es
  | _ => []

/-- The records that something listed as a field leads to at once. -/
def FieldEntry.entities (s : Store) : FieldEntry → List Entity
  | .field r => [.formField r]
  | .loose r => (s.looseItem r).entities

/-- The place of something listed as a field without being one. -/
def FieldEntry.loose? : FieldEntry → Option LooseRef
  | .field _ => none
  | .loose r => some r

namespace Entity

/-- The records that a record refers to. -/
def parts (s : Store) : Entity → List Entity
  | .process r => ((s.get r).elements.getD []).map .element
  | .contentModel r => ((s.get r).namespaces ++ (s.get r).imports).map .modelNamespace
  | .control r => (s.get r).parameters.map .controlParameter
  | .formField r => (s.get r).control.toList.map .control
  | .appearance r =>
    (s.get r).sets.map .formSet ++ (s.get r).fields.flatMap (FieldEntry.entities s)
  | .form r => [.visibility (s.get r).visibility, .appearance (s.get r).appearance]
  | .configuration r => (s.get r).forms.map .form
  | .formModule r => (s.get r).configurations.map .configuration
  | _ => []

/-- The places of the loose items that a record lists. -/
def looseRefs (s : Store) : Entity → List LooseRef
  | .appearance r => (s.get r).fields.filterMap FieldEntry.loose?
  | _ => []

/-- Whether a record exists. -/
def Exists (s : Store) : Entity → Prop
  | .definition r => s.Allocated r
  | .process r => s.Allocated r
  | .element r => s.Allocated r
  | .modelNamespace r => s.Allocated r
  | .contentModel r => s.Allocated r
  | .controlParameter r => s.Allocated r
  | .control r => s.Allocated r
  | .formSet r => s.Allocated r
  | .formField r => s.Allocated r
  | .visibility r => s.Allocated r
  | .appearance r => s.Allocated r
  | .form r => s.Allocated r
  | .configuration r => s.Allocated r
  | .formModule r => s.Allocated r
  | .settings _ => True

end Entity

/-- Whether whatever is referred to exists. -/
structure Store.Closed (s : Store) : Prop where
  /-- The parts of records exist. -/
  parts : ∀ e : Entity, e.Exists s → ∀ part ∈ e.parts s, part.Exists s
  /-- The loose items that records list are there. -/
  loose : ∀ e : Entity, e.Exists s → ∀ l ∈ e.looseRefs s, l.index < s.loose.size


/-- What the members of a list lead to is part of the record whose list it is. -/
theorem Listing.mem_parts_of_mem_members {s : Store} {l : Listing} {item : Item} {e : Entity}
    (hitem : item ∈ l.members s) (he : e ∈ item.entities) : e ∈ l.owner.parts s := by
  cases l <;> simp only [Listing.members, List.mem_map] at hitem <;>
    obtain ⟨x, hx, rfl⟩ := hitem
  case formFields r =>
    refine List.mem_append_right _ (List.mem_flatMap.2 ⟨x, hx, ?_⟩)
    cases x <;> exact he
  case steps | shown | hidden => exact absurd he List.not_mem_nil
  case namespaces =>
    rw [List.mem_singleton.1 he]
    exact List.mem_map_of_mem (List.mem_append_left _ hx)
  case imports =>
    rw [List.mem_singleton.1 he]
    exact List.mem_map_of_mem (List.mem_append_right _ hx)
  case formSets =>
    rw [List.mem_singleton.1 he]
    exact List.mem_append_left _ (List.mem_map_of_mem hx)
  all_goals
    rw [List.mem_singleton.1 he]
    exact List.mem_map_of_mem hx

theorem Store.closed_empty : Store.empty.Closed where
  parts e he := by cases e <;> first | exact absurd he (Nat.not_lt_zero _) | exact nofun
  loose e he := by cases e <;> first | exact absurd he (Nat.not_lt_zero _) | exact nofun

namespace Entity

/-! ## Reachable records -/

/-- Whether a record leads to another one, at once or through others. It leads to itself. -/
def Reaches (s : Store) : Entity → Entity → Prop :=
  Relation.ReflTransGen fun e part ↦ part ∈ e.parts s

/-- Whether a record is the same in two stores, the loose items that it lists included. -/
def Same (s t : Store) : Entity → Prop
  | .definition r => t.get r = s.get r
  | .process r => t.get r = s.get r
  | .element r => t.get r = s.get r
  | .modelNamespace r => t.get r = s.get r
  | .contentModel r => t.get r = s.get r
  | .controlParameter r => t.get r = s.get r
  | .control r => t.get r = s.get r
  | .formSet r => t.get r = s.get r
  | .formField r => t.get r = s.get r
  | .visibility r => t.get r = s.get r
  | .appearance r =>
    t.get r = s.get r ∧ ∀ l ∈ (Entity.appearance r).looseRefs s, t.looseItem l = s.looseItem l
  | .form r => t.get r = s.get r
  | .configuration r => t.get r = s.get r
  | .formModule r => t.get r = s.get r
  | .settings _ => True

variable {s t u : Store} {e x : Entity}

theorem Same.refl (s : Store) (e : Entity) : e.Same s s := by
  cases e with
  | appearance r => exact ⟨rfl, fun _ _ ↦ rfl⟩
  | settings value => trivial
  | _ => rfl

theorem Same.trans (h : e.Same s t) (h' : e.Same t u) : e.Same s u := by
  cases e with
  | appearance r =>
    refine ⟨h'.1.trans h.1, fun l hl ↦ (h'.2 l ?_).trans (h.2 l hl)⟩
    rw [looseRefs, h.1]
    exact hl
  | settings value => trivial
  | _ => exact Eq.trans h' h

/-- What is the same has the same parts. -/
theorem Same.parts_eq (h : e.Same s t) : e.parts t = e.parts s := by
  cases e with
  | appearance r =>
    rw [parts, parts, h.1]
    congr 1
    refine List.flatMap_congr fun entry hentry ↦ ?_
    cases entry with
    | field r => rfl
    | loose l =>
      exact congrArg Item.entities (h.2 l (List.mem_filterMap.2 ⟨.loose l, hentry, rfl⟩))
  | process r => rw [parts, parts, show t.get r = s.get r from h]
  | contentModel r => rw [parts, parts, show t.get r = s.get r from h]
  | control r => rw [parts, parts, show t.get r = s.get r from h]
  | formField r => rw [parts, parts, show t.get r = s.get r from h]
  | form r => rw [parts, parts, show t.get r = s.get r from h]
  | configuration r => rw [parts, parts, show t.get r = s.get r from h]
  | formModule r => rw [parts, parts, show t.get r = s.get r from h]
  | _ => rfl

/-- What is the same has the same members in its lists. -/
theorem Same.members_eq {l : Listing} (h : l.owner.Same s t) : l.members t = l.members s := by
  cases l with
  | formFields r =>
    obtain ⟨hget, hloose⟩ := h
    rw [Listing.members, Listing.members, hget]
    refine List.map_congr_left fun entry hentry ↦ ?_
    cases entry with
    | field x => rfl
    | loose l => exact hloose l (List.mem_filterMap.2 ⟨.loose l, hentry, rfl⟩)
  | formSets r => rw [Listing.members, Listing.members, h.1]
  | _ r => rw [Listing.members, Listing.members, show t.get r = s.get r from h]

theorem Same.looseRefs_eq (h : e.Same s t) : e.looseRefs t = e.looseRefs s := by
  cases e with
  | appearance r => rw [looseRefs, looseRefs, h.1]
  | _ => rfl

namespace Reaches

theorem refl (s : Store) (e : Entity) : e.Reaches s e := Relation.ReflTransGen.refl

theorem of_part {part : Entity} (h : part ∈ e.parts s) : e.Reaches s part := .single h

theorem tail {y : Entity} (h : e.Reaches s x) (hy : y ∈ x.parts s) : e.Reaches s y :=
  Relation.ReflTransGen.tail h hy

theorem trans {y : Entity} (h : e.Reaches s x) (h' : x.Reaches s y) : e.Reaches s y :=
  Relation.ReflTransGen.trans h h'

/-- What leads somewhere else does so through one of its parts. -/
theorem eq_or_exists_part (h : e.Reaches s x) : e = x ∨ ∃ part ∈ e.parts s, part.Reaches s x := by
  rcases Relation.ReflTransGen.cases_head h with heq | ⟨part, hpart, hrest⟩
  · exact .inl heq
  · exact .inr ⟨part, hpart, hrest⟩

/-- Where everything that a record leads to has its parts again, the record leads to the same. -/
theorem congr (hparts : ∀ y, e.Reaches s y → y.parts t = y.parts s) :
    e.Reaches t x ↔ e.Reaches s x := by
  constructor <;> intro h
  · induction h with
    | refl => exact refl s e
    | tail _ hx ih => exact ih.tail (hparts _ ih ▸ hx)
  · induction h with
    | refl => exact refl t e
    | tail hy hx ih => exact ih.tail ((hparts _ hy).symm ▸ hx)

/-- In a closed store, what exists leads to what exists. -/
theorem exists_of_closed (h : e.Reaches s x) (hs : s.Closed) (he : e.Exists s) : x.Exists s := by
  induction h with
  | refl => exact he
  | tail _ hx ih => exact hs.parts _ ih _ hx

end Reaches

/-! ## Records that are kept -/

/-- Whether a record and all that it leads to are the same in two stores. -/
def Kept (s t : Store) (e : Entity) : Prop := ∀ x, e.Reaches s x → x.Same s t

namespace Kept

theorem refl (s : Store) (e : Entity) : e.Kept s s := fun x _ ↦ .refl s x

theorem of_reaches (h : e.Kept s t) (hx : e.Reaches s x) : x.Kept s t :=
  fun y hy ↦ h y (hx.trans hy)

/-- What is kept leads to what it led to. -/
theorem reaches_iff (h : e.Kept s t) : e.Reaches t x ↔ e.Reaches s x :=
  Reaches.congr fun y hy ↦ (h y hy).parts_eq

theorem trans {u : Store} (h : e.Kept s t) (h' : e.Kept t u) : e.Kept s u :=
  fun x hx ↦ (h x hx).trans (h' x (h.reaches_iff.2 hx))

end Kept

end Entity

/-! ## Changes to records of one class -/

/-- The classes of records, each with the records that it stands for. A change to the table of a
class is only seen at records of the class. -/
class Recorded (α : Type) [Stored α] where
  /-- The record at a reference. -/
  entity : Ref α → Entity
  /-- A record exists if its reference has been handed out. -/
  exists_entity : ∀ {s : Store} {r : Ref α}, (entity r).Exists s ↔ s.Allocated r := by
    intros; exact Iff.rfl
  /-- It is the same if it reads the same and nothing loose has changed. -/
  same_entity : ∀ {s t : Store} {r : Ref α}, t.loose = s.loose → t.get r = s.get r →
    (entity r).Same s t := by
    intro _ _ _ _ h; exact h
  /-- The table of the class decides on the existence of no other records. -/
  exists_withTable : ∀ {s : Store} {table : Table α} {e : Entity}, (∀ r, e ≠ entity r) →
    (e.Exists (Stored.withTable s table) ↔ e.Exists s) := by
    intro _ _ e h; cases e <;> first | exact absurd rfl (h _) | exact Iff.rfl
  /-- Nor does it hold any others. -/
  same_withTable : ∀ {s : Store} {table : Table α} {e : Entity}, (∀ r, e ≠ entity r) →
    e.Same s (Stored.withTable s table) := by
    intro _ _ e h
    cases e <;> first
      | exact absurd rfl (h _) | exact rfl | exact trivial | exact ⟨rfl, fun _ _ ↦ rfl⟩
  /-- Loose items are kept elsewhere. -/
  loose_withTable : ∀ {s : Store} {table : Table α},
      (Stored.withTable s table).loose = s.loose := by
    intros; rfl

instance : Recorded Definition where
  entity := .definition

instance : Recorded Process where
  entity := .process

instance : Recorded Element where
  entity := .element

instance : Recorded ModelNamespace where
  entity := .modelNamespace

instance : Recorded ContentModel where
  entity := .contentModel

instance : Recorded ControlParameter where
  entity := .controlParameter

instance : Recorded Control where
  entity := .control

instance : Recorded FormSet where
  entity := .formSet

instance : Recorded FormField where
  entity := .formField

instance : Recorded Visibility where
  entity := .visibility

instance : Recorded Appearance where
  entity := .appearance
  same_entity := by
    intro s t r hloose h
    exact ⟨h, fun l _ ↦ by rw [Store.looseItem, Store.looseItem, hloose]⟩

instance : Recorded Form where
  entity := .form

instance : Recorded Configuration where
  entity := .configuration

instance : Recorded FormModule where
  entity := .formModule

namespace Store

section

variable {α : Type} [Stored α] [Recorded α] {s : Store} {e : Entity}

/-- Allocation brings about the new record only. -/
theorem exists_alloc {x : α} :
    e.Exists (s.alloc x).2 ↔ e.Exists s ∨ e = Recorded.entity (s.alloc x).1 := by
  by_cases he : ∃ r : Ref α, e = Recorded.entity r
  · obtain ⟨r, rfl⟩ := he
    rw [Recorded.exists_entity, Recorded.exists_entity]
    have hsize : (s.alloc x).2.Allocated r ↔ r.index < (Stored.table s : Table α).size + 1 := by
      rw [Allocated, Table.Allocated, alloc, Stored.table_withTable, Table.size_push]
    constructor
    · intro h
      rcases Nat.lt_succ_iff_lt_or_eq.1 (hsize.1 h) with hold | hnew
      · exact .inl hold
      · exact .inr (congrArg Recorded.entity (Ref.ext_iff.2 hnew))
    · rintro (h | h)
      · exact hsize.2 (Nat.lt_succ_of_lt h)
      · rw [← Recorded.exists_entity, h, Recorded.exists_entity]
        exact (s.holds_alloc x).1
  · have hother (r : Ref α) : e ≠ Recorded.entity r := fun h ↦ he ⟨r, h⟩
    rw [alloc, Recorded.exists_withTable hother]
    exact ⟨.inl, fun h ↦ h.resolve_right (hother _)⟩

theorem not_exists_alloc (s : Store) (x : α) :
    ¬ (Recorded.entity (s.alloc x).1).Exists s :=
  fun h ↦ s.not_allocated_alloc x (Recorded.exists_entity.1 h)

theorem same_alloc (he : e.Exists s) (x : α) : e.Same s (s.alloc x).2 := by
  by_cases hclass : ∃ r : Ref α, e = Recorded.entity r
  · obtain ⟨r, rfl⟩ := hclass
    exact Recorded.same_entity Recorded.loose_withTable
      (get_alloc_of_allocated (Recorded.exists_entity.1 he) x)
  · exact Recorded.same_withTable fun r h ↦ hclass ⟨r, h⟩

theorem loose_alloc (s : Store) (x : α) : (s.alloc x).2.loose = s.loose :=
  Recorded.loose_withTable

/-- Changes neither make records nor lose any. -/
theorem exists_modify {r : Ref α} {f : α → α} : e.Exists (s.modify r f) ↔ e.Exists s := by
  by_cases hclass : ∃ q : Ref α, e = Recorded.entity q
  · obtain ⟨q, rfl⟩ := hclass
    rw [Recorded.exists_entity, Recorded.exists_entity, Allocated, Allocated, Table.Allocated,
      Table.Allocated, modify, set, Stored.table_withTable, Table.size_set]
  · exact Recorded.exists_withTable fun q h ↦ hclass ⟨q, h⟩

theorem same_modify {r : Ref α} (he : e ≠ Recorded.entity r) (f : α → α) :
    e.Same s (s.modify r f) := by
  by_cases hclass : ∃ q : Ref α, e = Recorded.entity q
  · obtain ⟨q, rfl⟩ := hclass
    exact Recorded.same_entity Recorded.loose_withTable
      (get_set_of_ne s (fun h ↦ he (congrArg Recorded.entity h)) _)
  · exact Recorded.same_withTable fun q h ↦ hclass ⟨q, h⟩

theorem loose_modify (s : Store) (r : Ref α) (f : α → α) : (s.modify r f).loose = s.loose :=
  Recorded.loose_withTable

end

end Store

end WorkflowArtifacts
