import WorkflowArtifacts.FormModule.DetailsForm
import WorkflowArtifacts.Proofs.Store.Growth
import WorkflowArtifacts.Proofs.Store.Reach
import WorkflowArtifacts.Store.Writing

/-!
# Stores with gaps

Two computations that do the same may leave stores behind that differ in records which nobody refers
to, because one of them has made some records in vain. Then the tables of these records have a gap:
from some position on, all positions are higher by the same number. `Store.Gapped` relates a store
to one with such gaps in the tables of content models, namespaces and form modules; all other tables
are the same, up to the references in what is loose.

Positions beyond the end of a table are moved over the gap as well. So what is next in the one store
is next in the other, and whoever makes records in both stores alike keeps them related without ever
looking at the gap.

## Computations

`Build.Transfers` says of a pair of computations that they keep two stores related and give results
that are related by a function. The rules go along the shape of computations, so a computation that
is made of such steps is shown to transfer without a look into the store.
-/

namespace WorkflowArtifacts

/-! ## Tables -/

/-- A gap among the positions of a table. -/
structure Gap where
  /-- The first position of the gap. -/
  start : Nat
  /-- The number of positions in it. -/
  width : Nat

namespace Gap

variable {α : Type}

/-- A reference, moved over the gap if need be. -/
def shift (g : Gap) (r : Ref α) : Ref α := if r.index < g.start then r else ⟨r.index + g.width⟩

theorem shift_of_lt {g : Gap} {r : Ref α} (h : r.index < g.start) : g.shift r = r := if_pos h

theorem index_shift_of_le {g : Gap} {r : Ref α} (h : g.start ≤ r.index) :
    (g.shift r).index = r.index + g.width := by
  rw [shift, if_neg (Nat.not_lt.2 h)]

theorem shift_injective (g : Gap) : Function.Injective (g.shift : Ref α → Ref α) := by
  intro r q h
  have hindex := congrArg Ref.index h
  by_cases hr : r.index < g.start <;> by_cases hq : q.index < g.start
  · rwa [shift_of_lt hr, shift_of_lt hq] at h
  · rw [shift_of_lt hr, index_shift_of_le (Nat.not_lt.1 hq)] at hindex
    omega
  · rw [shift_of_lt hq, index_shift_of_le (Nat.not_lt.1 hr)] at hindex
    omega
  · rw [index_shift_of_le (Nat.not_lt.1 hr), index_shift_of_le (Nat.not_lt.1 hq)] at hindex
    exact Ref.ext_iff.2 (by omega)

end Gap

namespace Table

variable {α : Type} [Inhabited α]

theorem get_of_not_allocated {t : Table α} {r : Ref α} (h : ¬ t.Allocated r) :
    t.get r = default := by
  have hsize : t.rows.size ≤ r.index := Nat.le_of_not_lt h
  rw [get, Array.getD, dif_neg (Nat.not_lt.2 hsize)]

/-- A new record that reads like one that was never made is not told from one. -/
theorem get_push_default (t : Table α) (r : Ref α) :
    (t.push default).get r = t.get r := by
  by_cases h : r.index = t.rows.size <;> simp [get, push, Array.getElem?_push, h]

/-- Whether a table is another one with a gap, where references in its records are moved by `f`. -/
structure Gapped (g : Gap) (f : α → α) (t u : Table α) : Prop where
  /-- The gap does not begin beyond the end. -/
  start_le : g.start ≤ t.size
  /-- The gap is all that the table has more. -/
  size_eq : u.size = t.size + g.width
  /-- Beyond the gap there is what there was. -/
  get_eq : ∀ r, u.get (g.shift r) = f (t.get r)

namespace Gapped

variable {g : Gap} {f : α → α} {t u : Table α}

theorem allocated_iff (h : Gapped g f t u) {r : Ref α} :
    u.Allocated (g.shift r) ↔ t.Allocated r := by
  rw [Allocated, Allocated, h.size_eq]
  have hstart := h.start_le
  by_cases hr : r.index < g.start
  · rw [Gap.shift_of_lt hr]
    omega
  · rw [Gap.index_shift_of_le (Nat.not_lt.1 hr)]
    omega

/-- What is next in the one table is next in the other. -/
theorem next_eq (h : Gapped g f t u) : u.next = g.shift t.next := by
  have hindex : (g.shift t.next).index = t.size + g.width := Gap.index_shift_of_le h.start_le
  exact Ref.ext_iff.2 (by rw [hindex, next, h.size_eq])

theorem push (h : Gapped g f t u) (x : α) : Gapped g f (t.push x) (u.push (f x)) where
  start_le := by
    rw [size_push]
    exact Nat.le_succ_of_le h.start_le
  size_eq := by
    rw [size_push, size_push, h.size_eq]
    omega
  get_eq r := by
    by_cases hr : r = t.next
    · rw [hr, ← h.next_eq, get_push_next, get_push_next]
    · by_cases hallocated : t.Allocated r
      · rw [get_push_of_allocated hallocated, get_push_of_allocated (h.allocated_iff.2 hallocated),
          h.get_eq]
      · -- beyond the end there is nothing in either table
        have hmore (v : Table α) (q : Ref α) (hq : ¬ v.Allocated q) (hnext : q ≠ v.next) (y : α) :
            (v.push y).get q = v.get q := by
          have hpushed : ¬ (v.push y).Allocated q := by
            intro h
            rw [Allocated, size_push] at h
            exact hnext (Ref.ext_iff.2
              (Nat.le_antisymm (Nat.le_of_lt_succ h) (Nat.le_of_not_lt hq)))
          rw [get_of_not_allocated hpushed, get_of_not_allocated hq]
        have hshift : g.shift r ≠ u.next := by
          rw [h.next_eq]
          exact fun heq ↦ hr (g.shift_injective heq)
        rw [hmore t r hallocated hr, hmore u _ (fun hq ↦ hallocated (h.allocated_iff.1 hq)) hshift,
          h.get_eq]

theorem set (h : Gapped g f t u) (r : Ref α) (x : α) :
    Gapped g f (t.set r x) (u.set (g.shift r) (f x)) where
  start_le := by
    rw [size_set]
    exact h.start_le
  size_eq := by rw [size_set, size_set, h.size_eq]
  get_eq q := by
    by_cases hallocated : t.Allocated r
    · by_cases hq : q = r
      · rw [hq, get_set_self hallocated, get_set_self (h.allocated_iff.2 hallocated)]
      · rw [get_set_of_ne _ hq, get_set_of_ne _ fun heq ↦ hq (g.shift_injective heq), h.get_eq]
    · rw [set_of_not_allocated hallocated,
        set_of_not_allocated fun hq ↦ hallocated (h.allocated_iff.1 hq), h.get_eq]

/-- A table that goes on from another one has a gap at its end. -/
theorem of_extends (hgrow : u.Extends t) (hf : ∀ r, t.Allocated r → f (t.get r) = t.get r)
    (hdefault : f default = default) : Gapped ⟨t.size, u.size - t.size⟩ f t u where
  start_le := Nat.le_refl _
  size_eq := (Nat.add_sub_cancel' hgrow.size_le).symm
  get_eq r := by
    by_cases hr : t.Allocated r
    · have hlt : r.index < t.size := hr
      rw [Gap.shift_of_lt hlt, hgrow.get hr, hf r hr]
    · have hsize : t.size ≤ r.index := Nat.le_of_not_lt hr
      have hshift : ¬ u.Allocated (Gap.shift ⟨t.size, u.size - t.size⟩ r) := by
        rw [Allocated, Gap.index_shift_of_le hsize]
        have hle := hgrow.size_le
        dsimp only
        omega
      rw [get_of_not_allocated hr, get_of_not_allocated hshift, hdefault]

end Gapped

end Table

/-! ## Stores -/

/-- The gaps in the tables of content models, of namespaces and of form modules. -/
structure Gaps where
  /-- The gap among the content models. -/
  contentModels : Gap
  /-- The gap among the namespaces. -/
  namespaces : Gap
  /-- The gap among the form modules. -/
  formModules : Gap

namespace Gaps

variable (g : Gaps)

/-- A content model, its references moved. -/
def contentModel (m : ContentModel) : ContentModel :=
  { m with
    namespaces := m.namespaces.map g.namespaces.shift
    imports := m.imports.map g.namespaces.shift }

/-- A record of any class, moved. -/
def entity : Entity → Entity
  | .modelNamespace r => .modelNamespace (g.namespaces.shift r)
  | .contentModel r => .contentModel (g.contentModels.shift r)
  | .formModule r => .formModule (g.formModules.shift r)
  | e => e

/-- A list of a record, moved with its owner. -/
def listing : Listing → Listing
  | .namespaces owner => .namespaces (g.contentModels.shift owner)
  | .imports owner => .imports (g.contentModels.shift owner)
  | .configurations owner => .configurations (g.formModules.shift owner)
  | l => l

/-- An item, moved if it is a record or a list of one. -/
def item : Item → Item
  | .data j => .data j
  | .tag kind => .tag kind
  | .entity e => .entity (g.entity e)
  | .listing l => .listing (g.listing l)
  | .group es => .group (es.map g.entity)

end Gaps

/-- Whether a store is another one with gaps. -/
structure Store.Gapped (g : Gaps) (s t : Store) : Prop where
  /-- The definitions are the same. -/
  definitions : t.definitions = s.definitions
  /-- The processes are the same. -/
  processes : t.processes = s.processes
  /-- The elements are the same. -/
  elements : t.elements = s.elements
  /-- The parameters of controls are the same. -/
  parameters : t.parameters = s.parameters
  /-- The controls are the same. -/
  controls : t.controls = s.controls
  /-- The sets are the same. -/
  formSets : t.formSets = s.formSets
  /-- The fields are the same. -/
  formFields : t.formFields = s.formFields
  /-- The visibilities are the same. -/
  visibilities : t.visibilities = s.visibilities
  /-- The appearances are the same. -/
  appearances : t.appearances = s.appearances
  /-- The forms are the same. -/
  forms : t.forms = s.forms
  /-- The configurations are the same. -/
  configurations : t.configurations = s.configurations
  /-- The namespaces have a gap. -/
  namespaces : s.namespaces.Gapped g.namespaces id t.namespaces
  /-- The content models have one, and refer to namespaces. -/
  contentModels : s.contentModels.Gapped g.contentModels g.contentModel t.contentModels
  /-- The form modules have one. -/
  formModules : s.formModules.Gapped g.formModules id t.formModules
  /-- What is loose is the same, moved. -/
  loose : t.loose.rows = s.loose.rows.map g.item

/-- The classes of records whose tables have no gaps. -/
class Compact (α : Type) [Stored α] : Prop where
  /-- Their tables are the same. -/
  table_eq : ∀ {g : Gaps} {s t : Store}, s.Gapped g t →
    (Stored.table t : Table α) = Stored.table s
  /-- A change to both tables makes no difference. -/
  gapped_withTable : ∀ {g : Gaps} {s t : Store}, s.Gapped g t → ∀ u : Table α,
    (Stored.withTable s u).Gapped g (Stored.withTable t u)

instance : Compact Definition where
  table_eq h := h.definitions
  gapped_withTable h _ := { h with definitions := rfl }

instance : Compact Process where
  table_eq h := h.processes
  gapped_withTable h _ := { h with processes := rfl }

instance : Compact Element where
  table_eq h := h.elements
  gapped_withTable h _ := { h with elements := rfl }

instance : Compact ControlParameter where
  table_eq h := h.parameters
  gapped_withTable h _ := { h with parameters := rfl }

instance : Compact Control where
  table_eq h := h.controls
  gapped_withTable h _ := { h with controls := rfl }

instance : Compact FormSet where
  table_eq h := h.formSets
  gapped_withTable h _ := { h with formSets := rfl }

instance : Compact FormField where
  table_eq h := h.formFields
  gapped_withTable h _ := { h with formFields := rfl }

instance : Compact Visibility where
  table_eq h := h.visibilities
  gapped_withTable h _ := { h with visibilities := rfl }

instance : Compact Appearance where
  table_eq h := h.appearances
  gapped_withTable h _ := { h with appearances := rfl }

instance : Compact Form where
  table_eq h := h.forms
  gapped_withTable h _ := { h with forms := rfl }

instance : Compact Configuration where
  table_eq h := h.configurations
  gapped_withTable h _ := { h with configurations := rfl }

namespace Store.Gapped

variable {g : Gaps} {s t : Store}

theorem get_eq {α : Type} [Stored α] [Compact α] (h : s.Gapped g t) (r : Ref α) :
    t.get r = s.get r := by
  rw [get, get, Compact.table_eq h]

theorem get_namespace (h : s.Gapped g t) (r : Ref ModelNamespace) :
    t.get (g.namespaces.shift r) = s.get r :=
  h.namespaces.get_eq r

theorem get_contentModel (h : s.Gapped g t) (r : Ref ContentModel) :
    t.get (g.contentModels.shift r) = g.contentModel (s.get r) :=
  h.contentModels.get_eq r

theorem get_formModule (h : s.Gapped g t) (r : Ref FormModule) :
    t.get (g.formModules.shift r) = s.get r :=
  h.formModules.get_eq r

theorem looseItem_eq (h : s.Gapped g t) (r : LooseRef) :
    t.looseItem r = g.item (s.looseItem r) := by
  rw [looseItem, looseItem, Table.get, Table.get, h.loose, Array.getD_eq_getD_getElem?,
    Array.getD_eq_getD_getElem?, Array.getElem?_map]
  cases s.loose.rows[r.index]? <;> rfl

theorem modify_formModule (h : s.Gapped g t) (r : Ref FormModule) (f : FormModule → FormModule) :
    (s.modify r f).Gapped g (t.modify (g.formModules.shift r) f) := by
  rw [modify, modify, h.get_formModule]
  exact { h with formModules := h.formModules.set r (f (s.get r)) }

end Store.Gapped

/-! ## A store that has more -/

/-- Whether a record exists, if it is of one of the classes whose tables may have gaps. -/
def Entity.IsAnchored (s : Store) : Entity → Prop
  | .modelNamespace r => s.Allocated r
  | .contentModel r => s.Allocated r
  | .formModule r => s.Allocated r
  | _ => True

/-- Whether what refers to namespaces, content models and form modules from within the store refers
to existing ones. -/
structure Store.IsAnchored (s : Store) : Prop where
  /-- Content models refer to existing namespaces. -/
  contentModels : ∀ r : Ref ContentModel, s.Allocated r →
    ∀ n ∈ (s.get r).namespaces ++ (s.get r).imports, s.Allocated n
  /-- Loose items lead to what exists. -/
  loose : ∀ item ∈ s.loose.rows, ∀ e ∈ item.entities, e.IsAnchored s

namespace Store

/-- The gaps that are left where a store has more content models, namespaces and form modules than
another one. -/
def gapsTo (s t : Store) : Gaps where
  contentModels := ⟨s.contentModels.size, t.contentModels.size - s.contentModels.size⟩
  namespaces := ⟨s.namespaces.size, t.namespaces.size - s.namespaces.size⟩
  formModules := ⟨s.formModules.size, t.formModules.size - s.formModules.size⟩

/-- What exists is not moved. -/
theorem gapsTo_entity {s : Store} {e : Entity} (h : e.IsAnchored s) (t : Store) :
    (s.gapsTo t).entity e = e := by
  cases e with
  | modelNamespace r => exact congrArg Entity.modelNamespace (Gap.shift_of_lt h)
  | contentModel r => exact congrArg Entity.contentModel (Gap.shift_of_lt h)
  | formModule r => exact congrArg Entity.formModule (Gap.shift_of_lt h)
  | _ => rfl

theorem gapsTo_item {s : Store} {item : Item} (h : ∀ e ∈ item.entities, e.IsAnchored s)
    (t : Store) : (s.gapsTo t).item item = item := by
  cases item with
  | data j => rfl
  | tag kind => rfl
  | entity e => exact congrArg Item.entity (gapsTo_entity (h e (List.mem_singleton_self e)) t)
  | listing l =>
    have howner := h l.owner (List.mem_singleton_self _)
    refine congrArg Item.listing ?_
    cases l with
    | namespaces r => exact congrArg Listing.namespaces (Gap.shift_of_lt howner)
    | imports r => exact congrArg Listing.imports (Gap.shift_of_lt howner)
    | configurations r => exact congrArg Listing.configurations (Gap.shift_of_lt howner)
    | _ => rfl
  | group es =>
    exact congrArg Item.group ((List.map_congr_left fun e he ↦ gapsTo_entity (h e he) t).trans
      (List.map_id' es))

/-- A store that has nothing but more of these records is the former one with gaps. -/
theorem gapped_gapsTo {s t : Store} (hs : s.IsAnchored)
    (hstore : t = { s with contentModels := t.contentModels, namespaces := t.namespaces,
                           formModules := t.formModules })
    (hmodels : t.contentModels.Extends s.contentModels)
    (hnamespaces : t.namespaces.Extends s.namespaces)
    (hmodules : t.formModules.Extends s.formModules) : s.Gapped (s.gapsTo t) t := by
  have hmodel (r : Ref ContentModel) (hr : s.contentModels.Allocated r) :
      (s.gapsTo t).contentModel (s.contentModels.get r) = s.contentModels.get r := by
    have hshift (n : Ref ModelNamespace) (hn : s.Allocated n) :
        (s.gapsTo t).namespaces.shift n = n :=
      Gap.shift_of_lt hn
    have hrefs := hs.contentModels r hr
    change ∀ n ∈ (s.contentModels.get r).namespaces ++ (s.contentModels.get r).imports, _ at hrefs
    simp only [List.mem_append] at hrefs
    rw [Gaps.contentModel, List.map_congr_left fun n hn ↦ hshift n (hrefs n (.inl hn)),
      List.map_congr_left fun n hn ↦ hshift n (hrefs n (.inr hn)), List.map_id', List.map_id']
  rw [hstore]
  exact
    { definitions := rfl
      processes := rfl
      elements := rfl
      parameters := rfl
      controls := rfl
      formSets := rfl
      formFields := rfl
      visibilities := rfl
      appearances := rfl
      forms := rfl
      configurations := rfl
      namespaces := .of_extends hnamespaces (fun _ _ ↦ rfl) rfl
      contentModels := .of_extends hmodels hmodel rfl
      formModules := .of_extends hmodules (fun _ _ ↦ rfl) rfl
      loose := by
        refine Array.ext (Array.size_map).symm fun i hi _ ↦ ?_
        rw [Array.getElem_map]
        exact (gapsTo_item (hs.loose _ (Array.getElem_mem hi)) t).symm }

end Store

/-! ## Computations over the store -/

namespace Build

variable {α β γ δ : Type} {g : Gaps}

/-- Whether two computations keep stores with gaps related, where the results of the second are
those of the first under a function. -/
def Transfers (g : Gaps) (f : α → β) (action : Build α) (other : Build β) : Prop :=
  ∀ s t : Store, s.Gapped g t →
    (other t).1 = f (action s).1 ∧ (action s).2.Gapped g (other t).2

namespace Transfers

theorem pure (f : α → β) (a : α) : Transfers g f (Pure.pure a) (Pure.pure (f a)) :=
  fun _ _ h ↦ ⟨rfl, h⟩

theorem bind {f : α → β} {f' : γ → δ} {action : Build α} {other : Build β} {next : α → Build γ}
    {next' : β → Build δ} (h : Transfers g f action other)
    (hnext : ∀ a, Transfers g f' (next a) (next' (f a))) :
    Transfers g f' (action >>= next) (other >>= next') := by
  intro s t hst
  obtain ⟨hresult, hstores⟩ := h s t hst
  rw [Build.bind_apply, Build.bind_apply, hresult]
  exact hnext _ _ _ hstores

theorem map {f' : γ → δ} {action : Build α} (k : α → γ) (h : Transfers g id action action)
    (k' : α → δ) (hk : ∀ a, k' a = f' (k a)) : Transfers g f' (k <$> action) (k' <$> action) := by
  intro s t hst
  obtain ⟨hresult, hstores⟩ := h s t hst
  exact ⟨(congrArg k' hresult).trans (hk _), hstores⟩

theorem mapM {f : β → γ} {action : α → Build β} {other : α → Build γ}
    (h : ∀ a, Transfers g f (action a) (other a)) (xs : List α) :
    Transfers g (List.map f) (xs.mapM action) (xs.mapM other) := by
  induction xs with
  | nil => exact pure (List.map f) []
  | cons x xs ih =>
    rw [List.mapM_cons, List.mapM_cons]
    exact bind (h x) fun _ ↦ bind ih fun _ ↦ pure (List.map f) _

theorem mapM_id {action : α → Build β} (h : ∀ a, Transfers g id (action a) (action a))
    (xs : List α) : Transfers g id (xs.mapM action) (xs.mapM action) := by
  have hxs := mapM h xs
  rwa [List.map_id_fun] at hxs

theorem alloc [Stored α] [Compact α] (x : α) : Transfers g id (Build.alloc x) (Build.alloc x) := by
  intro s t h
  have htable : (Stored.table t : Table α) = Stored.table s := Compact.table_eq h
  refine ⟨?_, ?_⟩
  · change (Stored.table t : Table α).next = (Stored.table s : Table α).next
    rw [htable]
  · change (Stored.withTable s _).Gapped g (Stored.withTable t _)
    rw [htable]
    exact Compact.gapped_withTable h _

theorem fetch [Stored α] [Compact α] (r : Ref α) :
    Transfers g id (Build.fetch r) (Build.fetch r) :=
  fun _ _ h ↦ ⟨h.get_eq r, h⟩

theorem update [Stored α] [Compact α] (r : Ref α) (f : α → α) :
    Transfers g id (Build.update r f) (Build.update r f) := by
  intro s t h
  refine ⟨rfl, ?_⟩
  have htable : (Stored.table t : Table α) = Stored.table s := Compact.table_eq h
  change (Stored.withTable s _).Gapped g (Stored.withTable t ((Stored.table t).set r (f (t.get r))))
  rw [htable, h.get_eq]
  exact Compact.gapped_withTable h _

/-! ### Records whose tables have gaps -/

theorem alloc_namespace (n : ModelNamespace) :
    Transfers g g.namespaces.shift (Build.alloc n) (Build.alloc n) :=
  fun _ _ h ↦ ⟨h.namespaces.next_eq, { h with namespaces := h.namespaces.push n }⟩

theorem alloc_contentModel (m : ContentModel) :
    Transfers g g.contentModels.shift (Build.alloc m) (Build.alloc (g.contentModel m)) :=
  fun _ _ h ↦ ⟨h.contentModels.next_eq, { h with contentModels := h.contentModels.push m }⟩

theorem alloc_formModule (m : FormModule) :
    Transfers g g.formModules.shift (Build.alloc m) (Build.alloc m) :=
  fun _ _ h ↦ ⟨h.formModules.next_eq, { h with formModules := h.formModules.push m }⟩

theorem update_contentModel (r : Ref ContentModel) {f f' : ContentModel → ContentModel}
    (hf : ∀ m, f' (g.contentModel m) = g.contentModel (f m)) :
    Transfers g id (Build.update r f) (Build.update (g.contentModels.shift r) f') := by
  intro s t h
  refine ⟨rfl, ?_⟩
  change (Stored.withTable s _).Gapped g
    (Stored.withTable t ((Stored.table t).set _ (f' (t.get (g.contentModels.shift r)))))
  rw [h.get_contentModel, hf]
  exact { h with contentModels := h.contentModels.set r (f (s.get r)) }

theorem append_formModule (owner : Ref FormModule) (part : Ref Configuration) :
    Transfers g id (FormModule.append owner part)
      (FormModule.append (g.formModules.shift owner) part) :=
  fun _ _ h ↦
    ⟨rfl, h.modify_formModule owner fun m ↦ { m with configurations := m.configurations ++ [part] }⟩

end Transfers

/-! ### Parts of form modules -/

theorem transfers_control (document : Json) :
    Transfers g id (Control.load document) (Control.load document) :=
  .bind (.mapM_id (fun _ ↦ .alloc _) _) fun _ ↦ .alloc _

theorem transfers_formField (document : Json) :
    Transfers g id (FormField.load document) (FormField.load document) := by
  rw [FormField.load]
  cases document.get "control" with
  | null => exact .bind (.pure id none) fun _ ↦ .alloc _
  | _ => exact .bind (.map some (transfers_control _) some fun _ ↦ rfl) fun _ ↦ .alloc _

theorem transfers_form (document : Json) :
    Transfers g id (Form.load document) (Form.load document) := by
  have happearance (document : Json) :
      Transfers g id (Appearance.load document) (Appearance.load document) :=
    .bind (.mapM_id (fun _ ↦ .alloc _) _) fun _ ↦
      .bind (.mapM_id transfers_formField _) fun _ ↦ .alloc _
  exact .bind (.alloc _) fun _ ↦ .bind (happearance _) fun _ ↦ .alloc _

theorem transfers_configuration (document : Json) :
    Transfers g id (Configuration.load document) (Configuration.load document) :=
  .bind (.mapM_id transfers_form _) fun _ ↦ .alloc _

/-- The making of a part from a document transfers, be the document refused or not, if the making
from an accepted document does and so does the appending of the part. -/
theorem transfers_makePart {cls : RecordClass} {request : Json} {load : Json → Build (Ref α)}
    {append append' : Ref α → Build Unit}
    (hload : ∀ document, Transfers g id (load document) (load document))
    (happend : ∀ part, Transfers g id (append part) (append' part)) :
    Transfers g id
      (do
        let part ← load (← validated cls request)
        append part
        return part : CheckedBuild (Ref α)).run
      (do
        let part ← load (← validated cls request)
        append' part
        return part : CheckedBuild (Ref α)).run := by
  intro s t hst
  rw [CheckedBuild.run_validated_bind, CheckedBuild.run_validated_bind]
  cases cls.validate request with
  | error failure => exact ⟨rfl, hst⟩
  | ok document =>
    have hmade : Transfers g id
        (load document >>= fun part ↦ append part >>= fun _ ↦ pure (Except.ok (ε := Fault) part))
        (load document >>= fun part ↦ append' part >>= fun _ ↦ pure (Except.ok part)) :=
      .bind (hload document) fun part ↦ .bind (happend part) fun _ ↦ .pure id _
    exact hmade s t hst

/-- The making of a details form transfers. -/
theorem transfers_detailsForm (owner : Ref Configuration) :
    Transfers g id (DetailsForm.addTo owner) (DetailsForm.addTo owner) := by
  have hcontrol (template : String) (parameters : List ControlParameter) :
      Transfers g id (DetailsForm.buildControl template parameters)
        (DetailsForm.buildControl template parameters) :=
    .bind (.mapM_id .alloc parameters) fun _ ↦ .alloc _
  have hfield (plan : DetailsForm.FieldPlan) :
      Transfers g id (DetailsForm.buildField plan) (DetailsForm.buildField plan) := by
    refine .bind ?_ fun _ ↦ .alloc _
    rw [DetailsForm.FieldPlan.buildControl?]
    cases plan.template with
    | none => exact .pure id none
    | some template => exact .map some (hcontrol template plan.parameters) some fun _ ↦ rfl
  refine .bind ?_ fun form ↦ .bind (.update owner _) fun _ ↦ .pure id form
  exact .bind (.alloc _) fun _ ↦ .bind (.mapM_id .alloc _) fun _ ↦ .bind (.mapM_id hfield _) fun _ ↦
    .bind (.alloc _) fun _ ↦ .alloc _

end Build

end WorkflowArtifacts
