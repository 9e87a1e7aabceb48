import WorkflowArtifacts.FormModule.DetailsForm
import WorkflowArtifacts.Proofs.FirstOccurrences
import WorkflowArtifacts.Proofs.FormModule.Growing

/-!
# Shown fields

A visibility lists the fields that it shows. A field that it shows already is not added to the list,
so showing fields one after the other adds the new ones, each where it first occurs
(`Visibility.showingAll_eq`). Everything about sequences of such additions follows from this: what
was listed stays in front, nothing is added twice, and only the set of fields matters for what is
shown.

A visibility may list anything, but fields that are added are texts. A text counts as equal to the
same text only (`Json.alike_text_iff`), so whether it is listed is a matter of membership.
-/

namespace WorkflowArtifacts

open Build Schema

/-! ## Texts among documents -/

namespace Json

/-- Nothing but the same text counts as equal to a text. -/
theorem alike_text_iff {j : Json} {text : String} :
    j.alike (.text text) = true ↔ j = .text text := by
  rcases j with _ | _ | n | _ | _ | _
  case number => cases hn : n.quantity? <;> simp [alike, sameScalar, quantity?, hn]
  all_goals simp [alike, sameScalar, quantity?]

theorem text_isAmong_iff {text : String} {js : List Json} :
    (Json.text text).isAmong js = true ↔ .text text ∈ js := by
  simp only [isAmong, List.any_eq_true, alike_text_iff, exists_eq_right]

instance (text : String) (js : List Json) : Decidable (.text text ∈ js) :=
  decidable_of_iff _ text_isAmong_iff

theorem text_injective : Function.Injective Json.text := fun _ _ ↦ Json.text.inj

end Json

/-! ## One list -/

namespace Visibility

variable {v : Visibility} {id : String}

theorem showing_of_mem (h : .text id ∈ v.shown) : v.showing (.text id) = v :=
  if_pos (Json.text_isAmong_iff.2 h)

theorem showing_of_notMem (h : .text id ∉ v.shown) :
    v.showing (.text id) = { v with shown := v.shown ++ [.text id] } :=
  if_neg (mt Json.text_isAmong_iff.1 h)

/-- The visibility that also shows some fields, which are added one after the other. -/
def showingAll (v : Visibility) (ids : List String) : Visibility :=
  ids.foldl (fun v id ↦ v.showing (.text id)) v

/-- The fields that are still to be shown, each where it first occurs. -/
def unshown (v : Visibility) (ids : List String) : List String :=
  (ids.filter fun id ↦ .text id ∉ v.shown).eraseDups

theorem mem_unshown {ids : List String} : id ∈ v.unshown ids ↔ id ∈ ids ∧ .text id ∉ v.shown := by
  rw [unshown, List.mem_eraseDups, List.mem_filter, decide_eq_true_eq]

theorem nodup_unshown (v : Visibility) (ids : List String) : (v.unshown ids).Nodup :=
  nodup_eraseDups _

/-- A field that is shown, or that is to be shown, is not to be shown once more. -/
theorem unshown_concat_of_mem {ids : List String} (h : .text id ∈ v.shown ∨ id ∈ ids) :
    v.unshown (ids ++ [id]) = v.unshown ids := by
  rw [unshown, unshown, List.filter_append]
  by_cases hshown : .text id ∈ v.shown
  · simp [hshown]
  · have hagain : id ∈ ids.filter fun id ↦ .text id ∉ v.shown := by
      simpa [hshown] using h
    simpa [hshown] using eraseDups_concat_of_mem hagain

theorem unshown_concat_of_notMem {ids : List String} (hshown : .text id ∉ v.shown)
    (hid : id ∉ ids) : v.unshown (ids ++ [id]) = v.unshown ids ++ [id] := by
  have hnew : id ∉ ids.filter fun id ↦ .text id ∉ v.shown := fun h ↦ hid (List.mem_of_mem_filter h)
  rw [unshown, unshown, List.filter_append]
  simpa [hshown] using eraseDups_concat_of_notMem hnew

/-- What is shown or still to be shown. -/
theorem mem_shown_append_unshown {ids : List String} :
    .text id ∈ v.shown ++ (v.unshown ids).map .text ↔ .text id ∈ v.shown ∨ id ∈ ids := by
  rw [List.mem_append, List.mem_map_of_injective Json.text_injective, mem_unshown]
  tauto

/-- **Showing fields** adds those that are still to be shown at the end, and nothing else. -/
theorem showingAll_eq (v : Visibility) (ids : List String) :
    v.showingAll ids = { v with shown := v.shown ++ (v.unshown ids).map .text } := by
  induction ids using List.reverseRecOn with
  | nil => simp [showingAll, unshown]
  | append_singleton ids id ih =>
    have hlast : v.showingAll (ids ++ [id]) = (v.showingAll ids).showing (.text id) :=
      List.foldl_append
    -- by then, what was shown at first is shown, and so is what was added
    have hmem : .text id ∈ (v.showingAll ids).shown ↔ .text id ∈ v.shown ∨ id ∈ ids := by
      rw [ih, mem_shown_append_unshown]
    rw [hlast]
    by_cases h : .text id ∈ v.shown ∨ id ∈ ids
    · rw [showing_of_mem (hmem.2 h), ih, unshown_concat_of_mem h]
    · rw [showing_of_notMem (mt hmem.1 h), ih]
      rw [not_or] at h
      rw [unshown_concat_of_notMem h.1 h.2, List.map_append, ← List.append_assoc]
      rfl

-- What the details form shows, it might have shown field by field.
example : showingAll { shown := [], hidden := [] } DetailsForm.shownFields
    = DetailsForm.visibility := rfl

theorem mem_shown_showingAll {ids : List String} :
    .text id ∈ (v.showingAll ids).shown ↔ .text id ∈ v.shown ∨ id ∈ ids := by
  rw [showingAll_eq, mem_shown_append_unshown]

/-- Nothing is listed twice that was not before. -/
theorem nodup_shown_showingAll {ids : List String} :
    (v.showingAll ids).shown.Nodup ↔ v.shown.Nodup := by
  rw [showingAll_eq, List.nodup_append]
  refine ⟨And.left, fun h ↦ ⟨h, (v.nodup_unshown ids).map Json.text_injective, ?_⟩⟩
  rintro j hj _ hnew rfl
  obtain ⟨id, hid, rfl⟩ := List.mem_map.1 hnew
  exact (mem_unshown.1 hid).2 hj

/-- Fields that are shown already change nothing. -/
theorem showingAll_eq_self {ids : List String} (h : ∀ id ∈ ids, .text id ∈ v.shown) :
    v.showingAll ids = v := by
  have hnone : v.unshown ids = [] :=
    List.eq_nil_iff_forall_not_mem.2 fun id hid ↦
      (mem_unshown.1 hid).2 (h id (mem_unshown.1 hid).1)
  rw [showingAll_eq, hnone, List.map_nil, List.append_nil]

/-- The same fields are shown in another order if they are added in another one. -/
theorem shown_showingAll_perm {ids others : List String} (h : ∀ id, id ∈ others ↔ id ∈ ids) :
    (v.showingAll others).shown.Perm (v.showingAll ids).shown := by
  rw [showingAll_eq, showingAll_eq]
  refine List.Perm.append_left _ (List.Perm.map _ ?_)
  rw [List.perm_ext_iff_of_nodup (v.nodup_unshown _) (v.nodup_unshown _)]
  exact fun id ↦ by rw [mem_unshown, mem_unshown, h]

end Visibility

/-! ## Additions that show fields -/

namespace Addition

variable {s : Store}

/-- Additions to a visibility, one for each field. -/
def showing (owner : Ref Visibility) (ids : List String) : List Addition := ids.map (shown owner)

theorem run_shown (owner : Ref Visibility) (id : String) (s : Store) :
    (shown owner id).perform.run s = (.ok (), s.modify owner (·.showing (.text id))) := rfl

/-- Showing fields is never refused. -/
theorem allAccepted_showing (owner : Ref Visibility) (ids : List String) (s : Store) :
    AllAccepted (showing owner ids) s := by
  induction ids generalizing s with
  | nil => trivial
  | cons id ids ih => exact ⟨rfl, ih _⟩

/-- Showing fields changes the visibility, and that only. -/
theorem performAll_showing (owner : Ref Visibility) (ids : List String) (s : Store) :
    performAll (showing owner ids) s = s.modify owner (·.showingAll ids) := by
  induction ids generalizing s with
  | nil => exact (Store.modify_of_eq rfl).symm
  | cons id ids ih => exact (ih _).trans (s.modify_modify owner (·.showing (.text id)) _)

theorem get_performAll_showing {owner : Ref Visibility} (h : s.Allocated owner)
    (ids : List String) :
    (performAll (showing owner ids) s).get owner = (s.get owner).showingAll ids := by
  rw [performAll_showing]
  exact Store.get_set_self h _

/-- **Showing fields one after the other** is never refused, hides nothing and brings nothing back.
The visibility lists what it listed before and then the fields that it did not list, each where it
first occurs. So it starts as before, and it lists a field twice only if it did so before. Nothing
else changes. The same fields again change nothing, and in any other order and number they would
have come to the same fields in another order. -/
theorem performAll_showing_effect {owner : Ref Visibility} (h : s.Allocated owner)
    (ids : List String) {t : Store} (ht : performAll (showing owner ids) s = t) :
    AllAccepted (showing owner ids) s ∧
    (t.get owner).hidden = (s.get owner).hidden ∧
    (t.get owner).shown = (s.get owner).shown ++
      ((ids.filter fun id ↦ .text id ∉ (s.get owner).shown).eraseDups).map .text ∧
    (s.get owner).shown <+: (t.get owner).shown ∧
    ((t.get owner).shown.Nodup ↔ (s.get owner).shown.Nodup) ∧
    (∀ e : Entity, e ≠ .visibility owner → e.Same s t) ∧
    (∀ more : List String, (∀ id ∈ more, id ∈ ids ∨ .text id ∈ (s.get owner).shown) →
      performAll (showing owner more) t = t) ∧
    ∀ others : List String, (∀ id, id ∈ others ↔ id ∈ ids) →
      ((performAll (showing owner others) s).get owner).shown.Perm (t.get owner).shown := by
  subst ht
  have hget := get_performAll_showing h ids
  have hshown := congrArg Visibility.shown (hget.trans ((s.get owner).showingAll_eq ids))
  refine ⟨allAccepted_showing owner ids s, ?_, hshown, hshown ▸ List.prefix_append _ _, ?_, ?_, ?_,
    ?_⟩
  · rw [hget, Visibility.showingAll_eq]
  · rw [hget, Visibility.nodup_shown_showingAll]
  · intro e he
    rw [performAll_showing]
    exact Store.same_modify he _
  · intro more hmore
    rw [performAll_showing owner more]
    refine Store.modify_of_eq (Visibility.showingAll_eq_self fun id hid ↦ ?_)
    rw [hget, Visibility.mem_shown_showingAll]
    exact (hmore id hid).symm
  · intro others hothers
    rw [get_performAll_showing h, hget]
    exact Visibility.shown_showingAll_perm hothers

/-- The document of a visibility that lists a field twice. -/
def dueTwice : Json := .object [("show", .array [.text "due", .text "due"])]

/-- Its normal form. -/
def dueTwiceNormal : Json :=
  .object
    [("show_field_elements", .array [.text "due", .text "due"]), ("hide_field_elements", .array [])]

/-- A store with nothing but that visibility. -/
def dueTwiceStore : Store := (Visibility.load dueTwiceNormal Store.empty).2

/-- To a list that has a field twice, another field is added once, and nothing more after that. -/
theorem performAll_showing_effect_dueTwice :
    dueTwiceStore.Allocated (⟨0⟩ : Ref Visibility) ∧
    ((performAll (showing ⟨0⟩ ["id", "due", "id"]) dueTwiceStore).get (⟨0⟩ : Ref Visibility)).shown
      = [.text "due", .text "due", .text "id"] ∧
    performAll (showing ⟨0⟩ ["due", "id"])
        (performAll (showing ⟨0⟩ ["id", "due", "id"]) dueTwiceStore)
      = performAll (showing ⟨0⟩ ["id", "due", "id"]) dueTwiceStore := by
  have hallocated : dueTwiceStore.Allocated (⟨0⟩ : Ref Visibility) := by decide
  obtain ⟨-, -, hshown, -, -, -, hagain, -⟩ :=
    performAll_showing_effect hallocated ["id", "due", "id"] rfl
  exact ⟨hallocated, hshown, hagain _ (by simp)⟩

end Addition

end WorkflowArtifacts
