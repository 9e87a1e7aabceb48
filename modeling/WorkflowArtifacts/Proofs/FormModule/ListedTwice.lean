import WorkflowArtifacts.Proofs.FormModule.Showing
import WorkflowArtifacts.Proofs.Store.Gaps
import WorkflowArtifacts.Store.Entity

/-!
# Fields that are listed twice

Additions do not list a field twice, but documents may, and what they list is taken as it is.
Nothing that is added afterwards makes up for it, to the same form module or to any other one, and
nothing makes a visibility list a field twice that did not do so when it was made
(`Addition.nodup_shown_performAll`). For an addition either shows a field, or it leaves the
visibilities that there are alone and makes at most one that shows nothing
(`Addition.visibilities_perform`).

What a visibility that was read lists in the beginning, the document says in its place. Since the
records read as the document, this needs no look at how they were made
(`RecordClass.visibilities_load`).
-/

namespace WorkflowArtifacts

open Build Schema

/-! ## What additions do to visibilities -/

section

variable {α β : Type}

theorem mapM_visibilities {f : α → Build β} (hf : ∀ x s, (f x s).2.visibilities = s.visibilities)
    (xs : List α) (s : Store) : (xs.mapM f s).2.visibilities = s.visibilities := by
  induction xs generalizing s with
  | nil => rfl
  | cons x xs ih =>
    rw [List.mapM_cons]
    exact (ih _).trans (hf x s)

theorem Control.load_visibilities (j : Json) (s : Store) :
    (Control.load j s).2.visibilities = s.visibilities :=
  mapM_visibilities (fun _ _ ↦ rfl) _ s

theorem FormField.load_visibilities (j : Json) (s : Store) :
    (FormField.load j s).2.visibilities = s.visibilities := by
  have hcontrol := Control.load_visibilities (j.get "control") s
  rw [FormField.load]
  generalize j.get "control" = document at hcontrol ⊢
  cases document with
  | null => rfl
  | _ => exact hcontrol

end

namespace Addition

/-- Visibilities are left alone by an addition that makes a part without any of them. -/
theorem MakesPart.visibilities_eq {β : Type} {a : Addition} {cls : RecordClass}
    {load : Json → Build (Ref β)} {append : Ref β → Build Unit} (h : a.MakesPart cls load append)
    (hload : ∀ j s, (load j s).2.visibilities = s.visibilities)
    (happend : ∀ part s, (append part s).2.visibilities = s.visibilities) (s : Store) :
    (a.perform.run s).2.visibilities = s.visibilities := by
  obtain ⟨request, hrun⟩ := h
  rw [hrun]
  cases cls.validate request with
  | error failure => rfl
  | ok document => exact (happend _ _).trans (hload document s)

/-- **Visibilities** are changed by showing a field only, and new ones show nothing. -/
theorem visibilities_perform (a : Addition) (s : Store) :
    (∃ owner id, a = .shown owner id) ∨ (a.perform.run s).2.visibilities = s.visibilities ∨
      (a.perform.run s).2.visibilities = s.visibilities.push { shown := [], hidden := [] } := by
  cases a with
  | shown owner id => exact .inl ⟨owner, id, rfl⟩
  | form owner id =>
    refine .inr ?_
    rw [perform, run_discard, Configuration.addForm, CheckedBuild.run_validated_bind]
    cases h : RecordClass.form.validate (.object [("id", id)]) with
    | error failure => exact .inl rfl
    | ok document =>
      -- nothing but the id is given, so the visibility is the empty one
      obtain ⟨-, rfl⟩ := Shape.validate_eq_ok_iff.1 h
      exact .inr rfl
  | configuration owner evaluator condition =>
    refine .inr (.inl ?_)
    rw [perform, run_discard, FormModule.addConfiguration, CheckedBuild.run_validated_bind]
    cases h : RecordClass.configuration.validate
        (.object [("evaluator", evaluator), ("condition", condition)]) with
    | error failure => rfl
    | ok document =>
      -- no forms are given
      obtain ⟨-, rfl⟩ := Shape.validate_eq_ok_iff.1 h
      rfl
  | formSet owner id appearance labelId template =>
    exact .inr (.inl ((makesPart_formSet owner id appearance labelId template).visibilities_eq
      (fun _ _ ↦ rfl) (fun _ _ ↦ rfl) s))
  | parameter owner name value =>
    exact .inr (.inl ((makesPart_parameter owner name value).visibilities_eq
      (fun _ _ ↦ rfl) (fun _ _ ↦ rfl) s))
  | field owner id labelId set =>
    exact .inr (.inl ((makesPart_field owner id labelId set).visibilities_eq
      FormField.load_visibilities (fun _ _ ↦ rfl) s))
  | element owner document =>
    exact .inr (.inl ((makesPart_element owner document).visibilities_eq
      FormField.load_visibilities (fun _ _ ↦ rfl) s))

/-- **Fields that are listed twice**: an addition neither makes a visibility list a field twice nor
keeps it from doing so. -/
theorem nodup_shown_perform (a : Addition) (s : Store) (r : Ref Visibility) :
    ((a.perform.run s).2.get r).shown.Nodup ↔ (s.get r).shown.Nodup := by
  rcases a.visibilities_perform s with ⟨owner, id, rfl⟩ | hsame | hpush
  · rw [run_shown]
    by_cases h : r = owner ∧ s.Allocated r
    · obtain ⟨rfl, hr⟩ := h
      have hget : (s.modify r (·.showing (.text id))).get r = (s.get r).showingAll [id] :=
        Store.get_set_self hr _
      rw [hget, Visibility.nodup_shown_showingAll]
    · rw [Store.get_modify_of_not h]
  · rw [show (a.perform.run s).2.get r = s.get r from congrArg (Table.get · r) hsame]
  · have hget : (a.perform.run s).2.get r = (s.visibilities.push default).get r :=
      congrArg (Table.get · r) hpush
    rw [hget, Table.get_push_default]
    rfl

theorem nodup_shown_performAll (calls : List Addition) (s : Store) (r : Ref Visibility) :
    ((performAll calls s).get r).shown.Nodup ↔ (s.get r).shown.Nodup := by
  induction calls generalizing s with
  | nil => rfl
  | cons a rest ih => exact (ih _).trans (a.nodup_shown_perform s r)

end Addition

/-! ## What documents list -/

section

variable {s : Store} {j : Json}

/-- A visibility lists what its document lists. -/
theorem Visibility.shown_of_reads {r : Ref Visibility}
    (h : Shapes.visibility.Reads (s.visibilityContent r) j) :
    (s.get r).shown = j.itemsAt "show_field_elements" := by
  obtain ⟨entries, rfl, hfields⟩ := h.of_record
  obtain ⟨shown, entries, rfl, hshown, -⟩ := hfields.of_cons
  have hitems : List.Forall₂ Eq (s.get r).shown shown.items := by
    refine hshown.of_list_map.imp fun x k hk ↦ ?_
    obtain ⟨text, hx, rfl⟩ := hk
    rw [Content.ofAny] at hx
    split at hx
    · exact Content.plain.inj hx
    · cases hx
  exact List.forall₂_eq_eq_eq ▸ hitems

/-- The visibility of a form reads as the one in its document. -/
theorem Form.visibility_reads {r : Ref Form} (h : Shapes.form.Reads (s.formContent r) j) :
    Shapes.visibility.Reads (s.visibilityContent (s.get r).visibility)
      (j.get "form_field_visibility") := by
  obtain ⟨entries, rfl, hfields⟩ := h.of_record
  obtain ⟨id, entries, rfl, -, hfields⟩ := hfields.of_cons
  obtain ⟨shown, entries, rfl, hshown, -⟩ := hfields.of_cons
  exact hshown

/-- The forms of a configuration read as the ones in its document. -/
theorem Configuration.forms_read {r : Ref Configuration}
    (h : Shapes.configuration.Reads (s.configurationContent r) j) :
    List.Forall₂ (fun form k ↦ Shapes.form.Reads (s.formContent form) k) (s.get r).forms
      (j.itemsAt "forms") := by
  obtain ⟨entries, rfl, hfields⟩ := h.of_record
  obtain ⟨evaluator, entries, rfl, -, hfields⟩ := hfields.of_cons
  obtain ⟨condition, entries, rfl, -, hfields⟩ := hfields.of_cons
  obtain ⟨forms, entries, rfl, hforms, -⟩ := hfields.of_cons
  exact hforms.of_list_map

/-- The configurations of a form module read as the ones in its document. -/
theorem FormModule.configurations_read {r : Ref FormModule}
    (h : Shapes.formModule.Reads (s.formModuleContent r) j) :
    List.Forall₂ (fun configuration k ↦
      Shapes.configuration.Reads (s.configurationContent configuration) k)
      (s.get r).configurations (j.itemsAt "configurations") := by
  obtain ⟨entries, rfl, hfields⟩ := h.of_record
  obtain ⟨id, entries, rfl, -, hfields⟩ := hfields.of_cons
  obtain ⟨configurations, entries, rfl, hconfigurations, -⟩ := hfields.of_cons
  exact hconfigurations.of_list_map

end

/-- The documents of visibilities that a document of a class holds. -/
def RecordClass.visibilityDocuments : RecordClass → Json → List Json
  | .visibility, j => [j]
  | .form, j => [j.get "form_field_visibility"]
  | .configuration, j => (j.itemsAt "forms").map (·.get "form_field_visibility")
  | .formModule, j => (j.itemsAt "configurations").flatMap fun configuration ↦
    (configuration.itemsAt "forms").map (·.get "form_field_visibility")
  | _, _ => []

/-- The visibilities of a record, by way of its forms. -/
def Entity.visibilities (s : Store) : Entity → List (Ref Visibility)
  | .visibility r => [r]
  | .form r => [(s.get r).visibility]
  | .configuration r => (s.get r).forms.map (s.get · |>.visibility)
  | .formModule r => (s.get r).configurations.flatMap fun configuration ↦
    (s.get configuration).forms.map (s.get · |>.visibility)
  | _ => []

section

variable {s t : Store} {j : Json}

theorem Configuration.visibilities_read {r : Ref Configuration}
    (h : Shapes.configuration.Reads (s.configurationContent r) j) :
    List.Forall₂ (fun r d ↦ (s.get r).shown = d.itemsAt "show_field_elements")
      ((s.get r).forms.map (s.get · |>.visibility))
      ((j.itemsAt "forms").map (·.get "form_field_visibility")) := by
  rw [List.forall₂_map_left_iff, List.forall₂_map_right_iff]
  exact (Configuration.forms_read h).imp fun _ _ hform ↦
    Visibility.shown_of_reads (Form.visibility_reads hform)

/-- The visibilities of a record that was made from a document list what their documents list. -/
theorem RecordClass.visibilities_load {c : RecordClass} {data : Json}
    (hdocument : c.validate data = .ok j) (hs : s.Closed) {root : Entity}
    (hload : c.load j s = (root, t)) :
    List.Forall₂ (fun r d ↦ (t.get r).shown = d.itemsAt "show_field_elements")
      (root.visibilities t) (c.visibilityDocuments j) := by
  obtain ⟨hissues, hj⟩ := Shape.validate_eq_ok_iff.1 hdocument
  have hnormal : c ≠ .settings → c.shape.isNormal j = true := fun hc ↦
    hj ▸ Shape.isNormal_normal (RecordClass.isCoherent_shape hc) hissues
  cases c with
  | visibility =>
    cases hload
    have hread := (Visibility.loaded (hnormal nofun) hs).read_of_kept fun e _ ↦ .refl _ e
    exact .cons (Visibility.shown_of_reads hread) .nil
  | form =>
    cases hload
    have hread := (Form.loaded (hnormal nofun) hs).read_of_kept fun e _ ↦ .refl _ e
    exact .cons (Visibility.shown_of_reads (Form.visibility_reads hread)) .nil
  | configuration =>
    cases hload
    have hread := (Configuration.loaded (hnormal nofun) hs).read_of_kept fun e _ ↦ .refl _ e
    exact Configuration.visibilities_read hread
  | formModule =>
    cases hload
    have hread := (FormModule.loaded (hnormal nofun) hs).read_of_kept fun e _ ↦ .refl _ e
    exact List.rel_flatMap (FormModule.configurations_read hread) fun _ _ h ↦
      Configuration.visibilities_read h
  | _ =>
    cases hload
    exact .nil

end

namespace Addition

/-- **What lists a field twice.** A record is made from an accepted document, and additions are made
to whatever there is by then. Then each of its visibilities lists a field twice if and only if its
document does, and no visibility lists a field twice that was made by an addition. -/
theorem performAll_listsOnce_iff {c : RecordClass} {data document : Json}
    (hdocument : c.validate data = .ok document) {s start : Store} (hs : s.Closed) {root : Entity}
    (hload : c.load document s = (root, start)) (calls : List Addition) :
    List.Forall₂ (fun r d ↦ ((performAll calls start).get r).shown.Nodup ↔
        (d.itemsAt "show_field_elements").Nodup)
      (root.visibilities start) (c.visibilityDocuments document) ∧
    ∀ r : Ref Visibility, ¬ start.Allocated r → ((performAll calls start).get r).shown.Nodup := by
  refine ⟨?_, fun r hr ↦ ?_⟩
  · refine (RecordClass.visibilities_load hdocument hs hload).imp fun r d hlists ↦ ?_
    rw [nodup_shown_performAll, hlists]
  · rw [nodup_shown_performAll, show start.get r = default from Table.get_of_not_allocated hr]
    exact .nil

/-- The document of a configuration with two forms, of which the first lists a field twice. -/
def oneListsTwice : Json :=
  .object [("forms", .array [.object [("field-visibility", dueTwice)], .object []])]

/-- Its normal form. -/
def oneListsTwiceNormal : Json :=
  .object
    [("evaluator", .null), ("condition", .null),
      ("forms", .array
        [.object
          [("id", .null), ("form_field_visibility", dueTwiceNormal),
            ("form_appearance", Shapes.emptyAppearance)],
        .object
          [("id", .null), ("form_field_visibility", Shapes.emptyVisibility),
            ("form_appearance", Shapes.emptyAppearance)]])]

/-- A store with nothing but that configuration. -/
def oneListsTwiceStore : Store := (Configuration.load oneListsTwiceNormal Store.empty).2

/-- The field is shown by both forms, and a third form shows nothing. -/
def toBoth : List Addition :=
  showing ⟨0⟩ ["due"] ++ showing ⟨1⟩ ["due", "due"] ++ [.form ⟨0⟩ .null]

/-- Of the three forms, the one that was read with a field listed twice still lists it twice. -/
theorem performAll_listsOnce_iff_oneListsTwice :
    RecordClass.configuration.validate oneListsTwice = .ok oneListsTwiceNormal ∧
    List.Forall₂ (fun (r : Ref Visibility) d ↦
        ((performAll toBoth oneListsTwiceStore).get r).shown.Nodup ↔
          (d.itemsAt "show_field_elements").Nodup)
      [⟨0⟩, ⟨1⟩] [dueTwiceNormal, Shapes.emptyVisibility] ∧
    ((performAll toBoth oneListsTwiceStore).get (⟨2⟩ : Ref Visibility)).shown.Nodup := by
  have hdocument : RecordClass.configuration.validate oneListsTwice = .ok oneListsTwiceNormal := rfl
  obtain ⟨hread, hmade⟩ := performAll_listsOnce_iff hdocument Store.closed_empty
    (show RecordClass.configuration.load oneListsTwiceNormal Store.empty
      = (.configuration ⟨0⟩, oneListsTwiceStore) from rfl) toBoth
  exact ⟨hdocument, hread, hmade ⟨2⟩ (by decide)⟩

/-- A visibility is read from a document that lists a field twice, and whatever is added, it still
lists that field twice. -/
theorem performAll_listsTwice :
    RecordClass.visibility.validate dueTwice = .ok dueTwiceNormal ∧
    RecordClass.visibility.load dueTwiceNormal Store.empty = (.visibility ⟨0⟩, dueTwiceStore) ∧
    ∀ calls, ¬ ((performAll calls dueTwiceStore).get (⟨0⟩ : Ref Visibility)).shown.Nodup := by
  refine ⟨rfl, rfl, fun calls ↦ ?_⟩
  rw [nodup_shown_performAll]
  exact fun h ↦ (List.nodup_cons.1 h).1 List.mem_cons_self

end Addition

end WorkflowArtifacts
