import WorkflowArtifacts.Proofs.Conversion.Steps
import WorkflowArtifacts.Proofs.Store.Growth
import WorkflowArtifacts.Session.Participants

/-!
# Step converters that append elements

A step converter is free to change anything, artifacts included. What is said about runs is said
for converters that keep to their task, which is to append elements to the process: `OnlyAppends`
relates the states before and after such a call, whether or not it stops at a fault.

The converters of a session that make elements are of this kind.
-/

namespace WorkflowArtifacts.Conversion

open Build

/-- Whether nothing has happened but that elements were made and appended to processes. -/
structure OnlyAppends (st next : State) : Prop where
  /-- The conversion is the same. -/
  conversion : next.conversion = st.conversion
  /-- Other records are the same. -/
  store : next.store = { st.store with
    processes := next.store.processes, elements := next.store.elements }
  /-- The former elements are still there. -/
  elements : next.store.elements.Extends st.store.elements
  /-- There are no other processes than before. -/
  processes_size : next.store.processes.size = st.store.processes.size
  /-- The processes have perhaps more elements than before. -/
  processes : ∀ r : Ref Process, ∃ more, next.store.get r =
    { st.store.get r with elements := (st.store.get r).elements.map (· ++ more) }

instance : IsPreorder State OnlyAppends where
  refl st :=
    { conversion := rfl
      store := rfl
      elements := .refl _
      processes_size := rfl
      processes := fun r ↦ ⟨[], by simp⟩ }
  trans st middle next h h' :=
    { conversion := h'.conversion.trans h.conversion
      store := by
        rw [h'.store, h.store]
      elements := h.elements.trans h'.elements
      processes_size := h'.processes_size.trans h.processes_size
      processes := fun r ↦ by
        obtain ⟨more, hmore⟩ := h.processes r
        obtain ⟨others, hothers⟩ := h'.processes r
        refine ⟨more ++ others, ?_⟩
        rw [hothers, hmore]
        simp [Function.comp_def] }

/-- Whether a step converter does nothing but append elements, for every step. It may log and take
tokens, and it may stop at a fault. -/
def AppendsElements (converter : StepConverter) : Prop :=
  ∀ step, Leaves OnlyAppends (converter step)

/-! ## The converters of a session -/

theorem onlyAppends_of_onlyLogs {st next : State} (h : OnlyLogs st next) : OnlyAppends st next where
  conversion := h.conversion
  store := by rw [h.store]
  elements := by
    rw [h.store]
    exact .refl _
  processes_size := by rw [h.store]
  processes r := ⟨[], by simp [h.store]⟩

theorem Leaves.onlyAppends {α : Type} {action : ConversionM α} (h : Leaves OnlyLogs action) :
    Leaves OnlyAppends action :=
  h.mono fun _ _ ↦ onlyAppends_of_onlyLogs

theorem appendElement_onlyAppends (process : Ref Process) (element : Ref Element) :
    Leaves OnlyAppends (appendElement process element) := by
  intro st
  rw [appendElement, bind_ok (liftM_build_apply _ _), fetch_apply]
  cases helements : (st.store.get process).elements with
  | none => exact Std.Refl.refl (r := OnlyAppends) st
  | some elements =>
    refine ⟨rfl, rfl, .refl _, Table.size_set .., fun r ↦ ?_⟩
    -- only the process itself has more elements, and only if it exists
    change ∃ more, (st.store.modify process _).get r = _
    by_cases hr : r = process ∧ st.store.Allocated r
    · obtain ⟨rfl, hallocated⟩ := hr
      refine ⟨[element], ?_⟩
      rw [Store.modify, Store.get_set_self hallocated, helements]
      rfl
    · refine ⟨[], ?_⟩
      rw [Store.get_modify_of_not hr]
      simp

theorem load_onlyAppends (document : Json) :
    Leaves OnlyAppends (liftM (Element.load document) : ConversionM (Ref Element)) :=
  fun _ ↦ ⟨rfl, rfl, .push _ _, rfl, fun _ ↦ ⟨[], by simp; rfl⟩⟩

theorem entry_onlyLogs (step : Json) (key : String) : Leaves OnlyLogs (Session.entry step key) := by
  rw [Session.entry]
  cases step.get? key with
  | none => exact .throw _
  | some value => exact .pure value

theorem addElementOf_onlyAppends (recordClass : RecordClass) {request : ConversionM Json}
    (h : Leaves OnlyLogs request) :
    Leaves OnlyAppends (Session.addElementOf recordClass request) := by
  refine .bind (requireProcess_onlyLogs _).onlyAppends fun process ↦ ?_
  refine .bind h.onlyAppends fun j ↦ .bind (.of_snd_eq fun _ ↦ rfl) fun document ↦ ?_
  refine .bind (load_onlyAppends document) fun element ↦ ?_
  exact .bind (appendElement_onlyAppends process element) fun _ ↦ .pure element

theorem onType_appendsElements (type : String) {action : Json → ConversionM Unit}
    (h : AppendsElements action) : AppendsElements (Session.onType type action) := by
  intro step
  refine .bind (entry_onlyLogs step "type").onlyAppends fun found ↦ ?_
  cases found with
  | text found =>
    dsimp only
    split
    · exact h step
    · exact .pure ()
  | _ => exact .pure ()

/-- The converters of a session that make elements, and the one that gives up, do nothing but append
elements. -/
theorem converter_appendsElements {name : Session.ConverterName} (h : name ≠ .config) :
    AppendsElements name.converter := by
  have hid (step : Json) := entry_onlyLogs step "id"
  cases name with
  | config => exact absurd rfl h
  | start =>
    refine onType_appendsElements _ fun step ↦ ?_
    exact .bind (addElementOf_onlyAppends _ (.bind (hid step) fun _ ↦ .pure _)) fun _ ↦ .pure ()
  | task =>
    refine onType_appendsElements _ fun step ↦ ?_
    exact .bind (addElementOf_onlyAppends _ (.bind (hid step) fun _ ↦ .pure _)) fun _ ↦ .pure ()
  | element =>
    refine onType_appendsElements _ fun step ↦ ?_
    exact .bind (addElementOf_onlyAppends _ (entry_onlyLogs step _)) fun _ ↦ .pure ()
  | fail =>
    have hmessage (fault : Json → Fault) : AppendsElements fun step ↦
        Session.entry step "message" >>= fun message ↦ throw (fault message) :=
      fun step ↦ .bind (entry_onlyLogs step _).onlyAppends fun _ ↦ .throw _
    intro step
    exact .bind (onType_appendsElements "fail" (hmessage (.rejected ·.display)) step) fun _ ↦
      onType_appendsElements "abort" (hmessage (.aborted ·.display)) step

end WorkflowArtifacts.Conversion
