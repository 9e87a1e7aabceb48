import WorkflowArtifacts.Proofs.Conversion.Rerun
import WorkflowArtifacts.Proofs.Store.Gaps
import WorkflowArtifacts.Session.Participants

/-!
# Computations that cannot tell gaps

A computation of a conversion *transfers* if it does the same in two states that differ by gaps in
the store and by the log alone: it has the same outcome, and the states that it leaves differ in the
same way. Where a record lies and what has been logged is no part of a conversion, so this holds of
everything that is a function of the conversion; for a step converter, which may be any function of
the state here, it is a condition.

The library's computations after the first phase transfer, and so do the step converters of a
session.
-/

namespace WorkflowArtifacts

namespace Registry

/-- The artifacts, moved. -/
def move (g : Gaps) (registry : Registry) : Registry :=
  ⟨registry.entries.map fun entry ↦ (entry.1, g.item entry.2)⟩

theorem get_move (g : Gaps) (registry : Registry) (key : String) :
    (registry.move g).get key = g.item (registry.get key) := by
  have hlookup (entries : List (String × Item)) :
      (entries.map fun entry ↦ (entry.1, g.item entry.2)).lookup key
        = (entries.lookup key).map g.item := by
    induction entries with
    | nil => rfl
    | cons entry rest ih =>
      rw [List.map_cons, List.lookup_cons, List.lookup_cons, ih]
      cases key == entry.1 <;> rfl
  rw [get, get, move, hlookup]
  cases registry.entries.lookup key <;> rfl

end Registry

namespace Conversion

open Build

variable {α β γ δ : Type} {g : Gaps}

/-! ## States -/

/-- Whether two states differ by gaps in the store and by the log alone. -/
structure Apart (g : Gaps) (st st' : State) : Prop where
  /-- The stores differ by gaps. -/
  store : st.store.Gapped g st'.store
  /-- The definition is the same. -/
  definition : st'.conversion.definition = st.conversion.definition
  /-- The process is the same. -/
  process : st'.conversion.process = st.conversion.process
  /-- The artifacts are the same, moved. -/
  artifacts : st'.conversion.artifacts = st.conversion.artifacts.move g
  /-- The tokens are the same. -/
  tokens : st'.tokens = st.tokens

theorem Apart.get_artifact {st st' : State} (h : Apart g st st') (key : String) :
    st'.conversion.artifacts.get key = g.item (st.conversion.artifacts.get key) := by
  rw [h.artifacts, Registry.get_move]

theorem Apart.of_onlyLogs {st st' next next' : State} (h : Apart g st st') (hst : OnlyLogs st next)
    (hst' : OnlyLogs st' next') : Apart g next next' where
  store := by
    rw [hst.store, hst'.store]
    exact h.store
  definition := by rw [hst.conversion, hst'.conversion, h.definition]
  process := by rw [hst.conversion, hst'.conversion, h.process]
  artifacts := by rw [hst.conversion, hst'.conversion, h.artifacts]
  tokens := by rw [hst.tokens, hst'.tokens, h.tokens]

/-! ## Computations -/

/-- Whether two computations have the same outcome in states that differ by gaps, where the result
of the second is that of the first under a function, and leave such states behind. -/
def Transfers (g : Gaps) (f : α → β) (action : ConversionM α) (other : ConversionM β) : Prop :=
  ∀ st st' : State, Apart g st st' →
    (other st').1 = (action st).1.map f ∧ Apart g (action st).2 (other st').2

namespace Transfers

/-- The outcome is the same where the results need no change. -/
theorem apply {action other : ConversionM α} (h : Transfers g id action other) {st st' : State}
    (hst : Apart g st st') :
    (other st').1 = (action st).1 ∧ Apart g (action st).2 (other st').2 := by
  obtain ⟨hresult, hstates⟩ := h st st' hst
  refine ⟨hresult.trans ?_, hstates⟩
  cases (action st).1 <;> rfl

theorem pure (f : α → β) (a : α) : Transfers g f (Pure.pure a) (Pure.pure (f a)) :=
  fun _ _ h ↦ ⟨rfl, h⟩

theorem throw (f : α → β) (fault : Fault) :
    Transfers g f (MonadExcept.throw fault) (MonadExcept.throw fault) :=
  fun _ _ h ↦ ⟨rfl, h⟩

theorem bind {f : α → β} {f' : γ → δ} {action : ConversionM α} {other : ConversionM β}
    {next : α → ConversionM γ} {next' : β → ConversionM δ} (h : Transfers g f action other)
    (hnext : ∀ a, Transfers g f' (next a) (next' (f a))) :
    Transfers g f' (action >>= next) (other >>= next') := by
  intro st st' hst
  obtain ⟨hresult, hstates⟩ := h st st' hst
  rw [bind_apply, bind_apply]
  rcases haction : action st with ⟨fault | a, reached⟩
  all_goals
    rcases hother : other st' with ⟨outcome, reached'⟩
    rw [haction, hother] at hresult hstates
    rw [show outcome = _ from hresult]
  · exact ⟨rfl, hstates⟩
  · exact hnext a _ _ hstates

theorem forM {xs : List α} {action : α → ConversionM PUnit}
    (h : ∀ x ∈ xs, Transfers g id (action x) (action x)) :
    Transfers g id (xs.forM action) (xs.forM action) := by
  induction xs with
  | nil => exact pure id PUnit.unit
  | cons x xs ih =>
    change Transfers g id (action x >>= fun _ ↦ xs.forM action) (action x >>= fun _ ↦ _)
    exact bind (h x List.mem_cons_self) fun _ ↦ ih fun y hy ↦ h y (List.mem_cons_of_mem x hy)

theorem build {f : α → β} {action : Build α} {other : Build β}
    (h : Build.Transfers g f action other) :
    Transfers g f (liftM action : ConversionM α) (liftM other : ConversionM β) := by
  intro st st' hst
  obtain ⟨hresult, hstores⟩ := h _ _ hst.store
  exact ⟨congrArg Except.ok hresult, { hst with store := hstores }⟩

theorem checkedBuild {action other : CheckedBuild α}
    (h : Build.Transfers g id action.run other.run) :
    Transfers g id (liftM action : ConversionM α) (liftM other) := by
  intro st st' hst
  obtain ⟨hresult, hstores⟩ := h _ _ hst.store
  refine ⟨?_, { hst with store := hstores }⟩
  rw [liftM_checkedBuild_apply, liftM_checkedBuild_apply, hresult]
  cases (action.run st.store).1 <;> rfl

theorem note (level : LogLevel) (source : LogSource) (message : String) :
    Transfers g id (Conversion.note level source message)
      (Conversion.note level source message) :=
  fun _ _ h ↦ ⟨rfl, { h with }⟩

end Transfers

/-! ## Reading -/

theorem transfers_requireProcess (part : String) :
    Transfers g id (requireProcess part) (requireProcess part) := by
  intro st st' h
  cases hprocess : st.conversion.process with
  | none =>
    rw [requireProcess_of_none hprocess, requireProcess_of_none (h.process.trans hprocess)]
    exact ⟨rfl, h⟩
  | some process =>
    rw [requireProcess_apply hprocess, requireProcess_apply (h.process.trans hprocess)]
    exact ⟨rfl, h⟩

theorem transfers_currentDefinition : Transfers g id currentDefinition currentDefinition := by
  intro st st' h
  rw [currentDefinition_apply, currentDefinition_apply, h.definition, h.store.get_eq]
  exact ⟨rfl, h⟩

theorem transfers_elementsOf (process : Ref Process) :
    Transfers g id (elementsOf process) (elementsOf process) := by
  refine .bind (.build (.fetch process)) fun content ↦ ?_
  dsimp only [id]
  cases content.elements with
  | none => exact .throw id _
  | some elements => exact .pure id elements

theorem isAbsent_item (item : Item) : (g.item item).isAbsent = item.isAbsent := by
  cases item <;> rfl

theorem transfers_requireArtifact (key : String) :
    Transfers g g.item (requireArtifact key) (requireArtifact key) := by
  have hartifact : Transfers g g.item (artifact key) (artifact key) :=
    fun st st' h ↦ ⟨congrArg Except.ok (h.get_artifact key), h⟩
  refine .bind hartifact fun item ↦ ?_
  rw [isAbsent_item]
  split
  · exact .throw _ _
  · exact .pure _ item

theorem nature_item {s t : Store} (h : s.Gapped g t) (item : Item) :
    (g.item item).nature t = item.nature s := by
  cases item with
  | entity e =>
    cases e with
    | element r =>
      change (RecordClass.elementOf (t.get r).kind).name
        = (RecordClass.elementOf (s.get r).kind).name
      rw [h.get_eq]
    | _ => rfl
  | _ => rfl

theorem transfers_formModuleOf (item : Item) :
    Transfers g g.formModules.shift (formModuleOf item) (formModuleOf (g.item item)) := by
  intro st st' h
  by_cases hmodule : ∃ r, item = .entity (.formModule r)
  · obtain ⟨r, rfl⟩ := hmodule
    exact ⟨rfl, h⟩
  · have hne (r) : item ≠ .entity (.formModule r) := fun hr ↦ hmodule ⟨r, hr⟩
    have hmoved (r) : g.item item ≠ .entity (.formModule r) := by
      intro hr
      cases item with
      | entity e =>
        cases e with
        | formModule r => exact hne r rfl
        | _ => cases hr
      | _ => cases hr
    rw [formModuleOf_of_ne hne, formModuleOf_of_ne hmoved, nature_item h.store]
    exact ⟨rfl, h⟩

theorem transfers_checkGraph : Transfers g id checkGraph checkGraph := by
  have hproblems : Transfers g id graphProblems graphProblems := by
    refine .bind (transfers_requireProcess _) fun process ↦ ?_
    refine .bind (transfers_elementsOf process) fun elements ↦ ?_
    intro st st' h
    have hget : (elements.map st'.store.get) = elements.map st.store.get :=
      List.map_congr_left fun r _ ↦ h.store.get_eq r
    exact ⟨congrArg (Except.ok ∘ Graph.problems) hget, h⟩
  refine .bind hproblems fun problems ↦ ?_
  dsimp only [id]
  split
  · exact .note _ _ _
  · exact .pure id _

/-! ## The supply of start forms -/

theorem transfers_addDetailsConfiguration (formModule : Ref FormModule) (processId : Json) :
    Build.Transfers g id (addDetailsConfiguration formModule processId)
      (addDetailsConfiguration (g.formModules.shift formModule) processId) :=
  .bind (.alloc _) fun configuration ↦ .bind (.append_formModule formModule configuration) fun _ ↦
    .bind (transfers_detailsForm configuration) fun _ ↦ .pure id ()

theorem transfers_supplyOne (process : Ref Process) (e : Ref Element) :
    Transfers g id (supplyOne process e) (supplyOne process e) := by
  refine .bind (.build (.fetch e)) fun content ↦ ?_
  dsimp only [id]
  cases content.startEvent? with
  | none => exact .pure id false
  | some event =>
    dsimp only
    split
    · refine .bind (transfers_requireArtifact _) fun artifact ↦ ?_
      refine .bind (.build (.update e _)) fun _ ↦ ?_
      refine .bind (transfers_formModuleOf artifact) fun formModule ↦ ?_
      refine .bind (.build (.fetch process)) fun owner ↦ ?_
      refine .bind (.build (transfers_addDetailsConfiguration formModule owner.id)) fun _ ↦ ?_
      exact .bind (.note _ _ _) fun _ ↦ .pure id true
    · exact .bind (.note _ _ _) fun _ ↦ .pure id false

theorem transfers_supplyAll (process : Ref Process) (elements : List (Ref Element)) :
    Transfers g id (supplyAll process elements) (supplyAll process elements) := by
  induction elements with
  | nil => exact .pure id []
  | cons e rest ih =>
    exact .bind (transfers_supplyOne process e) fun _ ↦ .bind ih fun _ ↦ .pure id _

theorem transfers_supplyStartForms : Transfers g id supplyStartForms supplyStartForms := by
  intro st st' h
  rw [supplyStartForms, bind_ok (current_apply st), bind_ok (current_apply st'), h.process]
  cases st.conversion.process with
  | none => exact ⟨rfl, h⟩
  | some process =>
    exact Transfers.bind (transfers_elementsOf process) (transfers_supplyAll process) st st' h

theorem transfers_completeStartForms :
    Transfers g id Listener.completeStartForms Listener.completeStartForms := by
  refine .bind transfers_supplyStartForms fun supplied ↦ ?_
  dsimp only [id]
  split
  · exact .bind (transfers_requireProcess _) fun process ↦ .bind (.build (.fetch process)) fun _ ↦
      .note _ _ _
  · exact .pure id _

/-! ## Step converters -/

/-- Whether the elements that the process lists exist. -/
def ListedExist (st : State) : Prop := ∀ r ∈ listed st, st.store.Allocated r

theorem ListedExist.of_graphKept {st next : State} (h : ListedExist st)
    (hkept : GraphKept st next) : ListedExist next := by
  have hlisted : listed next = listed st := by
    rw [listed, listed, hkept.process]
    cases st.conversion.process with
    | none => rfl
    | some process => exact congrArg (Option.getD · []) (hkept.listed process)
  intro r hr
  rw [hlisted] at hr
  exact Nat.lt_of_lt_of_eq (h r hr) hkept.size.symm

theorem ListedExist.of_onlyLogs (st next : State) (h : OnlyLogs st next) :
    Keeps ListedExist st next :=
  fun hlisted ↦ hlisted.of_graphKept (.of_onlyLogs h)

/-- Whether a step converter works on the conversion alone: it cannot tell gaps or the log, and
whatever it lists as an element of the process exists. -/
structure WorksOnConversion (converter : StepConverter) : Prop where
  /-- It transfers. -/
  transfers : ∀ g step, Transfers g id (converter step) (converter step)
  /-- It leaves existing elements listed. -/
  listed : ∀ step, Leaves (Keeps ListedExist) (converter step)

/-! ## The converters of a session -/

theorem transfers_validated (c : RecordClass) (j : Json) :
    Transfers g id (liftM (validated c j) : ConversionM Json) (liftM (validated c j)) := by
  intro st st' h
  cases hvalidate : c.validate j with
  | error failure =>
    rw [validated_error hvalidate, validated_error hvalidate]
    exact ⟨rfl, h⟩
  | ok document =>
    rw [validated_ok hvalidate, validated_ok hvalidate]
    exact ⟨rfl, h⟩

theorem transfers_entry (step : Json) (key : String) :
    Transfers g id (Session.entry step key) (Session.entry step key) := by
  rw [Session.entry]
  cases step.get? key with
  | none => exact .throw id _
  | some value => exact .pure id value

theorem transfers_onType (type : String) {action : StepConverter}
    (h : ∀ step, Transfers g id (action step) (action step)) (step : Json) :
    Transfers g id (Session.onType type action step) (Session.onType type action step) := by
  refine .bind (transfers_entry step "type") fun found ↦ ?_
  cases found with
  | text found =>
    dsimp only [id]
    split
    · exact h step
    · exact .pure id ()
  | _ => exact .pure id ()

theorem transfers_addElementOf (recordClass : RecordClass) {request : ConversionM Json}
    (h : Transfers g id request request) :
    Transfers g id (Session.addElementOf recordClass request)
      (Session.addElementOf recordClass request) := by
  have happend (process : Ref Process) (element : Ref Element) :
      Transfers g id (appendElement process element) (appendElement process element) := by
    refine .bind (.build (.fetch process)) fun content ↦ ?_
    dsimp only [id]
    cases content.elements with
    | none => exact .throw id _
    | some elements => exact .build (.update process _)
  refine .bind (transfers_requireProcess _) fun process ↦ .bind h fun j ↦ ?_
  refine .bind (transfers_validated recordClass j) fun document ↦ ?_
  exact .bind (.build (.alloc _)) fun element ↦ .bind (happend process element) fun _ ↦
    .pure id element

theorem transfers_convertStart (step : Json) :
    Transfers g id (Session.convertStart step) (Session.convertStart step) := by
  unfold Session.convertStart
  refine .bind (transfers_addElementOf _ ?_) fun _ ↦ .pure id ()
  exact .bind (transfers_entry step "id") fun _ ↦ .pure id _

theorem transfers_convertTask (step : Json) :
    Transfers g id (Session.convertTask step) (Session.convertTask step) := by
  unfold Session.convertTask
  refine .bind (transfers_addElementOf _ ?_) fun _ ↦ .pure id ()
  exact .bind (transfers_entry step "id") fun _ ↦ .pure id _

theorem transfers_convertElement (step : Json) :
    Transfers g id (Session.convertElement step) (Session.convertElement step) := by
  unfold Session.convertElement
  exact .bind (transfers_addElementOf _ (transfers_entry step "element")) fun _ ↦ .pure id ()

theorem transfers_itemsOf (value : Json) :
    Transfers g id (Session.itemsOf value) (Session.itemsOf value) := by
  cases value with
  | array items => exact .pure id items
  | text s => exact .pure id _
  | object entries => exact .pure id _
  | _ => exact .throw id _

theorem transfers_addVisibleField (form : Form) (field : Json) :
    Transfers g id (Session.addVisibleField form field) (Session.addVisibleField form field) := by
  refine .bind (.build (.update form.visibility _)) fun _ ↦ ?_
  exact .bind (.checkedBuild (transfers_makePart transfers_formField fun part ↦
    .update form.appearance _)) fun _ ↦ .pure id ()

/-- The form module is found wherever it lies, and all that is added to it lies where it did. -/
theorem transfers_convertConfig (step : Json) :
    Transfers g id (Session.convertConfig step) (Session.convertConfig step) := by
  unfold Session.convertConfig
  refine .bind (transfers_requireArtifact _) fun artifact ↦ ?_
  refine .bind (transfers_formModuleOf artifact) fun formModule ↦ ?_
  refine .bind (transfers_entry step "evaluator") fun evaluator ↦ ?_
  refine .bind (transfers_entry step "condition") fun condition ↦ ?_
  refine .bind (.checkedBuild (transfers_makePart transfers_configuration
    (.append_formModule formModule))) fun configuration ↦ ?_
  refine .bind (.checkedBuild (transfers_makePart transfers_form fun part ↦
    .update configuration _)) fun form ↦ ?_
  refine .bind (.build (.fetch form)) fun content ↦ .bind (transfers_itemsOf _) fun fields ↦ ?_
  exact .forM fun field _ ↦ transfers_addVisibleField content field

/-- The converters of a session transfer. -/
theorem converter_transfers (name : Session.ConverterName) (step : Json) :
    Transfers g id (name.converter step) (name.converter step) := by
  cases name with
  | config => exact transfers_onType "config" transfers_convertConfig step
  | start => exact transfers_onType "start" transfers_convertStart step
  | task => exact transfers_onType "task" transfers_convertTask step
  | element => exact transfers_onType "element" transfers_convertElement step
  | fail =>
    have hmessage (fault : Json → Fault) (step : Json) :
        Transfers g (id : Unit → Unit)
          (Session.entry step "message" >>= fun message ↦ throw (fault message))
          (Session.entry step "message" >>= fun message ↦ throw (fault message)) :=
      .bind (transfers_entry step "message") fun _ ↦ .throw id _
    exact .bind (transfers_onType "fail" (hmessage (.rejected ·.display)) step) fun _ ↦
      transfers_onType "abort" (hmessage (.aborted ·.display)) step

theorem appendElement_listed {process : Ref Process} {element : Ref Element} {st : State}
    (helement : st.store.Allocated element) (hst : ListedExist st) :
    ListedExist (appendElement process element st).2 := by
  rw [appendElement, bind_ok (liftM_build_apply _ _), fetch_apply]
  cases helements : (st.store.get process).elements with
  | none => exact hst
  | some elements =>
    let appended := st.store.modify process fun p ↦
      { p with elements := some (elements ++ [element]) }
    change ListedExist { st with store := appended }
    intro r hr
    change st.store.Allocated r
    rw [ListedExist, listed] at hst
    rw [listed] at hr
    cases hprocess : st.conversion.process with
    | none =>
      simp only [hprocess] at hr
      exact absurd hr List.not_mem_nil
    | some found =>
      rw [hprocess] at hst
      simp only [hprocess] at hr
      change r ∈ (appended.get found).elements.getD [] at hr
      by_cases hfound : found = process ∧ st.store.Allocated found
      · obtain ⟨rfl, hallocated⟩ := hfound
        have hget : appended.get found = _ := Store.get_set_self hallocated _
        rw [hget] at hr
        rcases List.mem_append.1 hr with hr | hr
        · exact hst r (by rw [Option.bind_some, helements]; exact hr)
        · rwa [List.mem_singleton.1 hr]
      · have hget : appended.get found = st.store.get found := Store.get_modify_of_not hfound _
        rw [hget] at hr
        exact hst r hr

/-- What is appended by a converter of a session is new, so it exists. -/
theorem addElementOf_listed (recordClass : RecordClass) {request : ConversionM Json}
    (h : Leaves OnlyLogs request) :
    Leaves (Keeps ListedExist) (Session.addElementOf recordClass request) := by
  refine .bind ((requireProcess_onlyLogs _).mono ListedExist.of_onlyLogs) fun process ↦ ?_
  refine .bind (h.mono ListedExist.of_onlyLogs) fun j ↦ ?_
  refine .bind (.of_snd_eq fun _ ↦ rfl) fun document ↦ ?_
  intro st hst
  let made : State := { st with store := (Element.load document st.store).2 }
  have hmade : ListedExist made :=
    fun r hr ↦ (Table.Extends.push st.store.elements _).allocated (hst r hr)
  have happended := @appendElement_listed process _ made
    (st.store.elements.allocated_push_next (Element.ofDocument (.ofDocument document) document))
    hmade
  have hpure (e : Ref Element) (st : State) : ((appendElement process e >>= fun _ ↦ pure e) st).2
      = (appendElement process e st).2 := by
    rw [bind_apply]
    rcases appendElement process e st with ⟨_ | _, _⟩ <;> rfl
  rw [bind_ok (liftM_build_apply _ _)]
  change ListedExist ((appendElement process st.store.elements.next >>= fun _ ↦
    pure st.store.elements.next) made).2
  rw [hpure]
  exact happended

theorem onType_listed (type : String) {action : StepConverter}
    (h : ∀ step, Leaves (Keeps ListedExist) (action step)) (step : Json) :
    Leaves (Keeps ListedExist) (Session.onType type action step) := by
  refine .bind ((entry_onlyLogs step "type").mono ListedExist.of_onlyLogs) fun found ↦ ?_
  cases found with
  | text found =>
    dsimp only
    split
    · exact h step
    · exact .pure ()
  | _ => exact .pure ()

/-- The making of a part of a form module leaves the graph alone, as long as that is so of the part
that an accepted document is read as. -/
theorem makePart_keepsGraph {cls : RecordClass} {request : Json} {load : Json → Build (Ref α)}
    {append : Ref α → Build Unit}
    (h : ∀ st : State, GraphKept st { st with store :=
      (append (load (cls.shape.normal request) st.store).1
        (load (cls.shape.normal request) st.store).2).2 }) :
    Leaves GraphKept (liftM (do
      let part ← load (← validated cls request)
      append part
      return part : CheckedBuild (Ref α)) : ConversionM (Ref α)) := by
  refine .checkedBuild fun st ↦ ?_
  rw [CheckedBuild.run_validated_bind]
  cases hvalidate : cls.validate request with
  | error failure => exact .refl st
  | ok document =>
    obtain ⟨-, rfl⟩ := Schema.Shape.validate_eq_ok_iff.1 hvalidate
    exact h st

/-- What is added to the form module is no part of the graph. -/
theorem convertConfig_keepsGraph (step : Json) :
    Leaves GraphKept (Session.convertConfig step) := by
  have hitems (value : Json) : Leaves GraphKept (Session.itemsOf value) := by
    cases value with
    | array items => exact .pure items
    | text s => exact .pure _
    | object entries => exact .pure _
    | _ => exact .throw _
  have hsame {st : State} {store : Store} (hprocesses : store.processes = st.store.processes)
      (helements : store.elements = st.store.elements) : GraphKept st { st with store } :=
    .of_same rfl (fun r ↦ congrArg (fun table ↦ (table.get r).elements) hprocesses) helements
  have hfield (form : Form) (field : Json) :
      Leaves GraphKept (Session.addVisibleField form field) :=
    .bind (.build fun _ ↦ hsame rfl rfl) fun _ ↦
      .bind (makePart_keepsGraph fun _ ↦ hsame rfl rfl) fun _ ↦ .pure ()
  unfold Session.convertConfig
  refine .bind (requireArtifact_onlyLogs _).keepsGraph fun artifact ↦ ?_
  refine .bind (formModuleOf_onlyLogs artifact).keepsGraph fun formModule ↦ ?_
  refine .bind (entry_onlyLogs step _).keepsGraph fun evaluator ↦ ?_
  refine .bind (entry_onlyLogs step _).keepsGraph fun condition ↦ ?_
  refine .bind (makePart_keepsGraph fun _ ↦ hsame rfl rfl) fun configuration ↦ ?_
  refine .bind (makePart_keepsGraph fun _ ↦ hsame rfl rfl) fun form ↦ ?_
  refine .bind (fetch_onlyLogs form).keepsGraph fun content ↦ .bind (hitems _) fun fields ↦ ?_
  exact .forM fun field _ ↦ hfield content field

/-- The converters of a session work on the conversion alone. -/
theorem converter_worksOnConversion (name : Session.ConverterName) :
    WorksOnConversion name.converter := by
  refine ⟨fun g step ↦ converter_transfers name step, ?_⟩
  have hid (step : Json) := entry_onlyLogs step "id"
  have hdone {action : ConversionM (Ref Element)} (haction : Leaves (Keeps ListedExist) action) :
      Leaves (Keeps ListedExist) (action >>= fun _ ↦ pure ()) :=
    .bind haction fun _ ↦ .pure ()
  cases name with
  | config =>
    exact onType_listed "config" fun step ↦
      (convertConfig_keepsGraph step).mono fun _ _ hkept hlisted ↦ hlisted.of_graphKept hkept
  | start =>
    exact onType_listed "start" fun step ↦
      hdone (addElementOf_listed _ (.bind (hid step) fun _ ↦ .pure _))
  | task =>
    exact onType_listed "task" fun step ↦
      hdone (addElementOf_listed _ (.bind (hid step) fun _ ↦ .pure _))
  | element =>
    exact onType_listed "element" fun step ↦ hdone (addElementOf_listed _ (entry_onlyLogs step _))
  | fail =>
    have hmessage (fault : Json → Fault) (step : Json) : Leaves (Keeps ListedExist)
        (Session.entry step "message" >>= fun message ↦ throw (fault message) : ConversionM Unit) :=
      .bind ((entry_onlyLogs step _).mono ListedExist.of_onlyLogs) fun _ ↦ .throw _
    exact fun step ↦ .bind (onType_listed "fail" (hmessage (.rejected ·.display)) step) fun _ ↦
      onType_listed "abort" (hmessage (.aborted ·.display)) step

end Conversion

end WorkflowArtifacts
