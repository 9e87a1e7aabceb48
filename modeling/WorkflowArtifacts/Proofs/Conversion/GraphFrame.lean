import WorkflowArtifacts.Proofs.Conversion.Agreement
import WorkflowArtifacts.Proofs.Conversion.Course

/-!
# What may change in a process graph

The library reads the graph of a process in many places and writes to it in one: a start event
without a form is given the default start form. `GraphKept` says that nothing else has happened
between two states, and it is kept by whatever the library does to a conversion that has a process,
whether or not it stops at a fault.

A start event that has a form once keeps it. So after the supply of start forms has succeeded, no
listed element lacks a form ever again, and a later supply finds nothing to do. It does not get as
far as asking for the form module then, which is why it does not matter what has become of that.
-/

namespace WorkflowArtifacts

namespace Conversion

open Build

/-! ## The relation -/

/-- Whether the graph has been left alone, except that start events without a form may have been
given the default start form. -/
structure GraphKept (st next : State) : Prop where
  /-- The conversion has the same process. -/
  process : next.conversion.process = st.conversion.process
  /-- Processes list the same elements in the same order. -/
  listed (r : Ref Process) : (next.store.get r).elements = (st.store.get r).elements
  /-- There are no other elements than before. -/
  size : next.store.elements.size = st.store.elements.size
  /-- An element is the same, or it lacked a form and has nothing but the default one now. -/
  records (r : Ref Element) : next.store.get r = st.store.get r ∨
    (st.store.get r).lacksForm = true ∧
      next.store.get r = (st.store.get r).withFormKey (.text Vocabulary.defaultStartForm)

namespace GraphKept

theorem refl (st : State) : GraphKept st st := ⟨rfl, fun _ ↦ rfl, rfl, fun _ ↦ .inl rfl⟩

theorem trans {st middle next : State} (h : GraphKept st middle) (h' : GraphKept middle next) :
    GraphKept st next where
  process := h'.process.trans h.process
  listed r := (h'.listed r).trans (h.listed r)
  size := h'.size.trans h.size
  records r := by
    rcases h'.records r with hsame | ⟨hlacks, hgiven⟩
    · rw [hsame]
      exact h.records r
    · rcases h.records r with hsame | ⟨-, hbefore⟩
      · rw [hsame] at hlacks hgiven
        exact .inr ⟨hlacks, hgiven⟩
      · -- what has been given a form does not lack one
        rw [hbefore, Element.lacksForm_withFormKey_text] at hlacks
        cases hlacks

/-- The graph is kept where the process and all that it consists of are the same. -/
theorem of_same {st next : State} (hprocess : next.conversion.process = st.conversion.process)
    (hlisted : ∀ r : Ref Process, (next.store.get r).elements = (st.store.get r).elements)
    (helements : next.store.elements = st.store.elements) : GraphKept st next where
  process := hprocess
  listed := hlisted
  size := by rw [helements]
  records r := .inl (congrArg (·.get r) helements)

theorem of_onlyLogs {st next : State} (h : OnlyLogs st next) : GraphKept st next :=
  .of_same (by rw [h.conversion]) (fun _ ↦ by rw [h.store]) (by rw [h.store])

/-- An element that has a form keeps it. -/
theorem lacksForm_eq_false {st next : State} (h : GraphKept st next) {r : Ref Element}
    (hr : (st.store.get r).lacksForm = false) : (next.store.get r).lacksForm = false := by
  rcases h.records r with hsame | ⟨hlacks, -⟩
  · rw [hsame, hr]
  · rw [hr] at hlacks
    cases hlacks

end GraphKept

instance : IsPreorder State GraphKept where
  refl := GraphKept.refl
  trans _ _ _ := GraphKept.trans

theorem Leaves.keepsGraph {α : Type} {action : ConversionM α} (h : Leaves OnlyLogs action) :
    Leaves GraphKept action :=
  h.mono fun _ _ ↦ GraphKept.of_onlyLogs

/-! ## The supply of start forms -/

/-- The making of a configuration does not touch processes and their elements, whether or not the
form module exists. -/
theorem addDetailsConfiguration_graph (formModule : Ref FormModule) (processId : Json) (s : Store) :
    (addDetailsConfiguration formModule processId s).2.processes = s.processes ∧
      (addDetailsConfiguration formModule processId s).2.elements = s.elements := by
  rw [addDetailsConfiguration_apply, DetailsForm.addTo_apply]
  obtain ⟨hgrow, -⟩ := DetailsForm.build_grows
    (withBlank formModule (Vocabulary.processCondition.fill processId.display) s).2
  generalize DetailsForm.build _ = built at hgrow ⊢
  exact ⟨hgrow.processes, hgrow.elements⟩

/-- The state in which an element has been given the default start form. -/
def keyed (e : Ref Element) (st : State) : State :=
  { st with store := st.store.modify e (·.withFormKey (.text Vocabulary.defaultStartForm)) }

theorem Element.exists_of_lacksForm {e : Element} (h : e.lacksForm = true) :
    ∃ event, e.startEvent? = some event ∧ event.formKey.isNull = true := by
  cases e with
  | startEvent event => exact ⟨event, rfl, h⟩
  | _ => cases h

theorem requireArtifact_of_absent {st : State} {key : String}
    (h : (st.conversion.artifacts.get key).isAbsent = true) :
    requireArtifact key st = (.error (.missingArtifact key), st) := by
  have hartifact : artifact key st = (.ok (st.conversion.artifacts.get key), st) := rfl
  rw [requireArtifact, bind_ok hartifact, h]
  rfl

theorem formModuleOf_of_ne {item : Item} (h : ∀ r, item ≠ .entity (.formModule r)) (st : State) :
    formModuleOf item st
      = (.error (.noPart (item.nature st.store) "add_configuration"), st) := by
  unfold formModuleOf
  split
  · next r => exact absurd rfl (h r)
  · rfl

/-- Before an element that lacks a form is touched, the form module is asked for. -/
theorem supplyOne_of_absent {st : State} {e : Ref Element} (h : (st.store.get e).lacksForm = true)
    (habsent : (st.conversion.artifacts.get Vocabulary.formModuleKey).isAbsent = true)
    (process : Ref Process) :
    supplyOne process e st = (.error (.missingArtifact Vocabulary.formModuleKey), st) := by
  obtain ⟨event, hevent, hkey⟩ := Element.exists_of_lacksForm h
  rw [supplyOne, bind_ok (liftM_build_apply _ _)]
  simp only [fetch_apply, hevent, hkey, if_true]
  rw [bind_error (requireArtifact_of_absent habsent)]

/-- That something else is in the place of the form module shows when the element has been given its
form key. -/
theorem supplyOne_of_misplaced {st : State} {e : Ref Element} {item : Item}
    (h : (st.store.get e).lacksForm = true)
    (hitem : st.conversion.artifacts.get Vocabulary.formModuleKey = item)
    (hpresent : item.isAbsent = false) (hne : ∀ r, item ≠ .entity (.formModule r))
    (process : Ref Process) :
    supplyOne process e st
      = (.error (.noPart (item.nature (keyed e st).store) "add_configuration"), keyed e st) := by
  obtain ⟨event, hevent, hkey⟩ := Element.exists_of_lacksForm h
  rw [supplyOne, bind_ok (liftM_build_apply _ _)]
  simp only [fetch_apply, hevent, hkey, if_true]
  rw [bind_ok (requireArtifact_apply hitem hpresent), bind_ok (liftM_build_apply _ _)]
  exact bind_error (formModuleOf_of_ne hne (keyed e st)) _

/-- All that can be under the key of the form module: nothing, something else, or a form module. -/
theorem formModule_cases (st : State) :
    (st.conversion.artifacts.get Vocabulary.formModuleKey).isAbsent = true ∨
    (∃ item, st.conversion.artifacts.get Vocabulary.formModuleKey = item ∧
      item.isAbsent = false ∧ ∀ r, item ≠ .entity (.formModule r)) ∨
    ∃ formModule, st.conversion.artifacts.get Vocabulary.formModuleKey
      = .entity (.formModule formModule) := by
  by_cases habsent : (st.conversion.artifacts.get Vocabulary.formModuleKey).isAbsent = true
  · exact .inl habsent
  · by_cases hmodule : ∃ r,
        st.conversion.artifacts.get Vocabulary.formModuleKey = .entity (.formModule r)
    · exact .inr (.inr hmodule)
    · exact .inr (.inl ⟨_, rfl, Bool.eq_false_iff.2 habsent, fun r hr ↦ hmodule ⟨r, hr⟩⟩)

/-- All that can happen to an element that lacks a form. -/
theorem supplyOne_cases {st : State} {e : Ref Element} (h : (st.store.get e).lacksForm = true)
    (process : Ref Process) :
    ((st.conversion.artifacts.get Vocabulary.formModuleKey).isAbsent = true ∧
      supplyOne process e st = (.error (.missingArtifact Vocabulary.formModuleKey), st)) ∨
    (∃ item, st.conversion.artifacts.get Vocabulary.formModuleKey = item ∧
      (∀ r, item ≠ .entity (.formModule r)) ∧
      supplyOne process e st = (.error (.noPart (item.nature (keyed e st).store)
        "add_configuration"), keyed e st)) ∨
    ∃ formModule entry,
      st.conversion.artifacts.get Vocabulary.formModuleKey = .entity (.formModule formModule) ∧
      supplyOne process e st = (.ok true,
        { st with
          store := (addDetailsConfiguration formModule (st.store.get process).id
            (keyed e st).store).2
          log := st.log ++ [entry] }) := by
  rcases formModule_cases st with habsent | ⟨item, hitem, hpresent, hne⟩ | ⟨formModule, hmodule⟩
  · exact .inl ⟨habsent, supplyOne_of_absent h habsent process⟩
  · exact .inr (.inl ⟨item, hitem, hne, supplyOne_of_misplaced h hitem hpresent hne process⟩)
  · obtain ⟨entry, hsupply, -⟩ := supplyOne_of_lacksForm hmodule h process
    exact .inr (.inr ⟨formModule, entry, hmodule, hsupply⟩)

theorem keyed_keeps {st : State} {e : Ref Element} (h : (st.store.get e).lacksForm = true) :
    GraphKept st (keyed e st) where
  process := rfl
  listed _ := rfl
  size := Table.size_set ..
  records r := by
    by_cases hr : r = e ∧ st.store.Allocated r
    · obtain ⟨rfl, hallocated⟩ := hr
      exact .inr ⟨h, Store.get_set_self hallocated _⟩
    · exact .inl (Store.get_modify_of_not hr _)

theorem supplyOne_keepsGraph (process : Ref Process) (e : Ref Element) :
    Leaves GraphKept (supplyOne process e) := by
  intro st
  cases hlacks : (st.store.get e).lacksForm with
  | false =>
    obtain ⟨entries, hrun, -⟩ := supplyOne_of_not_lacksForm hlacks process
    rw [hrun]
    exact .of_onlyLogs ⟨rfl, rfl, rfl⟩
  | true =>
    rcases supplyOne_cases hlacks process with
      ⟨-, hrun⟩ | ⟨_, -, -, hrun⟩ | ⟨formModule, _, -, hrun⟩
    · rw [hrun]
      exact .refl st
    · rw [hrun]
      exact keyed_keeps hlacks
    · obtain ⟨hprocesses, helements⟩ := addDetailsConfiguration_graph formModule
        (st.store.get process).id (keyed e st).store
      rw [hrun]
      generalize addDetailsConfiguration _ _ _ = built at hprocesses helements ⊢
      refine (keyed_keeps hlacks).trans (.of_same rfl (fun r ↦ ?_) helements)
      exact congrArg (fun table : Table Process ↦ (table.get r).elements) hprocesses

theorem supplyStartForms_keepsGraph : Leaves GraphKept supplyStartForms :=
  .supplyStartForms supplyOne_keepsGraph

/-! ## The rest of the library -/

/-- A process that is given an id lists what it listed before. -/
theorem elements_withProcessId (s : Store) (process : Ref Process) (id : Json) (r : Ref Process) :
    ((s.modify process fun p ↦ { p with id }).get r).elements = (s.get r).elements := by
  by_cases hr : r = process ∧ s.Allocated r
  · obtain ⟨rfl, hallocated⟩ := hr
    rw [Store.modify, Store.get_set_self hallocated]
  · rw [Store.get_modify_of_not hr]

theorem generateId_keepsGraph : Leaves GraphKept generateId := by
  refine .bind (fun _ ↦ .of_same rfl (fun _ ↦ rfl) rfl) fun token ↦ ?_
  refine .bind (requireProcess_onlyLogs _).keepsGraph fun process ↦ ?_
  refine .bind (fun st ↦ .of_same rfl (elements_withProcessId st.store process _) rfl) fun _ ↦ ?_
  refine .bind .current fun conversion ↦ ?_
  refine .bind (fun _ ↦ .of_same rfl (fun _ ↦ rfl) rfl) fun _ ↦ ?_
  exact .bind (note_onlyLogs _ _ _).keepsGraph fun _ ↦ .pure _

theorem artifactId_keepsGraph : Leaves GraphKept artifactId := by
  refine .bind currentDefinition_onlyLogs.keepsGraph fun definition ↦ ?_
  split
  · exact generateId_keepsGraph
  · refine .bind (.ofExcept _) fun id ↦ ?_
    dsimp only
    split
    · exact .bind (note_onlyLogs _ _ _).keepsGraph fun _ ↦ .pure _
    · exact .pure _

theorem makeContentModel_keepsGraph (processId author version : Json) :
    Leaves GraphKept (makeContentModel processId author version) := by
  intro st
  rcases makeContentModel_cases processId author version st with
    ⟨fault, herror⟩ | ⟨id, model, own, next, -, hok, hmade⟩
  · rw [herror]
    exact .refl st
  · rw [hok]
    refine .of_same (by rw [hmade.conversion]) (fun r ↦ ?_) (by rw [hmade.store])
    rw [hmade.store]
    rfl

theorem setUpArtifacts_keepsGraph (settings : Settings) :
    Leaves GraphKept (Listener.setUpArtifacts settings) :=
  .bind artifactId_keepsGraph fun id ↦
    .bind (makeContentModel_keepsGraph (.text id) _ _) fun _ ↦
      .bind (fun _ ↦ .of_same rfl (fun _ ↦ rfl) rfl) fun _ ↦ .pure _

theorem completeStartForms_keepsGraph : Leaves GraphKept Listener.completeStartForms :=
  .completeStartForms supplyStartForms_keepsGraph fun _ ↦ (note_onlyLogs _ _ _).keepsGraph

/-- Whether the graph is kept, if there is a process at first. -/
def KeepsGraph (st next : State) : Prop := HasProcess st → GraphKept st next

theorem HasProcess.of_graphKept {st next : State} (h : HasProcess st) (hkept : GraphKept st next) :
    HasProcess next := by
  rw [HasProcess, hkept.process]
  exact h

instance : IsPreorder State KeepsGraph where
  refl st _ := .refl st
  trans _ _ _ h h' hprocess := (h hprocess).trans (h' (hprocess.of_graphKept (h hprocess)))

theorem ensureProcess_keepsGraph : Leaves KeepsGraph ensureProcess := by
  intro st hprocess
  obtain ⟨process, hprocess⟩ := hprocess.exists
  rw [ensureProcess, bind_ok (current_apply st), hprocess]
  exact .refl st

/-- A run with listeners that set up artifacts keeps the graph, if it has no step converters. -/
theorem run_keepsGraph (settings : List Settings) :
    Leaves KeepsGraph (run (settings.map Listener.artifactSetup) []) := by
  have hphases : Leaves GraphKept (phases (settings.map Listener.artifactSetup) []) := by
    refine phases_leaves (fun _ _ ↦ GraphKept.of_onlyLogs) (fun listener h ↦ ?_)
      (fun _ h ↦ absurd h List.not_mem_nil) (fun listener h ↦ ?_)
    · obtain ⟨own, -, rfl⟩ := List.mem_map.1 h
      exact setUpArtifacts_keepsGraph own
    · obtain ⟨own, -, rfl⟩ := List.mem_map.1 h
      exact completeStartForms_keepsGraph
  have hkeeps {α : Type} {action : ConversionM α} (h : Leaves GraphKept action) :
      Leaves KeepsGraph action :=
    fun st _ ↦ h st
  refine .bind ensureProcess_keepsGraph fun _ ↦ ?_
  refine .bind (.tryCatch (hkeeps hphases) fun fault ↦ hkeeps (abandon_onlyLogs fault).keepsGraph)
    fun _ ↦ ?_
  refine .bind (hkeeps (requireProcess_onlyLogs _).keepsGraph) fun process ↦ ?_
  refine .bind (hkeeps (fetch_onlyLogs process).keepsGraph) fun content ↦ ?_
  exact .bind (hkeeps (note_onlyLogs _ _ _).keepsGraph) fun _ ↦ .pure _

/-! ## After a supply -/

/-- Elements that lack no form are passed over. -/
theorem supplyAll_append (process : Ref Process) {before : List (Ref Element)}
    (rest : List (Ref Element)) {st : State}
    (h : ∀ r ∈ before, (st.store.get r).lacksForm = false) :
    ∃ entries, supplyAll process (before ++ rest) st
        = supplyAll process rest { st with log := st.log ++ entries } ∧
      ∀ entry ∈ entries, ¬ entry.IsWarning := by
  induction before generalizing st with
  | nil => exact ⟨[], by rw [List.append_nil]; rfl, fun _ h ↦ absurd h List.not_mem_nil⟩
  | cons e before ih =>
    obtain ⟨entries, hrun, hnone⟩ := supplyOne_of_not_lacksForm (h e List.mem_cons_self) process
    obtain ⟨more, hrest, hnone'⟩ := @ih { st with log := st.log ++ entries }
      fun r hr ↦ h r (List.mem_cons_of_mem e hr)
    refine ⟨entries ++ more, ?_, fun entry hentry ↦ ?_⟩
    · rw [List.cons_append, supplyAll, bind_ok hrun, ← List.append_assoc, ← hrest]
      change (supplyAll process (before ++ rest) >>= pure) _ = _
      rw [bind_pure]
    · rcases List.mem_append.1 hentry with hin | hin
      · exact hnone entry hin
      · exact hnone' entry hin

/-- Where no listed element lacks a form, the supply lists none and changes nothing. -/
theorem supplyAll_of_none_lacking (process : Ref Process) {elements : List (Ref Element)}
    {st : State} (h : ∀ r ∈ elements, (st.store.get r).lacksForm = false) :
    ∃ entries, supplyAll process elements st = (.ok [], { st with log := st.log ++ entries }) := by
  obtain ⟨entries, hrun, -⟩ := supplyAll_append process [] h
  rw [List.append_nil] at hrun
  exact ⟨entries, hrun⟩

/-- An element that has been gone through without a fault has a form. -/
theorem lacksForm_of_supplyOne {process : Ref Process} {e : Ref Element} {st next : State}
    {supplied : Bool} (hallocated : st.store.Allocated e)
    (h : supplyOne process e st = (.ok supplied, next)) :
    (next.store.get e).lacksForm = false := by
  cases hlacks : (st.store.get e).lacksForm with
  | false =>
    have hkept := supplyOne_keepsGraph process e st
    rw [h] at hkept
    exact hkept.lacksForm_eq_false hlacks
  | true =>
    rcases supplyOne_cases hlacks process with
      ⟨-, hrun⟩ | ⟨_, -, -, hrun⟩ | ⟨formModule, _, -, hrun⟩
    · rw [hrun] at h
      cases h
    · rw [hrun] at h
      cases h
    · obtain ⟨-, helements⟩ := addDetailsConfiguration_graph formModule (st.store.get process).id
        (keyed e st).store
      generalize addDetailsConfiguration _ _ _ = built at hrun helements
      rw [hrun] at h
      cases h
      have hget : built.2.get e = (keyed e st).store.get e := congrArg (·.get e) helements
      have hkeyed : (keyed e st).store.get e = _ := Store.get_set_self hallocated _
      change (built.2.get e).lacksForm = false
      rw [hget, hkeyed, Element.lacksForm_withFormKey_text]

theorem lacksForm_of_supplyAll {process : Ref Process} {elements : List (Ref Element)}
    {st next : State} {supplied : List (Ref Element)}
    (hallocated : ∀ r ∈ elements, st.store.Allocated r)
    (h : supplyAll process elements st = (.ok supplied, next)) :
    ∀ r ∈ elements, (next.store.get r).lacksForm = false := by
  induction elements generalizing st supplied with
  | nil => exact fun _ h ↦ absurd h List.not_mem_nil
  | cons e rest ih =>
    obtain ⟨first, middle, hfirst, h⟩ := exists_of_bind_ok h
    obtain ⟨others, last, hrest, hend⟩ := exists_of_bind_ok h
    cases hend
    have hkept := supplyOne_keepsGraph process e st
    rw [hfirst] at hkept
    have hlater := Leaves.supplyAll (supplyOne_keepsGraph process) rest middle
    rw [hrest] at hlater
    intro r hr
    rcases List.mem_cons.1 hr with rfl | hr
    · exact hlater.lacksForm_eq_false
        (lacksForm_of_supplyOne (hallocated r List.mem_cons_self) hfirst)
    · refine ih (fun q hq ↦ ?_) hrest r hr
      exact Nat.lt_of_lt_of_eq (hallocated q (List.mem_cons_of_mem e hq)) hkept.size.symm

/-! ## Sequences -/

/-- Something that may be done to a conversion with a process, and that leaves the graph alone but
for missing form keys. -/
inductive Visit where
  /-- The listener that sets up artifacts is called before the steps. -/
  | callBefore (settings : Settings)
  /-- The listener that sets up artifacts is called after the steps. -/
  | callAfter (settings : Settings)
  /-- Start forms are given. -/
  | supplyStartForms
  /-- The graph is examined. -/
  | examineGraph
  /-- The conversion runs with listeners that set up artifacts and without step converters. -/
  | run (settings : List Settings)
  /-- Somebody else replaces the artifacts by any others, or by none. -/
  | replaceArtifacts (artifacts : Registry)

/-- What happens in a visit. -/
def Visit.perform : Visit → ConversionM Unit
  | .callBefore settings => (Listener.artifactSetup settings).before
  | .callAfter settings => (Listener.artifactSetup settings).after
  | .supplyStartForms => do let _ ← Conversion.supplyStartForms
  | .examineGraph => do let _ ← graphProblems
  | .run settings => do let _ ← Conversion.run (settings.map Listener.artifactSetup) []
  | .replaceArtifacts artifacts => fun st ↦
    (.ok (), { st with conversion := { st.conversion with artifacts } })

/-- The state after a sequence of visits, each of which may succeed or stop at a fault. -/
def visitAll (visits : List Visit) (st : State) : State :=
  visits.foldl (fun st visit ↦ (visit.perform st).2) st

theorem Visit.perform_keepsGraph (visit : Visit) : Leaves KeepsGraph visit.perform := by
  intro st hprocess
  cases visit with
  | callBefore settings => exact setUpArtifacts_keepsGraph settings st
  | callAfter settings => exact completeStartForms_keepsGraph st
  | supplyStartForms => exact Leaves.bind supplyStartForms_keepsGraph (fun _ ↦ .pure _) st
  | examineGraph =>
    exact Leaves.bind graphProblems_onlyLogs.keepsGraph (fun _ ↦ .pure _) st
  | run settings => exact Leaves.bind (run_keepsGraph settings) (fun _ ↦ .pure _) st hprocess
  | replaceArtifacts artifacts => exact .of_same rfl (fun _ ↦ rfl) rfl

theorem visitAll_keepsGraph (visits : List Visit) (st : State) :
    KeepsGraph st (visitAll visits st) := by
  induction visits generalizing st with
  | nil => exact fun _ ↦ .refl st
  | cons visit rest ih =>
    exact IsTrans.trans _ _ _ (visit.perform_keepsGraph st) (ih (visit.perform st).2)

/-- A supply that has succeeded leaves no listed element without a form, and there is a process with
a list of elements then. -/
theorem supplyStartForms_ok {st next : State} {supplied : List (Ref Element)}
    (hlisted : ∀ process elements, st.conversion.process = some process →
      (st.store.get process).elements = some elements → ∀ r ∈ elements, st.store.Allocated r)
    (h : supplyStartForms st = (.ok supplied, next)) :
    ∃ process elements, st.conversion.process = some process ∧
      (st.store.get process).elements = some elements ∧
      ∀ r ∈ elements, (next.store.get r).lacksForm = false := by
  rw [supplyStartForms, bind_ok (current_apply st)] at h
  cases hprocess : st.conversion.process with
  | none =>
    rw [hprocess] at h
    cases h
  | some process =>
    rw [hprocess] at h
    change (elementsOf process >>= supplyAll process) st = _ at h
    cases helements : (st.store.get process).elements with
    | none =>
      rw [bind_error (elementsOf_of_none helements)] at h
      cases h
    | some elements =>
      rw [bind_ok (elementsOf_apply helements)] at h
      exact ⟨process, elements, rfl, helements, lacksForm_of_supplyAll
        (hlisted process elements hprocess helements) h⟩

/-- **What may change in a process graph.** Whatever the library does to a conversion that has a
process, one thing after the other and whether or not any of it fails: the process lists the same
elements in the same order, and an element is as it was unless it was a start event without a form,
which may have been given the default one. Once a supply of start forms has succeeded, a later one
lists none and changes nothing, whatever has been done in between and whatever has become of the
artifacts. -/
theorem visitAll_graph (visits : List Visit) {st : State} (hprocess : HasProcess st)
    (hlisted : ∀ process elements, st.conversion.process = some process →
      (st.store.get process).elements = some elements → ∀ r ∈ elements, st.store.Allocated r) :
    GraphKept st (visitAll visits st) ∧
    ∀ supplied next, supplyStartForms (visitAll visits st) = (.ok supplied, next) →
      ∀ later : List Visit, ∃ entries, supplyStartForms (visitAll later next)
        = (.ok [], { visitAll later next with log := (visitAll later next).log ++ entries }) := by
  have hkept := visitAll_keepsGraph visits st hprocess
  refine ⟨hkept, fun supplied next hsupply later ↦ ?_⟩
  obtain ⟨process, elements, hfound, helements, hgiven⟩ := supplyStartForms_ok
    (fun process elements hfound helements r hr ↦ by
      rw [hkept.process] at hfound
      rw [hkept.listed] at helements
      exact Nat.lt_of_lt_of_eq (hlisted process elements hfound helements r hr) hkept.size.symm)
    hsupply
  have hsupplied := supplyStartForms_keepsGraph (visitAll visits st)
  rw [hsupply] at hsupplied
  have hlater := visitAll_keepsGraph later next
    ((hprocess.of_graphKept hkept).of_graphKept hsupplied)
  have hall := hsupplied.trans hlater
  obtain ⟨entries, hrun⟩ := @supplyAll_of_none_lacking process elements (visitAll later next)
    fun r hr ↦ hlater.lacksForm_eq_false (hgiven r hr)
  refine ⟨entries, ?_⟩
  rw [supplyStartForms_apply (hall.process.trans hfound)
    ((hall.listed process).trans helements), hrun]

/-- With the form module gone after a first supply, the second does not miss it. -/
theorem visitAll_graph_listedTwice :
    ∃ supplied next entries, supplyStartForms (visitAll [.examineGraph] listedTwice)
        = (.ok supplied, next) ∧
      supplyStartForms (visitAll [.replaceArtifacts .empty] next)
        = (.ok [], { visitAll [.replaceArtifacts .empty] next with
          log := (visitAll [.replaceArtifacts .empty] next).log ++ entries }) := by
  obtain ⟨-, hlater⟩ := @visitAll_graph [.examineGraph] listedTwice rfl
    (by
      rintro process elements ⟨⟩ ⟨⟩
      decide)
  have hsucceeds : (supplyStartForms (visitAll [.examineGraph] listedTwice)).1.toOption.isSome
      = true := by
    decide +kernel
  rcases hsupply : supplyStartForms (visitAll [.examineGraph] listedTwice)
    with ⟨fault | supplied, next⟩
  · rw [hsupply] at hsucceeds
    cases hsucceeds
  · obtain ⟨entries, hrun⟩ := hlater supplied next hsupply [.replaceArtifacts .empty]
    exact ⟨supplied, next, entries, rfl, hrun⟩

end Conversion

end WorkflowArtifacts
