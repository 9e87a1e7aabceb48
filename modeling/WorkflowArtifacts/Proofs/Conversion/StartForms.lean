import WorkflowArtifacts.Conversion.Listener
import WorkflowArtifacts.Proofs.Conversion.Steps
import WorkflowArtifacts.Proofs.FirstOccurrences
import WorkflowArtifacts.Proofs.FormModule.DetailsForm

/-!
# What the supply of start forms changes

The supply goes through a list of references and changes the records behind them while it goes. An
element may be listed several times, and what happens at a later place depends on what was done at
an earlier one: at its second place a start event already has its form. So which elements are
supplied is said in terms of the store before, `lacking`, and the change as a relation between the
store before and the store after, `StartFormsSupplied`.

## Composing changes

The relation carries the elements that were supplied and the configurations that were made. Two
changes in a row make one change, with both lists appended (`StartFormsSupplied.trans`). The
elements that the first change supplied are no longer lacking in the store between, which is why the
lists of supplied elements fit together (`lacking_cons`).
-/

namespace WorkflowArtifacts

open Build

/-- Whether an element is a start event without a form. -/
def Element.lacksForm : Element → Bool
  | .startEvent e => e.formKey.isNull
  | _ => false

/-- Whether an entry is a warning. -/
def LogEntry.IsWarning (entry : LogEntry) : Prop :=
  ∃ source message, entry = .record .warning source message

@[simp] theorem LogEntry.isWarning_record (level : LogLevel) (source : LogSource)
    (message : String) :
    (LogEntry.record level source message).IsWarning ↔ level = .warning := by
  simp [IsWarning]

@[simp] theorem Element.lacksForm_withFormKey_text (e : Element) (key : String) :
    (e.withFormKey (.text key)).lacksForm = false := by
  cases e <;> rfl

@[simp] theorem Element.withFormKey_withFormKey (e : Element) (key other : Json) :
    (e.withFormKey key).withFormKey other = e.withFormKey other := by
  cases e <;> rfl

namespace Conversion

/-! ## The elements that are supplied -/

/-- The start events without a form among the listed elements, each once, in the order in which they
are first listed. -/
def lacking (s : Store) (elements : List (Ref Element)) : List (Ref Element) :=
  (elements.filter fun r ↦ (s.get r).lacksForm).eraseDups

theorem mem_lacking {s : Store} {elements : List (Ref Element)} {r : Ref Element} :
    r ∈ lacking s elements ↔ r ∈ elements ∧ (s.get r).lacksForm = true := by
  rw [lacking, List.mem_eraseDups, List.mem_filter]

theorem nodup_lacking (s : Store) (elements : List (Ref Element)) :
    (lacking s elements).Nodup :=
  nodup_eraseDups _

/-! ## The change -/

/-- The configuration with the given forms for the processes that meet a condition. -/
def detailsConfiguration (condition : String) (forms : List (Ref Form)) : Configuration :=
  { evaluator := some Vocabulary.textComparison, condition := some condition, forms }

/-- How a form module has got configurations for details forms: what is new, and what is as it was.
Nothing is said about the elements of processes. -/
structure DetailsAdded (formModule : Ref FormModule) (condition : String)
    (made : List (Ref Configuration)) (s t : Store) : Prop where
  /-- Nothing that is part of a form has changed. -/
  formsGrow : s.FormsGrow t
  /-- The definitions are the same. -/
  definitions : t.definitions = s.definitions
  /-- The processes are the same. -/
  processes : t.processes = s.processes
  /-- The namespaces are the same. -/
  namespaces : t.namespaces = s.namespaces
  /-- The content models are the same. -/
  contentModels : t.contentModels = s.contentModels
  /-- What is loose is the same. -/
  loose : t.loose = s.loose
  /-- No configuration has changed. -/
  configurations : t.configurations.Extends s.configurations
  /-- There are no other form modules than before. -/
  formModules_size : t.formModules.size = s.formModules.size
  /-- The other form modules are the same. -/
  formModules_of_ne : ∀ r, r ≠ formModule → t.get r = s.get r
  /-- The form module has the new configurations after the old ones. -/
  appended : t.get formModule =
    { s.get formModule with configurations := (s.get formModule).configurations ++ made }
  /-- The new configurations are different ones. -/
  nodup : made.Nodup
  /-- They are new. -/
  isNew : ∀ r ∈ made, ¬ s.Allocated r
  /-- Each has a details form and nothing else. -/
  details : ∀ r ∈ made, ∃ form,
    t.Holds r (detailsConfiguration condition [form]) ∧ DetailsForm.Stands t form

/-- How start events have got the default start form, and a form module the configurations that go
with it. -/
structure StartFormsSupplied (formModule : Ref FormModule) (condition : String)
    (supplied : List (Ref Element)) (made : List (Ref Configuration)) (s t : Store) : Prop
    extends DetailsAdded formModule condition made s t where
  /-- There is one new configuration for each. -/
  length_made : made.length = supplied.length
  /-- There are no other elements than before. -/
  elements_size : t.elements.size = s.elements.size
  /-- The supplied elements have the default start form, and the others are the same. -/
  elements : ∀ r, t.get r =
    if r ∈ supplied then (s.get r).withFormKey (.text Vocabulary.defaultStartForm) else s.get r

namespace DetailsAdded

variable {formModule : Ref FormModule} {condition : String} {s t u : Store}

/-- Whatever happens to elements makes no configurations. -/
theorem of_elements (s : Store) (elements : Table Element) :
    DetailsAdded formModule condition [] s { s with elements } where
  formsGrow := .of_same rfl
  definitions := rfl
  processes := rfl
  namespaces := rfl
  contentModels := rfl
  loose := rfl
  configurations := .refl _
  formModules_size := rfl
  formModules_of_ne _ _ := rfl
  appended := by
    rw [List.append_nil]
    rfl
  nodup := .nil
  isNew r h := absurd h List.not_mem_nil
  details r h := absurd h List.not_mem_nil

theorem trans {first second : List (Ref Configuration)}
    (ht : DetailsAdded formModule condition first s t)
    (hu : DetailsAdded formModule condition second t u) :
    DetailsAdded formModule condition (first ++ second) s u where
  formsGrow := ht.formsGrow.trans hu.formsGrow
  definitions := hu.definitions.trans ht.definitions
  processes := hu.processes.trans ht.processes
  namespaces := hu.namespaces.trans ht.namespaces
  contentModels := hu.contentModels.trans ht.contentModels
  loose := hu.loose.trans ht.loose
  configurations := ht.configurations.trans hu.configurations
  formModules_size := hu.formModules_size.trans ht.formModules_size
  formModules_of_ne r h := (hu.formModules_of_ne r h).trans (ht.formModules_of_ne r h)
  appended := by rw [hu.appended, ht.appended, List.append_assoc]
  nodup := by
    rw [List.nodup_append]
    refine ⟨ht.nodup, hu.nodup, ?_⟩
    -- what the first change made was there when the second began
    rintro r hfirst other hsecond rfl
    obtain ⟨form, hr, -⟩ := ht.details r hfirst
    exact hu.isNew r hsecond hr.1
  isNew r h := by
    rcases List.mem_append.1 h with hfirst | hsecond
    · exact ht.isNew r hfirst
    · intro hr
      exact hu.isNew r hsecond (ht.configurations.allocated hr)
  details r h := by
    rcases List.mem_append.1 h with hfirst | hsecond
    · obtain ⟨form, hr, hform⟩ := ht.details r hfirst
      exact ⟨form, hr.of_extends hu.configurations, hform.of_formsGrow hu.formsGrow⟩
    · exact hu.details r hsecond

end DetailsAdded

namespace StartFormsSupplied

variable {formModule : Ref FormModule} {condition : String} {s t u : Store}

theorem refl (s : Store) : StartFormsSupplied formModule condition [] [] s s where
  toDetailsAdded := .of_elements s s.elements
  length_made := rfl
  elements_size := rfl
  elements r := by rw [if_neg List.not_mem_nil]

theorem trans {first second : List (Ref Element)} {firstMade secondMade : List (Ref Configuration)}
    (ht : StartFormsSupplied formModule condition first firstMade s t)
    (hu : StartFormsSupplied formModule condition second secondMade t u) :
    StartFormsSupplied formModule condition (first ++ second) (firstMade ++ secondMade) s u where
  toDetailsAdded := ht.toDetailsAdded.trans hu.toDetailsAdded
  length_made := by
    rw [List.length_append, List.length_append, ht.length_made, hu.length_made]
  elements_size := hu.elements_size.trans ht.elements_size
  elements r := by
    rw [hu.elements, ht.elements]
    by_cases hfirst : r ∈ first <;> by_cases hsecond : r ∈ second <;> simp [hfirst, hsecond]

theorem allocated_formModule {supplied : List (Ref Element)} {made : List (Ref Configuration)}
    (h : StartFormsSupplied formModule condition supplied made s t) {r : Ref FormModule}
    (hr : s.Allocated r) : t.Allocated r :=
  Nat.lt_of_lt_of_eq hr h.formModules_size.symm

theorem allocated_element {supplied : List (Ref Element)} {made : List (Ref Configuration)}
    (h : StartFormsSupplied formModule condition supplied made s t) {r : Ref Element}
    (hr : s.Allocated r) : t.Allocated r :=
  Nat.lt_of_lt_of_eq hr h.elements_size.symm

/-- A supplied element lacks no form any more, and for the others nothing has changed. -/
theorem lacksForm_get {supplied : List (Ref Element)} {made : List (Ref Configuration)}
    (h : StartFormsSupplied formModule condition supplied made s t) (r : Ref Element) :
    (t.get r).lacksForm = (decide (r ∉ supplied) && (s.get r).lacksForm) := by
  rw [h.elements]
  by_cases hr : r ∈ supplied
  · rw [if_pos hr, Element.lacksForm_withFormKey_text]
    simp [hr]
  · rw [if_neg hr]
    simp [hr]

/-- What is lacking in a list is its first element, if that lacks a form, and then what is lacking
in the rest once the first has been supplied. -/
theorem lacking_cons {e : Ref Element} {made : List (Ref Configuration)}
    (h : StartFormsSupplied formModule condition
      (if (s.get e).lacksForm then [e] else []) made s t) (rest : List (Ref Element)) :
    lacking s (e :: rest) = (if (s.get e).lacksForm then [e] else []) ++ lacking t rest := by
  have hget := h.lacksForm_get
  rw [lacking, List.filter_cons]
  by_cases he : (s.get e).lacksForm = true
  · rw [if_pos he, if_pos he, List.eraseDups_cons, List.filter_filter, lacking,
      List.singleton_append]
    -- the later places of the first element drop out, as it has a form by then
    have hrest : rest.filter (fun r ↦ (!r == e) && (s.get r).lacksForm)
        = rest.filter fun r ↦ (t.get r).lacksForm := by
      refine List.filter_congr fun r _ ↦ ?_
      rw [hget r, if_pos he]
      by_cases hr : r = e <;> simp [hr]
    rw [hrest]
  · rw [if_neg he, if_neg he, List.nil_append, lacking]
    have hrest : rest.filter (fun r ↦ (s.get r).lacksForm)
        = rest.filter fun r ↦ (t.get r).lacksForm := by
      refine List.filter_congr fun r _ ↦ ?_
      rw [hget r, if_neg he]
      simp
    rw [hrest]

end StartFormsSupplied

/-! ## One configuration -/

/-- The store in which a form module has a new configuration without forms. -/
def withBlank (formModule : Ref FormModule) (condition : String) (s : Store) :
    Ref Configuration × Store :=
  let (made, s) := s.alloc (detailsConfiguration condition [])
  (made, s.modify formModule fun m ↦ { m with configurations := m.configurations ++ [made] })

/-- Making a configuration with a form, where `s₁` is the store after the making of the form. -/
theorem DetailsAdded.of_form {formModule : Ref FormModule} {s s₁ : Store} {form : Ref Form}
    {condition : String} (hallocated : s.Allocated formModule)
    (hgrow : (withBlank formModule condition s).2.OnlyFormsGrow s₁)
    (hstands : DetailsForm.Stands s₁ form) :
    DetailsAdded formModule condition [(withBlank formModule condition s).1] s
      (s₁.modify (withBlank formModule condition s).1 fun c ↦
        { c with forms := c.forms ++ [form] }) := by
  set made := (withBlank formModule condition s).1
  set t := s₁.modify made fun c ↦ { c with forms := c.forms ++ [form] }
  have hlast : s₁.FormsGrow t := .of_same rfl
  have hpushed : s₁.configurations = s.configurations.push (detailsConfiguration condition []) :=
    hgrow.configurations
  have hconfigurations : t.configurations
      = s.configurations.push (detailsConfiguration condition [form]) := by
    have hlast : t = _ := Store.modify_next hpushed _
    rw [hlast]
    rfl
  have hmodules : t.formModules = s.formModules.set formModule
      { s.get formModule with configurations := (s.get formModule).configurations ++ [made] } :=
    hgrow.formModules
  exact
    { formsGrow := (Store.FormsGrow.of_same rfl : s.FormsGrow _).trans
        (hgrow.toFormsGrow.trans hlast)
      definitions := hgrow.definitions
      processes := hgrow.processes
      namespaces := hgrow.namespaces
      contentModels := hgrow.contentModels
      loose := hgrow.loose
      configurations := by
        rw [hconfigurations]
        exact .push _ _
      formModules_size := by rw [hmodules, Table.size_set]
      formModules_of_ne := fun r hr ↦ by
        change t.formModules.get r = s.formModules.get r
        rw [hmodules, Table.get_set_of_ne _ hr]
      appended := by
        change t.formModules.get formModule = _
        rw [hmodules]
        exact Table.get_set_self hallocated _
      nodup := List.pairwise_singleton _ _
      isNew := by
        intro r hr
        rw [List.mem_singleton.1 hr]
        exact s.not_allocated_alloc (detailsConfiguration condition [])
      details := by
        intro r hr
        rw [List.mem_singleton.1 hr]
        refine ⟨form, ?_, hstands.of_formsGrow hlast⟩
        change t.configurations.Allocated s.configurations.next ∧
          t.configurations.get s.configurations.next = _
        rw [hconfigurations]
        exact ⟨Table.allocated_push_next _ _, Table.get_push_next _ _⟩ }

theorem addDetailsConfiguration_apply (formModule : Ref FormModule) (processId : Json)
    (s : Store) :
    (addDetailsConfiguration formModule processId s).2 =
      (DetailsForm.addTo
        (withBlank formModule (Vocabulary.processCondition.fill processId.display) s).1
        (withBlank formModule (Vocabulary.processCondition.fill processId.display) s).2).2 := by
  -- what is built on the configuration plays no part, and is not to be computed here
  have hblank (next : Ref Configuration → Build (Ref Form)) :
      ((do
        let configuration ← alloc
          (detailsConfiguration (Vocabulary.processCondition.fill processId.display) [])
        FormModule.append formModule configuration
        let _ ← next configuration : Build Unit) s).2 =
      (next (withBlank formModule (Vocabulary.processCondition.fill processId.display) s).1
        (withBlank formModule (Vocabulary.processCondition.fill processId.display) s).2).2 := rfl
  exact hblank DetailsForm.addTo

theorem addDetailsConfiguration_added {formModule : Ref FormModule} {s : Store}
    (hallocated : s.Allocated formModule) (processId : Json) :
    (addDetailsConfiguration formModule processId s).2.elements = s.elements ∧
      ∃ made, DetailsAdded formModule (Vocabulary.processCondition.fill processId.display) [made] s
        (addDetailsConfiguration formModule processId s).2 := by
  rw [addDetailsConfiguration_apply, DetailsForm.addTo_apply]
  obtain ⟨hgrow, hstands⟩ := DetailsForm.build_grows
    (withBlank formModule (Vocabulary.processCondition.fill processId.display) s).2
  generalize DetailsForm.build _ = built at hgrow hstands ⊢
  exact ⟨hgrow.elements, _, .of_form hallocated hgrow hstands⟩

/-! ## One element -/

theorem formModuleOf_apply (formModule : Ref FormModule) (st : State) :
    formModuleOf (.entity (.formModule formModule)) st = (.ok formModule, st) := rfl

/-- An element that lacks no form is passed over. -/
theorem supplyOne_of_not_lacksForm {st : State} {e : Ref Element}
    (h : (st.store.get e).lacksForm = false) (process : Ref Process) :
    ∃ entries, supplyOne process e st = (.ok false, { st with log := st.log ++ entries }) ∧
      ∀ entry ∈ entries, ¬ entry.IsWarning := by
  rw [supplyOne, bind_ok (liftM_build_apply _ _)]
  simp only [fetch_apply]
  cases hget : st.store.get e
  case startEvent event =>
    rw [hget] at h
    have hkey : event.formKey.isNull = false := h
    simp only [Element.startEvent?, hkey, Bool.false_eq_true, if_false]
    exact ⟨[_], rfl, by simp⟩
  all_goals exact ⟨[], by rw [List.append_nil]; rfl, fun _ h ↦ absurd h List.not_mem_nil⟩

/-- An element that lacks a form is given one, and a configuration is made for it. -/
theorem supplyOne_of_lacksForm {st : State} {formModule : Ref FormModule} {e : Ref Element}
    (hmodule : st.conversion.artifacts.get Vocabulary.formModuleKey
      = .entity (.formModule formModule))
    (h : (st.store.get e).lacksForm = true) (process : Ref Process) :
    ∃ entry, supplyOne process e st =
        (.ok true,
          { st with
            store := (addDetailsConfiguration formModule (st.store.get process).id
              (st.store.modify e (·.withFormKey (.text Vocabulary.defaultStartForm)))).2
            log := st.log ++ [entry] }) ∧
      ¬ entry.IsWarning := by
  rw [supplyOne, bind_ok (liftM_build_apply _ _)]
  simp only [fetch_apply]
  cases hget : st.store.get e
  case startEvent event =>
    rw [hget] at h
    have hkey : event.formKey.isNull = true := h
    simp only [Element.startEvent?, hkey, if_true]
    rw [bind_ok (requireArtifact_apply hmodule rfl), bind_ok (liftM_build_apply _ _),
      bind_ok (formModuleOf_apply _ _), bind_ok (liftM_build_apply _ _),
      bind_ok (liftM_build_apply _ _), bind_ok (note_apply _ _ _ _), pure_apply]
    simp only [update_apply, fetch_apply]
    have hprocess : (st.store.modify e (·.withFormKey (.text Vocabulary.defaultStartForm))).get
        process = st.store.get process := rfl
    rw [hprocess]
    exact ⟨_, rfl, by simp⟩
  all_goals
    rw [hget] at h
    cases h

/-- The supply of one element, where the form module is there: what it does to form modules, and
that it changes no other element. -/
theorem supplyOne_added {st : State} {formModule : Ref FormModule}
    (hmodule : st.conversion.artifacts.get Vocabulary.formModuleKey
      = .entity (.formModule formModule))
    (hallocated : st.store.Allocated formModule) (process : Ref Process) (e : Ref Element) :
    ∃ store made entries,
      supplyOne process e st = (.ok (st.store.get e).lacksForm,
        { st with store, log := st.log ++ entries }) ∧
      DetailsAdded formModule
        (Vocabulary.processCondition.fill (st.store.get process).id.display) made st.store store ∧
      made.length = (if (st.store.get e).lacksForm then [e] else []).length ∧
      store.elements = (if (st.store.get e).lacksForm then
        st.store.modify e (·.withFormKey (.text Vocabulary.defaultStartForm))
          else st.store).elements ∧
      ∀ entry ∈ entries, ¬ entry.IsWarning := by
  cases hlacks : (st.store.get e).lacksForm with
  | false =>
    obtain ⟨entries, hrun, hentries⟩ := supplyOne_of_not_lacksForm hlacks process
    exact ⟨st.store, [], entries, hrun, .of_elements st.store _, rfl, rfl, hentries⟩
  | true =>
    obtain ⟨entry, hrun, hentry⟩ := supplyOne_of_lacksForm hmodule hlacks process
    obtain ⟨helements, made, hadded⟩ := addDetailsConfiguration_added
      (s := st.store.modify e (·.withFormKey (.text Vocabulary.defaultStartForm))) hallocated
      (st.store.get process).id
    have hkeyed (condition : String) : DetailsAdded formModule condition [] st.store
        (st.store.modify e (·.withFormKey (.text Vocabulary.defaultStartForm))) :=
      .of_elements st.store _
    -- first the key is given, which is a change to elements, and then the form is added
    refine ⟨_, [made], [entry], hrun, (hkeyed _).trans hadded, rfl, ?_, by simpa using hentry⟩
    rw [helements, if_pos rfl]

/-- The supply of one element that exists. -/
theorem supplyOne_supplied {st : State} {formModule : Ref FormModule}
    (hmodule : st.conversion.artifacts.get Vocabulary.formModuleKey
      = .entity (.formModule formModule))
    (hallocated : st.store.Allocated formModule) (process : Ref Process) {e : Ref Element}
    (he : st.store.Allocated e) :
    ∃ store made entries,
      supplyOne process e st = (.ok (st.store.get e).lacksForm,
        { st with store, log := st.log ++ entries }) ∧
      StartFormsSupplied formModule
        (Vocabulary.processCondition.fill (st.store.get process).id.display)
        (if (st.store.get e).lacksForm then [e] else []) made st.store store ∧
      ∀ entry ∈ entries, ¬ entry.IsWarning := by
  obtain ⟨store, made, entries, hrun, hadded, hlength, helements, hentries⟩ :=
    supplyOne_added hmodule hallocated process e
  refine ⟨store, made, entries, hrun, ⟨hadded, hlength, ?_, ?_⟩, hentries⟩
  · rw [helements]
    split
    · exact Table.size_set ..
    · rfl
  · intro r
    change store.elements.get r = _
    rw [helements]
    cases (st.store.get e).lacksForm with
    | false => rfl
    | true =>
      rw [if_pos rfl, if_pos rfl]
      by_cases hr : r = e
      · rw [hr, if_pos (List.mem_singleton_self e)]
        exact Store.get_set_self he _
      · rw [if_neg fun hmem ↦ hr (List.mem_singleton.1 hmem)]
        exact Store.get_set_of_ne _ hr _

/-! ## All elements -/

/-- The supply of a list of elements, where the form module is there. -/
theorem supplyAll_supplied {formModule : Ref FormModule} (process : Ref Process)
    (elements : List (Ref Element)) {st : State}
    (hmodule : st.conversion.artifacts.get Vocabulary.formModuleKey
      = .entity (.formModule formModule))
    (hallocated : st.store.Allocated formModule)
    (hlisted : ∀ r ∈ elements, st.store.Allocated r) :
    ∃ store made entries,
      supplyAll process elements st = (.ok (lacking st.store elements),
        { st with store, log := st.log ++ entries }) ∧
      StartFormsSupplied formModule
        (Vocabulary.processCondition.fill (st.store.get process).id.display)
        (lacking st.store elements) made st.store store ∧
      ∀ entry ∈ entries, ¬ entry.IsWarning := by
  induction elements generalizing st with
  | nil =>
    exact ⟨st.store, [], [], by rw [List.append_nil]; rfl, .refl _,
      fun _ h ↦ absurd h List.not_mem_nil⟩
  | cons e rest ih =>
    obtain ⟨middle, made, entries, hrun, hsupplied, hentries⟩ :=
      supplyOne_supplied hmodule hallocated process (hlisted e List.mem_cons_self)
    -- the state between is one in which the rest can be supplied
    have hprocess : middle.get process = st.store.get process :=
      congrArg (·.get process) hsupplied.processes
    obtain ⟨store, others, more, hrest, hrestSupplied, hmore⟩ :=
      @ih { st with store := middle, log := st.log ++ entries } hmodule
        (hsupplied.allocated_formModule hallocated)
        fun r hr ↦ hsupplied.allocated_element (hlisted r (List.mem_cons_of_mem e hr))
    refine ⟨store, made ++ others, entries ++ more, ?_, ?_, ?_⟩
    · rw [supplyAll, bind_ok hrun, bind_ok hrest, hsupplied.lacking_cons rest, ← List.append_assoc]
      cases (st.store.get e).lacksForm <;> rfl
    · rw [hsupplied.lacking_cons rest]
      rw [hprocess] at hrestSupplied
      exact hsupplied.trans hrestSupplied
    · intro entry h
      rcases List.mem_append.1 h with hfirst | hsecond
      · exact hentries entry hfirst
      · exact hmore entry hsecond

/-! ## The supply of start forms -/

theorem supplyStartForms_apply {st : State} {process : Ref Process} {elements : List (Ref Element)}
    (hprocess : st.conversion.process = some process)
    (helements : (st.store.get process).elements = some elements) :
    supplyStartForms st = supplyAll process elements st := by
  rw [supplyStartForms, bind_ok (current_apply st), hprocess]
  change (elementsOf process >>= supplyAll process) st = _
  rw [bind_ok (elementsOf_apply helements)]

/-- The warning that several start events of a process had no form. -/
def severalStartsWarning (processId : Json) (count : Nat) : LogEntry :=
  .record .warning .artifactSetup
    (s!"Process '{processId.display}' has {count} start events without form; "
      ++ "each adds its own details-form configuration")

/-- **What the supply of start forms does.** If the process has a list of elements and the form
module is there, the supply succeeds. It returns the start events that lacked a form, each once,
and has given them the default start form; the form module has one new configuration for each,
whose form amounts to the same as any other details form. The conversion, the tokens and all other
records are as before, and a warning is given exactly if several start events lacked a form. -/
theorem startForms_exact {st : State} {process : Ref Process} {elements : List (Ref Element)}
    {formModule : Ref FormModule} (hprocess : st.conversion.process = some process)
    (helements : (st.store.get process).elements = some elements)
    (hmodule : st.conversion.artifacts.get Vocabulary.formModuleKey
      = .entity (.formModule formModule))
    (hallocated : st.store.Allocated formModule)
    (hlisted : ∀ r ∈ elements, st.store.Allocated r) :
    ∃ store made entries,
      supplyStartForms st = (.ok (lacking st.store elements),
        { st with store, log := st.log ++ entries }) ∧
      Listener.completeStartForms st = (.ok (),
        { st with
          store
          log := st.log ++ entries ++
            if 1 < (lacking st.store elements).length then
              [severalStartsWarning (st.store.get process).id (lacking st.store elements).length]
            else [] }) ∧
      (∀ entry ∈ entries, ¬ entry.IsWarning) ∧
      (lacking st.store elements).Nodup ∧
      (∀ r, r ∈ lacking st.store elements ↔ r ∈ elements ∧ (st.store.get r).lacksForm = true) ∧
      StartFormsSupplied formModule
        (Vocabulary.processCondition.fill (st.store.get process).id.display)
        (lacking st.store elements) made st.store store ∧
      ∀ r ∈ made, ∃ form, (store.get r).forms = [form] ∧
        ∀ (other : Store) (owner : Ref Configuration), store.formContent form
          = (DetailsForm.addTo owner other).2.formContent (DetailsForm.addTo owner other).1 := by
  obtain ⟨store, made, entries, hall, hsupplied, hentries⟩ :=
    supplyAll_supplied process elements hmodule hallocated hlisted
  have hrun : supplyStartForms st = (.ok (lacking st.store elements),
      { st with store, log := st.log ++ entries }) :=
    (supplyStartForms_apply hprocess helements).trans hall
  refine ⟨store, made, entries, hrun, ?_, hentries, nodup_lacking _ _, fun r ↦ mem_lacking,
    hsupplied, fun r hr ↦ ?_⟩
  · rw [Listener.completeStartForms, bind_ok hrun]
    by_cases hcount : 1 < (lacking st.store elements).length
    · have hid : store.get process = st.store.get process :=
        congrArg (·.get process) hsupplied.processes
      let between : State := { st with store, log := st.log ++ entries }
      have hbetween : between.conversion.process = some process := hprocess
      simp only [if_pos hcount]
      rw [bind_ok (requireProcess_apply hbetween _), bind_ok (liftM_build_apply _ _), note_apply,
        fetch_apply, hid]
      rfl
    · simp only [if_neg hcount, pure_apply, List.append_nil]
  · obtain ⟨form, hget, hform⟩ := hsupplied.details r hr
    refine ⟨form, ?_, fun other owner ↦ ?_⟩
    · rw [hget.2, detailsConfiguration]
    · rw [hform.formContent_eq, (DetailsForm.addTo_stands owner other).formContent_eq]

/-- A conversion whose process lists the same start event twice, with an end event between. -/
def listedTwice : State where
  store :=
    { Store.empty with
      processes := Table.empty.push
        { id := .text "review", name := none, elements := some [⟨0⟩, ⟨1⟩, ⟨0⟩] }
      elements := (Table.empty.push
        (.startEvent { id := "begin", name := none, formKey := .null, initiator := none })).push
        (.endEvent { id := "end", name := none })
      configurations := Table.empty.push { evaluator := none, condition := none, forms := [] }
      formModules := Table.empty.push { id := none, configurations := [⟨0⟩] } }
  conversion :=
    { definition := ⟨0⟩
      process := some ⟨0⟩
      artifacts := Registry.empty.put Vocabulary.formModuleKey (.entity (.formModule ⟨0⟩)) }
  tokens := ⟨[], 0⟩
  log := []

/-- A start event that is listed twice is supplied once. -/
theorem startForms_exact_listedTwice :
    ∃ store made entries,
      supplyStartForms listedTwice
        = (.ok [⟨0⟩], { listedTwice with store, log := listedTwice.log ++ entries }) ∧
      StartFormsSupplied ⟨0⟩ "activiti$review" [⟨0⟩] made listedTwice.store store := by
  obtain ⟨store, made, entries, hrun, -, -, -, -, hsupplied, -⟩ :=
    @startForms_exact listedTwice ⟨0⟩ [⟨0⟩, ⟨1⟩, ⟨0⟩] ⟨0⟩ rfl rfl rfl (by decide) (by decide)
  have hlacking : lacking listedTwice.store [⟨0⟩, ⟨1⟩, ⟨0⟩] = [⟨0⟩] := by decide
  have hcondition :
      Vocabulary.processCondition.fill (listedTwice.store.get (⟨0⟩ : Ref Process)).id.display
        = "activiti$review" := by decide
  rw [hlacking] at hrun hsupplied
  rw [hcondition] at hsupplied
  exact ⟨store, made, entries, hrun, hsupplied⟩

end Conversion

end WorkflowArtifacts
