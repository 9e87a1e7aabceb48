import WorkflowArtifacts.Proofs.Conversion.GraphFrame

/-!
# Where the supply of start forms ends

The supply goes through the elements of the process and asks for the form module at the first one
that lacks a form. If there is none, nothing has been touched by then. But what is under its key
may be something else, and that shows only when the configuration is to be added, after the start
event has been given its form key.

So a supply that fails leaves everything as it was, except in this one case: then the first start
event that lacked a form has one now, without a configuration to go with it. A later supply takes
it for a start event that came with a form, and passes over it.

`SupplyEnds` lists all the ways in which a supply ends: by success, or by a fault and with the
state that it leaves. They are told apart by what is there to begin with: the process, its list of
elements, the first listed element that lacks a form, and what is under the key of the form module.
-/

namespace WorkflowArtifacts.Conversion

/-! ## The first element that lacks a form -/

theorem lacking_eq_nil_iff {s : Store} {elements : List (Ref Element)} :
    lacking s elements = [] ↔ ∀ r ∈ elements, (s.get r).lacksForm = false := by
  rw [List.eq_nil_iff_forall_not_mem]
  simp [mem_lacking]

theorem exists_of_lacking_eq_cons {s : Store} {elements more : List (Ref Element)} {e : Ref Element}
    (h : lacking s elements = e :: more) :
    ∃ before rest, elements = before ++ e :: rest ∧
      (∀ r ∈ before, (s.get r).lacksForm = false) ∧ (s.get e).lacksForm = true := by
  rw [lacking] at h
  cases hfilter : elements.filter fun r ↦ (s.get r).lacksForm with
  | nil =>
    rw [hfilter] at h
    cases h
  | cons first others =>
    rw [hfilter, List.eraseDups_cons] at h
    cases h
    obtain ⟨before, rest, hsplit, hbefore, he, -⟩ := List.filter_eq_cons_iff.1 hfilter
    exact ⟨before, rest, hsplit, fun r hr ↦ Bool.eq_false_iff.2 (hbefore r hr), he⟩

/-- Once the first of them has a form, the others still lack theirs. -/
theorem lacking_keyed {st : State} {elements more : List (Ref Element)} {e : Ref Element}
    (h : lacking st.store elements = e :: more) (hallocated : st.store.Allocated e) :
    lacking (keyed e st).store elements = more := by
  have hget (r : Ref Element) : ((keyed e st).store.get r).lacksForm
      = ((!r == e) && (st.store.get r).lacksForm) := by
    by_cases hr : r = e
    · have hkeyed : (keyed e st).store.get e = _ := Store.get_set_self hallocated _
      rw [hr, hkeyed, Element.lacksForm_withFormKey_text]
      simp
    · have hkeyed : (keyed e st).store.get r = st.store.get r := Store.get_set_of_ne _ hr _
      rw [hkeyed]
      simp [hr]
  rw [lacking] at h ⊢
  simp only [hget]
  rw [← List.filter_filter]
  cases hfilter : elements.filter fun r ↦ (st.store.get r).lacksForm with
  | nil =>
    rw [hfilter] at h
    cases h
  | cons first others =>
    rw [hfilter, List.eraseDups_cons] at h
    cases h
    simp

/-! ## The ways in which a supply ends -/

/-- A supply of start forms has ended, with an outcome and a state. -/
inductive SupplyEnds (st : State) : Except Fault (List (Ref Element)) → State → Prop where
  /-- There was no process. -/
  | noProcess (hprocess : st.conversion.process = none) : SupplyEnds st (.error .noProcess) st
  /-- The process had no list of elements. -/
  | malformed {process : Ref Process} (hprocess : st.conversion.process = some process)
      (helements : (st.store.get process).elements = none) :
      SupplyEnds st (.error (.notIterable Json.null.nature)) st
  /-- There was nothing to do. -/
  | idle {process : Ref Process} {elements : List (Ref Element)} {entries : List LogEntry}
      (hprocess : st.conversion.process = some process)
      (helements : (st.store.get process).elements = some elements)
      (hlacking : lacking st.store elements = []) :
      SupplyEnds st (.ok []) { st with log := st.log ++ entries }
  /-- The form module was missing. -/
  | missing {process : Ref Process} {elements more : List (Ref Element)} {e : Ref Element}
      {entries : List LogEntry} (hprocess : st.conversion.process = some process)
      (helements : (st.store.get process).elements = some elements)
      (hlacking : lacking st.store elements = e :: more)
      (habsent : (st.conversion.artifacts.get Vocabulary.formModuleKey).isAbsent = true) :
      SupplyEnds st (.error (.missingArtifact Vocabulary.formModuleKey))
        { st with log := st.log ++ entries }
  /-- Something else was in the place of the form module. -/
  | misplaced {process : Ref Process} {elements more : List (Ref Element)} {e : Ref Element}
      {entries : List LogEntry} {item : Item} (hprocess : st.conversion.process = some process)
      (helements : (st.store.get process).elements = some elements)
      (hlacking : lacking st.store elements = e :: more)
      (hitem : st.conversion.artifacts.get Vocabulary.formModuleKey = item)
      (hpresent : item.isAbsent = false) (hne : ∀ r, item ≠ .entity (.formModule r)) :
      SupplyEnds st (.error (.noPart (item.nature (keyed e st).store) "add_configuration"))
        { keyed e st with log := st.log ++ entries }
  /-- The form module was there. -/
  | supplied {process : Ref Process} {elements more : List (Ref Element)} {e : Ref Element}
      {formModule : Ref FormModule} {given : List (Ref Element)} {next : State}
      (hprocess : st.conversion.process = some process)
      (helements : (st.store.get process).elements = some elements)
      (hlacking : lacking st.store elements = e :: more)
      (hmodule : st.conversion.artifacts.get Vocabulary.formModuleKey
        = .entity (.formModule formModule)) :
      SupplyEnds st (.ok given) next

/-- Where the form module is there, nothing can go wrong. -/
theorem exists_of_supplyOne_ok {formModule : Ref FormModule} {st : State}
    (hmodule : st.conversion.artifacts.get Vocabulary.formModuleKey
      = .entity (.formModule formModule)) (process : Ref Process) (e : Ref Element) :
    ∃ given next, supplyOne process e st = (.ok given, next) ∧
      next.conversion = st.conversion := by
  cases hlacks : (st.store.get e).lacksForm with
  | false =>
    obtain ⟨entries, hrun, -⟩ := supplyOne_of_not_lacksForm hlacks process
    exact ⟨_, _, hrun, rfl⟩
  | true =>
    obtain ⟨entry, hrun, -⟩ := supplyOne_of_lacksForm hmodule hlacks process
    exact ⟨_, _, hrun, rfl⟩

theorem exists_of_supplyAll_ok {formModule : Ref FormModule} (process : Ref Process)
    (elements : List (Ref Element)) {st : State}
    (hmodule : st.conversion.artifacts.get Vocabulary.formModuleKey
      = .entity (.formModule formModule)) :
    ∃ given next, supplyAll process elements st = (.ok given, next) := by
  induction elements generalizing st with
  | nil => exact ⟨[], st, rfl⟩
  | cons e rest ih =>
    obtain ⟨given, middle, hrun, hsame⟩ := exists_of_supplyOne_ok hmodule process e
    obtain ⟨others, next, hrest⟩ := @ih middle (by rw [hsame, hmodule])
    rw [supplyAll, bind_ok hrun, bind_ok hrest]
    exact ⟨_, next, rfl⟩

theorem supplyStartForms_of_none {st : State} (h : st.conversion.process = none) :
    supplyStartForms st = (.error .noProcess, st) := by
  rw [supplyStartForms, bind_ok (current_apply st), h]
  rfl

theorem supplyStartForms_of_malformed {st : State} {process : Ref Process}
    (hprocess : st.conversion.process = some process)
    (helements : (st.store.get process).elements = none) :
    supplyStartForms st = (.error (.notIterable Json.null.nature), st) := by
  rw [supplyStartForms, bind_ok (current_apply st), hprocess]
  exact bind_error (elementsOf_of_none helements) _

/-- Every supply ends in one of these ways. -/
theorem supplyEnds (st : State) :
    SupplyEnds st (supplyStartForms st).1 (supplyStartForms st).2 := by
  cases hprocess : st.conversion.process with
  | none =>
    rw [supplyStartForms_of_none hprocess]
    exact .noProcess hprocess
  | some process =>
    cases helements : (st.store.get process).elements with
    | none =>
      rw [supplyStartForms_of_malformed hprocess helements]
      exact .malformed hprocess helements
    | some elements =>
      rw [supplyStartForms_apply hprocess helements]
      cases hlacking : lacking st.store elements with
      | nil =>
        obtain ⟨entries, hrun⟩ :=
          supplyAll_of_none_lacking process (lacking_eq_nil_iff.1 hlacking)
        rw [hrun]
        exact .idle hprocess helements hlacking
      | cons e more =>
        -- what comes before the first element that lacks a form is passed over
        obtain ⟨before, rest, hsplit, hbefore, he⟩ := exists_of_lacking_eq_cons hlacking
        obtain ⟨entries, hskip, -⟩ := supplyAll_append process (e :: rest) hbefore
        rcases formModule_cases st with
          habsent | ⟨item, hitem, hpresent, hne⟩ | ⟨formModule, hmodule⟩
        · have hstop := @supplyOne_of_absent { st with log := st.log ++ entries } e he habsent
            process
          rw [hsplit, hskip, supplyAll, bind_error hstop]
          exact .missing hprocess helements hlacking habsent
        · have hstop := @supplyOne_of_misplaced { st with log := st.log ++ entries } e item he hitem
            hpresent hne process
          rw [hsplit, hskip, supplyAll, bind_error hstop]
          exact .misplaced hprocess helements hlacking hitem hpresent hne
        · obtain ⟨given, next, hrun⟩ := exists_of_supplyAll_ok process elements hmodule
          rw [hrun]
          exact .supplied hprocess helements hlacking hmodule

/-! ## What a failure leaves -/

/-- What a supply that has failed leaves behind, if it has given the default start form to the
spoiled elements without adding a configuration for them. -/
structure SupplyStopped (st : State) (fault : Fault) (spoiled : List (Ref Element)) (next : State) :
    Prop where
  /-- The conversion is the same, with its artifacts. -/
  conversion : next.conversion = st.conversion
  /-- The tokens are the same. -/
  tokens : next.tokens = st.tokens
  /-- All records but the elements of processes are the same. -/
  store : next.store = { st.store with elements := next.store.elements }
  /-- The spoiled elements have the default start form, and the others are the same. -/
  elements : ∀ r : Ref Element, next.store.get r =
    if r ∈ spoiled then (st.store.get r).withFormKey (.text Vocabulary.defaultStartForm)
    else st.store.get r
  /-- There are no other elements than before. -/
  elements_size : next.store.elements.size = st.store.elements.size
  /-- The log has not got shorter. -/
  log : st.log <+: next.log
  /-- Unless something is under the key of the form module that is no form module, nothing is
  spoiled and all records are the same; and if that was found, one element is spoiled. -/
  cause :
    spoiled = [] ∧ next.store = st.store ∧ (fault = .noProcess ∨
      fault = .notIterable Json.null.nature ∨ fault = .missingArtifact Vocabulary.formModuleKey) ∨
    ∃ e item, spoiled = [e] ∧ st.conversion.artifacts.get Vocabulary.formModuleKey = item ∧
      item.isAbsent = false ∧ (∀ r, item ≠ .entity (.formModule r)) ∧
      fault = .noPart (item.nature next.store) "add_configuration"
  /-- The spoiled element is the first that lacked a form, and those after it still lack theirs. -/
  lacking : ∀ process elements, st.conversion.process = some process →
    (st.store.get process).elements = some elements →
    lacking st.store elements = spoiled ++ lacking next.store elements

namespace SupplyStopped

variable {st next : State} {fault : Fault} {spoiled : List (Ref Element)}

/-- Where nothing but the log has changed, nothing is spoiled. -/
theorem of_onlyLogs (h : OnlyLogs st next) (hlog : st.log <+: next.log)
    (hfault : fault = .noProcess ∨ fault = .notIterable Json.null.nature ∨
      fault = .missingArtifact Vocabulary.formModuleKey) : SupplyStopped st fault [] next where
  conversion := h.conversion
  tokens := h.tokens
  store := by rw [h.store]
  elements r := by rw [if_neg List.not_mem_nil, h.store]
  elements_size := by rw [h.store]
  log := hlog
  cause := .inl ⟨rfl, h.store, hfault⟩
  lacking process elements _ _ := by rw [h.store, List.nil_append]

theorem of_misplaced {process : Ref Process} {elements more : List (Ref Element)} {e : Ref Element}
    {item : Item} (entries : List LogEntry) (hprocess : st.conversion.process = some process)
    (helements : (st.store.get process).elements = some elements)
    (hallocated : ∀ r ∈ elements, st.store.Allocated r)
    (hlacking : Conversion.lacking st.store elements = e :: more)
    (hitem : st.conversion.artifacts.get Vocabulary.formModuleKey = item)
    (hpresent : item.isAbsent = false) (hne : ∀ r, item ≠ .entity (.formModule r)) :
    SupplyStopped st (.noPart (item.nature (keyed e st).store) "add_configuration") [e]
      { keyed e st with log := st.log ++ entries } := by
  have hmem : e ∈ Conversion.lacking st.store elements := hlacking ▸ List.mem_cons_self
  have he : st.store.Allocated e := hallocated e (mem_lacking.1 hmem).1
  refine ⟨rfl, rfl, rfl, fun r ↦ ?_, Table.size_set .., List.prefix_append _ _, ?_, ?_⟩
  · by_cases hr : r = e
    · rw [hr, if_pos (List.mem_singleton_self e)]
      exact Store.get_set_self he _
    · rw [if_neg fun hin ↦ hr (List.mem_singleton.1 hin)]
      exact Store.get_set_of_ne _ hr _
  · exact .inr ⟨e, item, rfl, hitem, hpresent, hne, rfl⟩
  · intro other found hother hfound
    rw [hprocess] at hother
    cases hother
    rw [helements] at hfound
    cases hfound
    rw [hlacking, List.singleton_append]
    exact congrArg (e :: ·) (lacking_keyed hlacking he).symm

end SupplyStopped

theorem exists_stopped_of_supplyEnds {st next : State} {fault : Fault}
    (hlisted : ∀ process elements, st.conversion.process = some process →
      (st.store.get process).elements = some elements → ∀ r ∈ elements, st.store.Allocated r)
    (h : SupplyEnds st (.error fault) next) : ∃ spoiled, SupplyStopped st fault spoiled next := by
  cases h with
  | noProcess => exact ⟨[], .of_onlyLogs ⟨rfl, rfl, rfl⟩ List.prefix_rfl (.inl rfl)⟩
  | malformed => exact ⟨[], .of_onlyLogs ⟨rfl, rfl, rfl⟩ List.prefix_rfl (.inr (.inl rfl))⟩
  | missing => exact ⟨[], .of_onlyLogs ⟨rfl, rfl, rfl⟩ (List.prefix_append _ _) (.inr (.inr rfl))⟩
  | misplaced hprocess helements hlacking hitem hpresent hne =>
    exact ⟨_, .of_misplaced _ hprocess helements (hlisted _ _ hprocess helements) hlacking hitem
      hpresent hne⟩

/-- The state in which a form module has been put under its key. -/
def equipped (formModule : Ref FormModule) (st : State) : State :=
  { st with conversion := { st.conversion with
      artifacts := st.conversion.artifacts.put Vocabulary.formModuleKey
        (.entity (.formModule formModule)) } }

theorem supplyStartForms_equipped {st : State} {process : Ref Process}
    {elements : List (Ref Element)} {formModule : Ref FormModule}
    (hprocess : st.conversion.process = some process)
    (helements : (st.store.get process).elements = some elements)
    (hallocated : st.store.Allocated formModule) (hlisted : ∀ r ∈ elements, st.store.Allocated r) :
    ∃ store made entries,
      supplyStartForms (equipped formModule st) = (.ok (lacking st.store elements),
        { equipped formModule st with store, log := st.log ++ entries }) ∧
      StartFormsSupplied formModule
        (Vocabulary.processCondition.fill (st.store.get process).id.display)
        (lacking st.store elements) made st.store store := by
  obtain ⟨store, made, entries, hrun, hsupplied, -⟩ :=
    @supplyAll_supplied formModule process elements (equipped formModule st)
      (Registry.get_put_self _ _ _) hallocated hlisted
  have happly : supplyStartForms (equipped formModule st)
      = supplyAll process elements (equipped formModule st) :=
    supplyStartForms_apply hprocess helements
  exact ⟨store, made, entries, happly.trans hrun, hsupplied⟩

/-- **What a failed supply of start forms leaves.** All is as it was, the process, the artifacts
and the records, with one exception: if something that is no form module is under the key of the
form module, the first start event that lacked a form has the default one now. So when a form
module has been put under the key, a new supply serves all that lacked a form, but not the one that
was spoiled: it gives a form to each of the others and adds a configuration for it. -/
theorem supplyStartForms_stopped {st next : State} {fault : Fault}
    (hlisted : ∀ process elements, st.conversion.process = some process →
      (st.store.get process).elements = some elements → ∀ r ∈ elements, st.store.Allocated r)
    (h : supplyStartForms st = (.error fault, next)) :
    ∃ spoiled, SupplyStopped st fault spoiled next ∧
      ∀ process elements formModule, st.conversion.process = some process →
        (st.store.get process).elements = some elements → st.store.Allocated formModule →
        ∃ store made entries,
          supplyStartForms (equipped formModule next) = (.ok (lacking next.store elements),
            { equipped formModule next with store, log := next.log ++ entries }) ∧
          StartFormsSupplied formModule
            (Vocabulary.processCondition.fill (st.store.get process).id.display)
            (lacking next.store elements) made next.store store := by
  have hends := supplyEnds st
  rw [h] at hends
  obtain ⟨spoiled, hstopped⟩ := exists_stopped_of_supplyEnds hlisted hends
  refine ⟨spoiled, hstopped, fun process elements formModule hprocess helements hallocated ↦ ?_⟩
  have hsame : next.store.get process = st.store.get process := by
    rw [hstopped.store]
    rfl
  have hmodules : next.store.formModules = st.store.formModules := by rw [hstopped.store]
  have hmodule : next.store.Allocated formModule := by
    change next.store.formModules.Allocated formModule
    rw [hmodules]
    exact hallocated
  rw [← hsame]
  refine supplyStartForms_equipped (by rw [hstopped.conversion, hprocess])
    (by rw [hsame, helements]) hmodule fun r hr ↦ ?_
  exact Nat.lt_of_lt_of_eq (hlisted process elements hprocess helements r hr)
    hstopped.elements_size.symm

/-- A conversion of a process with two start events without forms, with a text under the key of the
form module. -/
def misplacedText : State where
  store :=
    { Store.empty with
      processes := Table.empty.push
        { id := .text "review", name := none, elements := some [⟨0⟩, ⟨1⟩] }
      elements := ⟨#[
        .startEvent { id := "begin", name := none, formKey := .null, initiator := none },
        .startEvent { id := "resume", name := none, formKey := .null, initiator := none }]⟩
      formModules := Table.empty.push { id := none, configurations := [] } }
  conversion :=
    { definition := ⟨0⟩
      process := some ⟨0⟩
      artifacts := Registry.empty.put Vocabulary.formModuleKey (.data (.text "x")) }
  tokens := ⟨[], 0⟩
  log := []

theorem supplyStartForms_misplacedText :
    supplyStartForms misplacedText
      = (.error (.noPart (Json.text "x").nature "add_configuration"), keyed ⟨0⟩ misplacedText) :=
  rfl

/-- The first start event is spoiled, and a new supply serves the second alone. -/
theorem supplyStartForms_stopped_misplacedText :
    ∃ fault next spoiled store entries,
      supplyStartForms misplacedText = (.error fault, next) ∧
      SupplyStopped misplacedText fault spoiled next ∧
      supplyStartForms (equipped ⟨0⟩ next) = (.ok (lacking next.store [⟨0⟩, ⟨1⟩]),
        { equipped ⟨0⟩ next with store, log := next.log ++ entries }) := by
  obtain ⟨spoiled, hstopped, hlater⟩ := supplyStartForms_stopped
    (by
      rintro process elements ⟨⟩ ⟨⟩
      decide) supplyStartForms_misplacedText
  obtain ⟨store, -, entries, hsupply, -⟩ := hlater ⟨0⟩ [⟨0⟩, ⟨1⟩] ⟨0⟩ rfl rfl (by decide)
  exact ⟨_, _, spoiled, store, entries, supplyStartForms_misplacedText, hstopped, hsupply⟩

/-- A failed supply may give a form to a start event, which no later supply serves. -/
theorem supplyStartForms_spoils :
    ∃ next last, supplyStartForms misplacedText
        = (.error (.noPart (Json.text "x").nature "add_configuration"), next) ∧
      lacking misplacedText.store [⟨0⟩, ⟨1⟩] = [⟨0⟩, ⟨1⟩] ∧
      next.store.get (⟨0⟩ : Ref Element) ≠ misplacedText.store.get (⟨0⟩ : Ref Element) ∧
      supplyStartForms (equipped ⟨0⟩ next) = (.ok [⟨1⟩], last) ∧
      (last.store.get (⟨0⟩ : Ref FormModule)).configurations.length = 1 := by
  obtain ⟨store, made, entries, hlater, hsupplied⟩ :=
    @supplyStartForms_equipped (keyed ⟨0⟩ misplacedText) ⟨0⟩ [⟨0⟩, ⟨1⟩] ⟨0⟩ rfl rfl (by decide)
      (by decide)
  have hlacking : lacking (keyed ⟨0⟩ misplacedText).store [⟨0⟩, ⟨1⟩] = [⟨1⟩] := by decide
  rw [hlacking] at hlater hsupplied
  refine ⟨_, _, supplyStartForms_misplacedText, by decide, ?_, hlater, ?_⟩
  · intro h
    have hlacks : ((keyed ⟨0⟩ misplacedText).store.get (⟨0⟩ : Ref Element)).lacksForm
        ≠ (misplacedText.store.get (⟨0⟩ : Ref Element)).lacksForm := by decide
    exact hlacks (congrArg Element.lacksForm h)
  · change (store.get (⟨0⟩ : Ref FormModule)).configurations.length = 1
    rw [hsupplied.appended]
    exact (congrArg List.length (List.nil_append made)).trans hsupplied.length_made

end WorkflowArtifacts.Conversion
