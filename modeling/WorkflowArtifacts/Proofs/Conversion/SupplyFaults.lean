import WorkflowArtifacts.Proofs.Conversion.FailedSupply

/-!
# When the supply of start forms fails

Four things are looked at, in this order: whether there is a process, whether it has a list of
elements, whether one of these is a start event without a form key, and what is under the key of the
form module. The outcome is settled by them alone, and each fault is named by the one thing that was
amiss.

## The order of the questions

The registry is asked for the form module only on behalf of a start event that needs a form. So
where no listed start event does, the supply succeeds whatever is in the registry, and where one
does, it succeeds only with a form module. Of the items that are none, only the absent value counts
as missing; an empty text or a zero is an artifact like any other, which turns out to have no
configurations.
-/

namespace WorkflowArtifacts

theorem Registry.get_of_notMem {registry : Registry} {key : String} (h : key ∉ registry.keys) :
    registry.get key = .data .null := by
  have hnone : registry.entries.lookup key = none := by
    rw [List.lookup_eq_none_iff]
    intro entry hentry
    have hne : key ≠ entry.1 := fun heq ↦ h (heq ▸ List.mem_map_of_mem hentry)
    simpa using hne
  rw [get, hnone, Option.getD_none]

theorem Item.isAbsent_iff {item : Item} : item.isAbsent = true ↔ item = .data .null := by
  cases item with
  | data value => rw [isAbsent, Json.isNull_iff, Item.data.injEq]
  | _ => simp [isAbsent]

@[simp] theorem Element.kind_withFormKey (e : Element) (key : Json) :
    (e.withFormKey key).kind = e.kind := by
  cases e <;> rfl

theorem Element.lacksForm_iff {e : Element} :
    e.lacksForm = true ↔ ∃ event, e = .startEvent event ∧ event.formKey = .null := by
  cases e with
  | startEvent event => simp [lacksForm, Json.isNull_iff]
  | _ => simp [lacksForm]

namespace Conversion

/-! ## What is looked at -/

/-- Whether there is a process and these are the elements that it lists. -/
def Lists (st : State) (elements : List (Ref Element)) : Prop :=
  ∃ process, st.conversion.process = some process ∧
    (st.store.get process).elements = some elements

/-- Whether one of the listed elements is a start event without a form key. -/
def NeedsForm (st : State) : Prop :=
  ∃ elements, Lists st elements ∧
    ∃ r ∈ elements, ∃ event, st.store.get r = .startEvent event ∧ event.formKey = .null

theorem Lists.unique {st : State} {elements others : List (Ref Element)} (h : Lists st elements)
    (h' : Lists st others) : elements = others := by
  obtain ⟨process, hprocess, helements⟩ := h
  obtain ⟨other, hother, hothers⟩ := h'
  obtain rfl : process = other := Option.some.inj (hprocess.symm.trans hother)
  exact Option.some.inj (helements.symm.trans hothers)

theorem needsForm_iff {st : State} {elements : List (Ref Element)} (h : Lists st elements) :
    NeedsForm st ↔ lacking st.store elements ≠ [] := by
  rw [Ne, lacking_eq_nil_iff]
  constructor
  · rintro ⟨others, hothers, r, hr, hlacks⟩ hnone
    rw [h.unique hothers] at hnone
    rw [← Element.lacksForm_iff, hnone r hr] at hlacks
    cases hlacks
  · intro hsome
    push Not at hsome
    obtain ⟨r, hr, hlacks⟩ := hsome
    rw [Ne, Bool.not_eq_false, Element.lacksForm_iff] at hlacks
    exact ⟨elements, h, r, hr, hlacks⟩

/-! ## The nature of what is found -/

/-- A start event that has been given a form key is still an element of the same kind. -/
theorem kind_get_keyed (e r : Ref Element) (st : State) :
    ((keyed e st).store.get r).kind = (st.store.get r).kind := by
  by_cases h : r = e ∧ st.store.Allocated r
  · obtain ⟨rfl, hallocated⟩ := h
    have hkeyed : (keyed r st).store.get r = _ := Store.get_set_self hallocated _
    rw [hkeyed, Element.kind_withFormKey]
  · have hkept : (keyed e st).store.get r = st.store.get r := Store.get_modify_of_not h _
    rw [hkept]

/-- What a message calls an item does not depend on the form keys of start events. -/
theorem nature_keyed (e : Ref Element) (st : State) (item : Item) :
    item.nature (keyed e st).store = item.nature st.store := by
  cases item with
  | entity value =>
    cases value with
    | element r =>
      exact congrArg (fun kind ↦ (RecordClass.elementOf kind).name) (kind_get_keyed e r st)
    | _ => rfl
  | _ => rfl

/-! ## The outcome

Each outcome is traced back to what was there to begin with: the ways in which a supply ends exclude
each other, and each of them carries the facts that decide the question. -/

section Needs

variable {st : State} {process : Ref Process} {elements more : List (Ref Element)} {e : Ref Element}

theorem not_lists_of_none (h : st.conversion.process = none) (elements : List (Ref Element)) :
    ¬ Lists st elements := by
  rintro ⟨process, hprocess, -⟩
  rw [h] at hprocess
  cases hprocess

theorem not_lists_of_malformed (hprocess : st.conversion.process = some process)
    (hmalformed : (st.store.get process).elements = none) (elements : List (Ref Element)) :
    ¬ Lists st elements := by
  rintro ⟨other, hother, helements⟩
  obtain rfl : process = other := Option.some.inj (hprocess.symm.trans hother)
  rw [hmalformed] at helements
  cases helements

theorem not_needsForm_of_not_lists (h : ∀ elements, ¬ Lists st elements) : ¬ NeedsForm st := by
  rintro ⟨elements, hlists, -⟩
  exact h elements hlists

theorem not_needsForm_of_lacking_eq_nil (hprocess : st.conversion.process = some process)
    (helements : (st.store.get process).elements = some elements)
    (hlacking : lacking st.store elements = []) : ¬ NeedsForm st :=
  fun h ↦ (needsForm_iff ⟨process, hprocess, helements⟩).1 h hlacking

theorem needsForm_of_lacking_eq_cons (hprocess : st.conversion.process = some process)
    (helements : (st.store.get process).elements = some elements)
    (hlacking : lacking st.store elements = e :: more) : NeedsForm st := by
  rw [needsForm_iff ⟨process, hprocess, helements⟩, hlacking]
  exact List.cons_ne_nil e more

end Needs

namespace SupplyEnds

variable {st next : State} {outcome : Except Fault (List (Ref Element))}

theorem noProcess_iff (h : SupplyEnds st outcome next) :
    outcome = .error .noProcess ↔ st.conversion.process = none := by
  cases h with
  | noProcess hprocess => simp [hprocess]
  | malformed hprocess | idle hprocess | missing hprocess | misplaced hprocess
  | supplied hprocess => simp [hprocess]

theorem malformed_iff (h : SupplyEnds st outcome next) :
    outcome = .error (.notIterable Json.null.nature) ↔
      ∃ process, st.conversion.process = some process ∧
        (st.store.get process).elements = none := by
  cases h with
  | noProcess hprocess => simp [hprocess]
  | malformed hprocess helements => simp [hprocess, helements]
  | idle hprocess helements | missing hprocess helements | misplaced hprocess helements
  | supplied hprocess helements => simp [hprocess, helements]

theorem missing_iff (h : SupplyEnds st outcome next) :
    outcome = .error (.missingArtifact Vocabulary.formModuleKey) ↔
      NeedsForm st ∧ st.conversion.artifacts.get Vocabulary.formModuleKey = .data .null := by
  cases h with
  | noProcess hprocess => simp [not_needsForm_of_not_lists (not_lists_of_none hprocess)]
  | malformed hprocess helements =>
    simp [not_needsForm_of_not_lists (not_lists_of_malformed hprocess helements)]
  | idle hprocess helements hlacking =>
    simp [not_needsForm_of_lacking_eq_nil hprocess helements hlacking]
  | missing hprocess helements hlacking hmissing =>
    simp [needsForm_of_lacking_eq_cons hprocess helements hlacking, Item.isAbsent_iff.1 hmissing]
  | misplaced hprocess helements hlacking hitem hpresent =>
    have hne : ¬ st.conversion.artifacts.get Vocabulary.formModuleKey = .data .null := by
      rw [← Item.isAbsent_iff, hitem, hpresent]
      exact Bool.false_ne_true
    simp [hne]
  | supplied hprocess helements hlacking hmodule => simp [hmodule]

theorem misplaced_iff (h : SupplyEnds st outcome next) {item : Item}
    (hget : st.conversion.artifacts.get Vocabulary.formModuleKey = item) :
    outcome = .error (.noPart (item.nature st.store) "add_configuration") ↔
      NeedsForm st ∧ item ≠ .data .null ∧ ∀ r, item ≠ .entity (.formModule r) := by
  cases h with
  | noProcess hprocess => simp [not_needsForm_of_not_lists (not_lists_of_none hprocess)]
  | malformed hprocess helements =>
    simp [not_needsForm_of_not_lists (not_lists_of_malformed hprocess helements)]
  | idle hprocess helements hlacking =>
    simp [not_needsForm_of_lacking_eq_nil hprocess helements hlacking]
  | missing hprocess helements hlacking hmissing =>
    have hnull : item = .data .null := hget.symm.trans (Item.isAbsent_iff.1 hmissing)
    simp [hnull]
  | misplaced hprocess helements hlacking hitem hpresent hne =>
    obtain rfl := hget.symm.trans hitem
    have hpresent : item ≠ .data .null := by
      rw [Ne, ← Item.isAbsent_iff, hpresent]
      exact Bool.false_ne_true
    rw [nature_keyed]
    simp [needsForm_of_lacking_eq_cons hprocess helements hlacking, hpresent, hne]
  | supplied hprocess helements hlacking hmodule =>
    obtain rfl := hget.symm.trans hmodule
    simp

theorem ok_iff (h : SupplyEnds st outcome next) :
    (∃ supplied, outcome = .ok supplied) ↔ (∃ elements, Lists st elements) ∧
      (NeedsForm st →
        ∃ r, st.conversion.artifacts.get Vocabulary.formModuleKey = .entity (.formModule r)) := by
  cases h with
  | noProcess hprocess => simp [not_lists_of_none hprocess]
  | malformed hprocess helements => simp [not_lists_of_malformed hprocess helements]
  | idle hprocess helements hlacking =>
    have hlists : Lists st _ := ⟨_, hprocess, helements⟩
    simp [not_needsForm_of_lacking_eq_nil hprocess helements hlacking, Exists.intro _ hlists]
  | missing hprocess helements hlacking hmissing =>
    simp [needsForm_of_lacking_eq_cons hprocess helements hlacking, Item.isAbsent_iff.1 hmissing]
  | misplaced hprocess helements hlacking hitem hpresent hne =>
    simp [needsForm_of_lacking_eq_cons hprocess helements hlacking, hitem, hne]
  | supplied hprocess helements hlacking hmodule =>
    have hlists : Lists st _ := ⟨_, hprocess, helements⟩
    simp [hmodule, Exists.intro _ hlists]

end SupplyEnds

/-- **When the supply of start forms fails, and how.** There is no process; or the process has no
list of elements; or a start event needs a form and there is no form module, or something else in
its place. In all other cases it succeeds, and where no start event needs a form, that does not
depend on the artifacts. -/
theorem supplyStartForms_outcome (st : State) :
    let outcome := (supplyStartForms st).1
    let artifact := st.conversion.artifacts.get Vocabulary.formModuleKey
    (outcome = .error .noProcess ↔ st.conversion.process = none) ∧
    (outcome = .error (.notIterable Json.null.nature) ↔
      ∃ process, st.conversion.process = some process ∧
        (st.store.get process).elements = none) ∧
    (outcome = .error (.missingArtifact Vocabulary.formModuleKey) ↔
      NeedsForm st ∧ (Vocabulary.formModuleKey ∉ st.conversion.artifacts.keys ∨
        artifact = .data .null)) ∧
    (outcome = .error (.noPart (artifact.nature st.store) "add_configuration") ↔
      NeedsForm st ∧ artifact ≠ .data .null ∧ ∀ r, artifact ≠ .entity (.formModule r)) ∧
    ((∃ supplied, outcome = .ok supplied) ↔
      (∃ elements, Lists st elements) ∧
        (NeedsForm st → ∃ r, artifact = .entity (.formModule r))) ∧
    Fault.noProcess.message = "Conversion has no process to enrich" := by
  intro outcome artifact
  have hends : SupplyEnds st outcome (supplyStartForms st).2 := supplyEnds st
  -- a key that was never used has no entry, which counts as the absent value
  have hmissing : (Vocabulary.formModuleKey ∉ st.conversion.artifacts.keys ∨
      artifact = .data .null) ↔ artifact = .data .null :=
    or_iff_right_of_imp Registry.get_of_notMem
  rw [hmissing]
  exact ⟨hends.noProcess_iff, hends.malformed_iff, hends.missing_iff, hends.misplaced_iff rfl,
    hends.ok_iff, rfl⟩

end Conversion

end WorkflowArtifacts
