import WorkflowArtifacts.Proofs.Conversion.Artifacts

/-!
# The id is chosen once

A definition that has an id keeps it, and the choice of an id for its artifacts does no more than
sanitize that. A definition without one is given a generated id, together with the process, and from
then on it has one. Since sanitizing leaves a generated id alone, the next choice comes to the same.

## Several conversions of one definition

The id is kept with the definition, not with the conversion. So what holds of repeated choices in
one conversion holds of choices in several conversions that start from the same definition, in any
order: the choices that fail leave no trace but the tokens they took, the first that succeeds
settles the id (`HasId`), and all later ones find it, whether or not they could have generated one.
-/

namespace WorkflowArtifacts.Conversion

open Build

/-! ## One choice -/

/-- How a definition and a process have been given an id: what is new, and that all else is as it
was. -/
structure IdGiven (definition : Ref Definition) (process : Ref Process) (id : String)
    (s t : Store) : Prop where
  /-- The definition has the id, and is the same otherwise. -/
  definition_eq : t.get definition = { s.get definition with id := .text id }
  /-- So is the process. -/
  process_eq : t.get process = { s.get process with id := .text id }
  /-- The other definitions are the same. -/
  definitions_of_ne : ∀ r, r ≠ definition → t.get r = s.get r
  /-- The other processes are the same. -/
  processes_of_ne : ∀ r, r ≠ process → t.get r = s.get r
  /-- There are no other definitions than before. -/
  definitions_size : t.definitions.size = s.definitions.size
  /-- There are no other processes than before. -/
  processes_size : t.processes.size = s.processes.size
  /-- All other records are the same. -/
  others : t = { s with definitions := t.definitions, processes := t.processes }

theorem withId_given {definition : Ref Definition} {process : Ref Process} {s : Store}
    (hdefinition : s.Allocated definition) (hprocess : s.Allocated process) (id : String) :
    IdGiven definition process id s (withId definition process id s) where
  definition_eq := get_withId_definition hdefinition process id
  process_eq := get_withId_process hprocess definition id
  definitions_of_ne _ h := Table.get_set_of_ne _ h _
  processes_of_ne _ h := Table.get_set_of_ne _ h _
  definitions_size := Table.size_set ..
  processes_size := Table.size_set ..
  others := rfl

/-- Without a process, a token is taken before that shows. -/
theorem artifactId_of_null_of_none {st : State}
    (hid : (st.store.get st.conversion.definition).id = .null)
    (hprocess : st.conversion.process = none) :
    artifactId st
      = (.error (.noPart Json.null.nature "id"), { st with tokens := st.tokens.next.2 }) := by
  let taken : State := { st with tokens := st.tokens.next.2 }
  have htaken : taken.conversion.process = none := hprocess
  rw [artifactId, bind_ok (currentDefinition_apply st), hid]
  change generateId st = _
  rw [generateId, bind_ok (takeToken_apply st), bind_error (requireProcess_of_none htaken _)]

/-! ## A settled id -/

/-- Whether a definition has an id that amounts to the given one. -/
def HasId (definition : Ref Definition) (id : String) (s : Store) : Prop :=
  ∃ given, (s.get definition).id = .text given ∧ Identifier.sanitize given = id

/-- Once the definition has an id, the choice comes to it and changes nothing. -/
theorem artifactId_of_hasId {st : State} {id : String}
    (h : HasId st.conversion.definition id st.store) :
    ∃ entries, artifactId st = (.ok id, { st with log := st.log ++ entries }) := by
  obtain ⟨given, hid, rfl⟩ := h
  exact artifactId_of_text hid

/-- A generated id is sanitized already. -/
theorem hasId_withId {definition : Ref Definition} {s : Store} (h : s.Allocated definition)
    (process : Ref Process) (token : String) :
    HasId definition (idOfToken token) (withId definition process (idOfToken token) s) := by
  refine ⟨idOfToken token, ?_, ?_⟩
  · rw [get_withId_definition h]
  · rw [Identifier.sanitize_eq_self_iff]
    exact Identifier.matchesExactly_sanitize _

/-- What a choice for a conversion of a definition leaves behind. If it fails, then all records are
as they were; if it succeeds, then the definition has the id. Either way there are no other
definitions than before. -/
structure ChoiceLeaves (definition : Ref Definition) (st : State) (outcome : Except Fault String)
    (next : State) : Prop where
  /-- The conversion is the same. -/
  conversion : next.conversion = st.conversion
  /-- There are no other definitions than before. -/
  definitions_size : next.store.definitions.size = st.store.definitions.size
  /-- A failure changes no record. -/
  failed : ∀ fault, outcome = .error fault → next.store = st.store
  /-- A success settles the id. -/
  chosen : ∀ id, outcome = .ok id → st.store.Allocated definition →
    HasId definition id next.store

theorem artifactId_leaves (st : State) :
    ChoiceLeaves st.conversion.definition st (artifactId st).1 (artifactId st).2 := by
  by_cases hid : (st.store.get st.conversion.definition).id = .null
  · rcases hprocess : st.conversion.process with _ | process
    · rw [artifactId_of_null_of_none hid hprocess]
      exact ⟨rfl, rfl, fun _ _ ↦ rfl, fun _ h ↦ by cases h⟩
    · obtain ⟨entry, hrun⟩ := artifactId_of_null hid hprocess
      rw [hrun]
      refine ⟨rfl, Table.size_set .., ?_, ?_⟩
      · rintro fault ⟨⟩
      · rintro id ⟨⟩ hallocated
        exact hasId_withId hallocated process _
  · obtain ⟨entries, hrun⟩ := artifactId_of_ne_null hid
    rw [hrun]
    refine ⟨rfl, rfl, fun _ _ ↦ rfl, ?_⟩
    intro id hok _
    exact Identifier.sanitizeValue_eq_ok_iff.1 hok

/-! ## Choices for several conversions -/

/-- The choice of an id for another conversion, one that works on the same records, tokens and
log. -/
def artifactIdFor (other : Conversion) : ConversionM String := fun st ↦
  let (outcome, next) := artifactId { st with conversion := other }
  (outcome, { next with conversion := st.conversion })

/-- Choices of an id for several conversions, one after the other. A choice that fails does not keep
the later ones from being made. -/
def artifactIds : List Conversion → State → List (Except Fault String) × State
  | [], st => ([], st)
  | conversion :: rest, st =>
    let (outcome, next) := artifactIdFor conversion st
    let (outcomes, last) := artifactIds rest next
    (outcome :: outcomes, last)

theorem artifactIdFor_leaves (conversion : Conversion) (st : State) :
    ChoiceLeaves conversion.definition st (artifactIdFor conversion st).1
      (artifactIdFor conversion st).2 := by
  have h := artifactId_leaves { st with conversion }
  exact ⟨rfl, h.definitions_size, h.failed, h.chosen⟩

theorem artifactIdFor_of_hasId {conversion : Conversion} {st : State} {id : String}
    (h : HasId conversion.definition id st.store) :
    ∃ entries, artifactIdFor conversion st = (.ok id, { st with log := st.log ++ entries }) := by
  let given : State := { st with conversion }
  have hgiven : HasId given.conversion.definition id given.store := h
  obtain ⟨entries, hrun⟩ := artifactId_of_hasId hgiven
  exact ⟨entries, by rw [artifactIdFor, hrun]⟩

/-- The definitions are the same ones after any number of choices. -/
theorem definitions_size_artifactIds (calls : List Conversion) (st : State) :
    (artifactIds calls st).2.store.definitions.size = st.store.definitions.size := by
  induction calls generalizing st with
  | nil => rfl
  | cons conversion rest ih =>
    exact (ih _).trans (artifactIdFor_leaves conversion st).definitions_size

/-- As long as no choice succeeds, no record changes. -/
theorem store_artifactIds_of_failed {calls : List Conversion} {st : State}
    (h : ∀ outcome ∈ (artifactIds calls st).1, ∃ fault, outcome = .error fault) :
    (artifactIds calls st).2.store = st.store := by
  induction calls generalizing st with
  | nil => rfl
  | cons conversion rest ih =>
    obtain ⟨fault, hfault⟩ := h _ List.mem_cons_self
    have hrest := ih fun outcome houtcome ↦ h outcome (List.mem_cons_of_mem _ houtcome)
    exact hrest.trans ((artifactIdFor_leaves conversion st).failed fault hfault)

/-- Once the definition has an id, all choices come to it and change nothing. -/
theorem artifactIds_of_hasId {definition : Ref Definition} {id : String} {calls : List Conversion}
    (hshared : ∀ conversion ∈ calls, conversion.definition = definition) {st : State}
    (h : HasId definition id st.store) :
    ∃ entries, artifactIds calls st
      = (calls.map fun _ ↦ .ok id, { st with log := st.log ++ entries }) := by
  induction calls generalizing st with
  | nil => exact ⟨[], by rw [List.append_nil]; rfl⟩
  | cons conversion rest ih =>
    obtain ⟨hfirst, hrest⟩ := List.forall_mem_cons.1 hshared
    obtain ⟨entries, hrun⟩ := artifactIdFor_of_hasId (hfirst ▸ h)
    obtain ⟨more, hmore⟩ := @ih hrest { st with log := st.log ++ entries } h
    refine ⟨entries ++ more, ?_⟩
    rw [artifactIds, hrun]
    simp only [hmore, List.map_cons, List.append_assoc]

/-- **The id is chosen once.** If the definition has an id, then the choice sanitizes it, takes no
token and changes nothing. If it has none and there is a process, then one token is taken and both
are given the id that is generated from it; without a process the choice fails and neither has
changed. So of any choices for conversions that share the definition, those before the first
success change no record, and those after a success come to the same id, take no tokens and change
nothing. -/
theorem artifactId_once {st : State} (hdefinition : st.store.Allocated st.conversion.definition)
    (hallocated : ∀ process, st.conversion.process = some process → st.store.Allocated process) :
    ((st.store.get st.conversion.definition).id ≠ .null →
      ∃ entries, artifactId st
        = (Identifier.sanitizeValue (st.store.get st.conversion.definition).id,
          { st with log := st.log ++ entries })) ∧
    (∀ process, (st.store.get st.conversion.definition).id = .null →
      st.conversion.process = some process →
      let id := Identifier.sanitize ("process" ++ st.tokens.next.1)
      ∃ store entries, artifactId st = (.ok id,
          { st with store, tokens := st.tokens.next.2, log := st.log ++ entries }) ∧
        IdGiven st.conversion.definition process id st.store store) ∧
    ((st.store.get st.conversion.definition).id = .null → st.conversion.process = none →
      ∃ fault, artifactId st = (.error fault, { st with tokens := st.tokens.next.2 })) ∧
    ∀ earlier conversion later, (∀ other ∈ earlier ++ conversion :: later,
        other.definition = st.conversion.definition) →
      ((∀ outcome ∈ (artifactIds earlier st).1, ∃ fault, outcome = .error fault) →
        (artifactIds earlier st).2.store = st.store) ∧
      ∀ id next, artifactIdFor conversion (artifactIds earlier st).2 = (.ok id, next) →
        ∃ entries, artifactIds later next
          = (later.map fun _ ↦ .ok id, { next with log := next.log ++ entries }) := by
  refine ⟨artifactId_of_ne_null, ?_, ?_, ?_⟩
  · intro process hid hprocess id
    obtain ⟨entry, hrun⟩ := artifactId_of_null hid hprocess
    exact ⟨_, [entry], hrun, withId_given hdefinition (hallocated process hprocess) id⟩
  · intro hid hprocess
    exact ⟨_, artifactId_of_null_of_none hid hprocess⟩
  · intro earlier conversion later hshared
    refine ⟨store_artifactIds_of_failed, ?_⟩
    intro id next hrun
    rw [List.forall_mem_append, List.forall_mem_cons] at hshared
    obtain ⟨-, hconversion, hlater⟩ := hshared
    have hthere : (artifactIds earlier st).2.store.Allocated conversion.definition := by
      rw [hconversion]
      exact Nat.lt_of_lt_of_eq hdefinition (definitions_size_artifactIds earlier st).symm
    have hleaves := artifactIdFor_leaves conversion (artifactIds earlier st).2
    rw [hrun] at hleaves
    have hsettled : HasId conversion.definition id next.store := hleaves.chosen id rfl hthere
    rw [hconversion] at hsettled
    exact artifactIds_of_hasId hlater hsettled

/-- A definition without an id, and two processes for it. -/
def withoutId : State where
  store :=
    { Store.empty with
      definitions := Table.empty.push
        { id := .null, name := .null, description := .null, steps := [] }
      processes := (Table.empty.push { id := .null, name := none, elements := some [] }).push
        { id := .null, name := none, elements := some [] } }
  conversion := { definition := ⟨0⟩, process := some ⟨0⟩, artifacts := .empty }
  tokens := ⟨["A-1", "B-2"], 0⟩
  log := []

/-- The conversion that starts from the definition and has the given process or none. -/
def conversionWith (process : Option (Ref Process)) : Conversion := ⟨⟨0⟩, process, .empty⟩

/-- A conversion without a process fails first and wastes a token. The next one generates the id,
and then those without a process or with another one come to it too. -/
theorem artifactId_once_shared :
    ∃ next entries,
      (artifactIds [conversionWith none] withoutId).2.store = withoutId.store ∧
      artifactIdFor (conversionWith (some ⟨0⟩)) (artifactIds [conversionWith none] withoutId).2
        = (.ok "processb_2", next) ∧
      artifactIds [conversionWith none, conversionWith (some ⟨1⟩)] next
        = ([.ok "processb_2", .ok "processb_2"], { next with log := next.log ++ entries }) := by
  obtain ⟨-, -, -, hruns⟩ := @artifactId_once withoutId (by decide) (by
    rintro process ⟨⟩
    decide)
  obtain ⟨hearlier, hlater⟩ := hruns [conversionWith none] (conversionWith (some ⟨0⟩))
    [conversionWith none, conversionWith (some ⟨1⟩)] (by simp [conversionWith, withoutId])
  have hfailed : artifactIds [conversionWith none] withoutId
      = ([.error (.noPart Json.null.nature "id")],
        { withoutId with tokens := ⟨["B-2"], 0⟩ }) := rfl
  rw [hfailed] at hearlier hlater ⊢
  obtain ⟨next, hgenerated⟩ : ∃ next, artifactIdFor (conversionWith (some ⟨0⟩))
      { withoutId with tokens := ⟨["B-2"], 0⟩ } = (.ok (idOfToken "B-2"), next) := ⟨_, rfl⟩
  have hid : idOfToken "B-2" = "processb_2" := by decide +kernel
  rw [hid] at hgenerated
  obtain ⟨entries, hrun⟩ := hlater _ next hgenerated
  exact ⟨next, entries, hearlier (by simp), hgenerated, hrun⟩

end WorkflowArtifacts.Conversion
