import WorkflowArtifacts.Proofs.Conversion.Artifacts
import WorkflowArtifacts.Proofs.Conversion.Converters
import WorkflowArtifacts.Proofs.Conversion.StartForms

/-!
# The ids in the outcome of a run

A run takes ids from two places. The artifacts go by the id of the definition in sanitized form,
and the process, its conditions included, goes by its own. The two agree in some cases only, and
`run_artifacts` says in which.

The artifacts stand from the end of the first phase on. What happens later keeps them as they are,
whether or not it succeeds: the step converters by assumption, since they do no more than append
elements, and the supply of start forms because all it adds to the form module are configurations
with the condition of the process.
-/

namespace WorkflowArtifacts.Conversion

open Build

/-! ## What keeps the artifacts -/

section

variable {settings : Settings} {id : String} {definition : Definition} {process : Ref Process}
  {processId : Json}

theorem IsFormModuleOf.of_detailsAdded {s t : Store} {formModule : Ref FormModule}
    {condition : String} {made : List (Ref Configuration)}
    (h : IsFormModuleOf s formModule id condition)
    (hadded : DetailsAdded formModule condition made s t) :
    IsFormModuleOf t formModule id condition where
  allocated := Nat.lt_of_lt_of_eq h.allocated hadded.formModules_size.symm
  id := by rw [hadded.appended, ← h.id]
  conditions r hr := by
    rw [hadded.appended] at hr
    rcases List.mem_append.1 hr with hold | hnew
    · obtain ⟨hallocated, hcondition⟩ := h.conditions r hold
      refine ⟨hadded.configurations.allocated hallocated, ?_⟩
      have hsame : t.get r = s.get r := hadded.configurations.get hallocated
      rw [hsame, hcondition]
    · obtain ⟨form, hholds, -⟩ := hadded.details r hnew
      refine ⟨hholds.1, ?_⟩
      rw [hholds.2]
      rfl

theorem IsFormModuleOf.of_same {s t : Store} {formModule : Ref FormModule} {condition : String}
    (h : IsFormModuleOf s formModule id condition) (hmodules : t.formModules = s.formModules)
    (hconfigurations : t.configurations = s.configurations) :
    IsFormModuleOf t formModule id condition where
  allocated := by
    change t.formModules.Allocated formModule
    rw [hmodules]
    exact h.allocated
  id := by
    change (t.formModules.get formModule).id = _
    rw [hmodules]
    exact h.id
  conditions := by
    change ∀ r ∈ (t.formModules.get formModule).configurations,
      t.configurations.Allocated r ∧ (t.configurations.get r).condition = _
    rw [hmodules, hconfigurations]
    exact h.conditions

theorem onlyAppends_keeps {st next : State} (h : OnlyAppends st next) :
    Keeps (ArtifactsStand settings id definition process processId) st next := by
  intro hstands
  obtain ⟨more, hmore⟩ := h.processes process
  refine hstands.of_later h.conversion (by rw [h.store]) (by rw [hmore]) ?_ ?_ fun r _ hmodule ↦ ?_
  · rw [h.store]
    exact .refl _
  · rw [h.store]
    exact .refl _
  · exact hmodule.of_same (by rw [h.store]) (by rw [h.store])

theorem Leaves.keepsArtifacts {α : Type} {action : ConversionM α}
    (h : Leaves OnlyAppends action) :
    Leaves (Keeps (ArtifactsStand settings id definition process processId)) action :=
  h.mono fun _ _ ↦ onlyAppends_keeps

theorem supplyOne_keeps (e : Ref Element) :
    Leaves (Keeps (ArtifactsStand settings id definition process processId))
      (supplyOne process e) := by
  intro st hstands
  obtain ⟨formModule, hget, hmodule⟩ := hstands.formModule
  obtain ⟨store, made, entries, hrun, hadded, -⟩ :=
    supplyOne_added hget hmodule.allocated process e
  have hsame : store.get process = st.store.get process := congrArg (·.get process) hadded.processes
  rw [hrun]
  refine hstands.of_later rfl hadded.definitions (by rw [hsame]) ?_ ?_ fun r hr hstands' ↦ ?_
  · rw [hadded.contentModels]
    exact .refl _
  · rw [hadded.namespaces]
    exact .refl _
  · rw [hget] at hr
    cases hr
    -- the new configurations are for the process as it is called by now
    rw [hstands.processId_eq] at hadded
    exact hstands'.of_detailsAdded hadded

theorem completeStartForms_keeps :
    Leaves (Keeps (ArtifactsStand settings id definition process processId))
      Listener.completeStartForms := by
  have hsupply : Leaves (Keeps (ArtifactsStand settings id definition process processId))
      supplyStartForms := by
    intro st hstands
    rw [supplyStartForms, bind_ok (current_apply st), hstands.process_eq]
    have hlisted := (elementsOf_onlyLogs process).onlyAppends
    exact Leaves.bind hlisted.keepsArtifacts (Leaves.supplyAll supplyOne_keeps) st hstands
  exact .completeStartForms hsupply fun _ ↦ (note_onlyLogs _ _ _).onlyAppends.keepsArtifacts

/-- Everything after the first phase keeps the artifacts. -/
theorem later_keeps {converters : List StepConverter}
    (hconverters : ∀ converter ∈ converters, AppendsElements converter) :
    Leaves (Keeps (ArtifactsStand settings id definition process processId)) (do
      (← currentDefinition).steps.forM (convertStep converters)
      checkGraph
      [Listener.artifactSetup settings].forM Listener.after) := by
  have hsteps (steps : List Json) : Leaves OnlyAppends (steps.forM (convertStep converters)) :=
    .forM fun step _ ↦ .forM fun converter h ↦ hconverters converter h step
  refine .bind currentDefinition_onlyLogs.onlyAppends.keepsArtifacts fun current ↦ ?_
  refine .bind (hsteps current.steps).keepsArtifacts fun _ ↦ ?_
  refine .bind checkGraph_onlyLogs.onlyAppends.keepsArtifacts fun _ ↦ ?_
  exact .bind completeStartForms_keeps fun _ ↦ .pure _

end

/-! ## The process -/

/-- The id that the process has when the first phase begins: the one it was given, or that of the
definition it is made from. -/
def processIdAhead (st : State) : Json :=
  match st.conversion.process with
  | some process => (st.store.get process).id
  | none => (st.store.get st.conversion.definition).id

/-- The process that is made from the definition. -/
def processAhead (st : State) : Process :=
  let definition := st.store.get st.conversion.definition
  { id := definition.id, name := definition.name.text?, elements := some [] }

/-- A process that is there is kept. Otherwise one is made, or nothing happens. -/
theorem ensureProcess_cases (st : State) :
    (∃ process, st.conversion.process = some process ∧ ensureProcess st = (.ok (), st)) ∨
      st.conversion.process = none ∧
        ((∃ fault, ensureProcess st = (.error fault, st)) ∨
          ensureProcess st = (.ok (), { st with
            store := (st.store.alloc (processAhead st)).2
            conversion := { st.conversion with
              process := some st.store.processes.next } })) := by
  rw [ensureProcess, bind_ok (current_apply st)]
  cases hprocess : st.conversion.process with
  | some process => exact .inl ⟨process, rfl, rfl⟩
  | none =>
    refine .inr ⟨rfl, ?_⟩
    change _ ∨ (currentDefinition >>= fun definition ↦ _) st = _
    cases hvalidate : RecordClass.process.validate
        (.object [("id", (st.store.get st.conversion.definition).id),
          ("name", (st.store.get st.conversion.definition).name)]) with
    | error failure =>
      left
      refine ⟨.invalid failure, ?_⟩
      change (currentDefinition >>= fun definition ↦ _) st = _
      rw [bind_ok (currentDefinition_apply st)]
      exact bind_error (validated_error hvalidate st) _
    | ok document =>
      right
      obtain ⟨-, -, hdocument⟩ := RecordClass.process_validate_eq_ok hvalidate
      rw [bind_ok (currentDefinition_apply st), bind_ok (validated_ok hvalidate st),
        bind_ok (liftM_build_apply _ _), hdocument]
      rfl

theorem ensureProcess_ok {st next : State}
    (hpreset : ∀ process, st.conversion.process = some process → st.store.Allocated process)
    (h : ensureProcess st = (.ok (), next)) :
    ∃ process, next.conversion = { st.conversion with process := some process } ∧
      next.store.Allocated process ∧ (next.store.get process).id = processIdAhead st ∧
      next.store.definitions = st.store.definitions ∧ next.tokens = st.tokens := by
  rw [processIdAhead]
  rcases ensureProcess_cases st with ⟨process, hprocess, hsame⟩ | ⟨hnone, ⟨_, herror⟩ | hmake⟩
  · rw [hsame] at h
    cases h
    rw [hprocess]
    exact ⟨process, by rw [← hprocess], hpreset process hprocess, rfl, rfl, rfl⟩
  · rw [herror] at h
    cases h
  · rw [hmake] at h
    cases h
    rw [hnone]
    have hholds := st.store.processes.holds_push_next (processAhead st)
    exact ⟨st.store.processes.next, rfl, hholds.1, congrArg Process.id hholds.2, rfl, rfl⟩

/-! ## The run -/

theorem abandon_ne_ok (fault : Fault) (st next : State) : abandon fault st ≠ (.ok (), next) := by
  intro h
  obtain ⟨definition, st₁, -, h⟩ := exists_of_bind_ok h
  dsimp only at h
  split at h
  all_goals
    obtain ⟨_, st₂, -, h⟩ := exists_of_bind_ok h
    cases h

/-- From the making of the process to the end of the last phase. -/
theorem phases_stands {settings : Settings} {converters : List StepConverter}
    {process : Ref Process} {st next : State}
    (hconverters : ∀ converter ∈ converters, AppendsElements converter)
    (hprocess : st.conversion.process = some process)
    (hdefinition : st.store.Allocated st.conversion.definition)
    (hallocated : st.store.Allocated process)
    (h : phases [Listener.artifactSetup settings] converters st = (.ok (), next)) :
    let definition := st.store.get st.conversion.definition
    ArtifactsStand settings (idAhead st)
      (if definition.id.isNull then { definition with id := .text (idAhead st) } else definition)
      process
      (if definition.id.isNull then .text (idAhead st) else (st.store.get process).id) next := by
  intro definition
  obtain ⟨_, st₁, hbefore, hrest⟩ := exists_of_bind_ok h
  obtain ⟨_, _, hsetUp, hend⟩ := exists_of_bind_ok hbefore
  cases hend
  have hstands := setUpArtifacts_stands hprocess hdefinition hallocated hsetUp
  have hlast := later_keeps hconverters st₁ hstands
  rw [hrest] at hlast
  exact hlast

theorem phases_eq_ok_of_tryCatch {listeners : List Listener} {converters : List StepConverter}
    {st next : State}
    (h : (tryCatch (phases listeners converters) abandon) st = (.ok (), next)) :
    phases listeners converters st = (.ok (), next) := by
  rw [tryCatch_apply] at h
  split at h
  · next hphases => rw [hphases, h]
  · exact absurd h (abandon_ne_ok _ _ _)

/-- The state in which a run ends differs from the one after the last phase by its log alone. -/
theorem run_ok {listeners : List Listener} {converters : List StepConverter}
    {process : Ref Process} {st next : State}
    (h : run listeners converters st = (.ok process, next)) :
    ∃ st₁ st₂, ensureProcess st = (.ok (), st₁) ∧
      phases listeners converters st₁ = (.ok (), st₂) ∧
      st₂.conversion.process = some process ∧ OnlyLogs st₂ next := by
  obtain ⟨_, st₁, hensure, hrest⟩ := exists_of_bind_ok h
  obtain ⟨_, st₂, hphases, hrest⟩ := exists_of_bind_ok hrest
  refine ⟨st₁, st₂, hensure, phases_eq_ok_of_tryCatch hphases, ?_⟩
  cases hprocess : st₂.conversion.process with
  | none =>
    rw [bind_error (requireProcess_of_none hprocess _)] at hrest
    cases hrest
  | some found =>
    rw [bind_ok (requireProcess_apply hprocess _), bind_ok (liftM_build_apply _ _),
      bind_ok (note_apply _ _ _ _)] at hrest
    cases hrest
    exact ⟨rfl, rfl, rfl, rfl⟩

/-- The id that the process ends up with against the id of the artifacts. -/
theorem processId_eq_idAhead_iff (st : State) :
    let definition := st.store.get st.conversion.definition
    (if definition.id.isNull then .text (idAhead st) else processIdAhead st) = .text (idAhead st) ↔
      definition.id = .null ∨
      (st.conversion.process = none ∧
        ∃ given, definition.id = .text given ∧ Identifier.matchesExactly given.toList = true) ∨
      ∃ preset, st.conversion.process = some preset ∧
        (st.store.get preset).id = .text (idAhead st) := by
  intro definition
  by_cases hnull : definition.id = .null
  · rw [hnull, Json.isNull_null, if_pos rfl]
    exact ⟨fun _ ↦ .inl rfl, fun _ ↦ rfl⟩
  · rw [if_neg fun h ↦ hnull ((Json.isNull_iff _).1 h), processIdAhead]
    cases hprocess : st.conversion.process with
    | some preset =>
      constructor
      · intro h
        exact .inr (.inr ⟨preset, rfl, h⟩)
      · rintro (h | ⟨h, -⟩ | ⟨_, ⟨⟩, h⟩)
        · exact absurd h hnull
        · cases h
        · exact h
    | none =>
      constructor
      · intro h
        exact .inr (.inl ⟨rfl, idAhead st, h, matchesExactly_idAhead st⟩)
      · rintro (h | ⟨-, given, h, hmatches⟩ | ⟨_, ⟨⟩, -⟩)
        · exact absurd h hnull
        · have hahead : idAhead st = given := by
            rw [idAhead, h]
            exact (Identifier.sanitize_eq_self_iff given).2 hmatches
          rw [hahead]
          exact h

/-- After a run that returns a process, the artifacts stand under the id that was to be expected. -/
theorem run_stands {settings : Settings} {converters : List StepConverter}
    {process : Ref Process} {st next : State}
    (hconverters : ∀ converter ∈ converters, AppendsElements converter)
    (hdefinition : st.store.Allocated st.conversion.definition)
    (hpreset : ∀ process, st.conversion.process = some process → st.store.Allocated process)
    (hrun : run [Listener.artifactSetup settings] converters st = (.ok process, next)) :
    let definition := st.store.get st.conversion.definition
    ArtifactsStand settings (idAhead st)
      (if definition.id.isNull then { definition with id := .text (idAhead st) } else definition)
      process
      (if definition.id.isNull then .text (idAhead st) else processIdAhead st) next := by
  intro definition
  obtain ⟨st₁, st₂, hensure, hphases, hfound, hlogs⟩ := run_ok hrun
  obtain ⟨made, hconversion, hallocated, hid, hdefinitions, htokens⟩ :=
    ensureProcess_ok hpreset hensure
  have hsame : st₁.store.get st₁.conversion.definition = definition := by
    rw [hconversion]
    exact congrArg (·.get st.conversion.definition) hdefinitions
  have hahead : idAhead st₁ = idAhead st := by
    rw [idAhead, hsame, htokens, idAhead]
  have hstands := phases_stands hconverters (by rw [hconversion]) (by
    rw [hconversion]
    change st₁.store.definitions.Allocated st.conversion.definition
    rw [hdefinitions]
    exact hdefinition) hallocated hphases
  rw [hsame, hahead, hid] at hstands
  obtain rfl : made = process := Option.some.inj (hstands.process_eq.symm.trans hfound)
  exact onlyAppends_keeps (onlyAppends_of_onlyLogs hlogs) hstands

/-- **The ids in the outcome of a run.** If a run with the listener that sets up the artifacts
returns a process, then the artifacts stand under the id that was to be expected, which is an
identifier over its whole length: the sanitized id of the definition, or the generated one, which
then is the definition's id as well. The process goes by that id exactly if the definition had none,
or the process was made from a definition whose id was an identifier over its whole length, or the
process had that id from the start. -/
theorem run_artifacts {settings : Settings} {converters : List StepConverter}
    {process : Ref Process} {st next : State}
    (hconverters : ∀ converter ∈ converters, AppendsElements converter)
    (hdefinition : st.store.Allocated st.conversion.definition)
    (hpreset : ∀ process, st.conversion.process = some process → st.store.Allocated process)
    (hrun : run [Listener.artifactSetup settings] converters st = (.ok process, next)) :
    let definition := st.store.get st.conversion.definition
    ArtifactsStand settings (idAhead st)
      (if definition.id.isNull then { definition with id := .text (idAhead st) } else definition)
      process (next.store.get process).id next ∧
    Identifier.matchesExactly (idAhead st).toList = true ∧
    ((next.store.get process).id = .text (idAhead st) ↔
      definition.id = .null ∨
      (st.conversion.process = none ∧
        ∃ given, definition.id = .text given ∧ Identifier.matchesExactly given.toList = true) ∨
      ∃ preset, st.conversion.process = some preset ∧
        (st.store.get preset).id = .text (idAhead st)) := by
  intro definition
  have hstands := run_stands hconverters hdefinition hpreset hrun
  have hprocessId := hstands.processId_eq
  rw [hprocessId]
  exact ⟨hstands, matchesExactly_idAhead st, processId_eq_idAhead_iff st⟩

/-- A conversion of a definition whose id is no identifier, with one step that adds a task. -/
def leaveRequest : State where
  store :=
    { Store.empty with
      definitions := Table.empty.push
        { id := .text "Leave Request"
          name := .null
          description := .text "Ask for leave"
          steps := [.object [("type", .text "task"), ("id", .text "review")]] } }
  conversion := .start ⟨0⟩
  tokens := ⟨[], 0⟩
  log := []

/-- The artifacts go by the sanitized id, and the process by the id as it was given. -/
theorem run_artifacts_leaveRequest :
    ∃ settings next,
      run [Listener.artifactSetup settings] [Session.ConverterName.task.converter] leaveRequest
        = (.ok ⟨0⟩, next) ∧
      next.conversion.artifacts.get Vocabulary.qualifierKey = .data (.text "leave_request") ∧
      (next.store.get (⟨0⟩ : Ref Process)).id ≠ .text "leave_request" := by
  let settings : Settings := { logLevel := "INFO", modelAuthor := none, modelVersion := "1.0" }
  have hindex : (run [Listener.artifactSetup settings] [Session.ConverterName.task.converter]
      leaveRequest).1.toOption.map Ref.index = some 0 := by
    decide +kernel
  rcases hrun : run [Listener.artifactSetup settings] [Session.ConverterName.task.converter]
    leaveRequest with ⟨fault | process, next⟩
  · rw [hrun] at hindex
    cases hindex
  · rw [hrun] at hindex
    obtain rfl : process = ⟨0⟩ := Ref.ext_iff.2 (Option.some.inj hindex)
    have hconverters : ∀ converter ∈ [Session.ConverterName.task.converter],
        AppendsElements converter := by
      intro converter h
      rw [List.mem_singleton.1 h]
      exact converter_appendsElements (by decide)
    obtain ⟨hstands, -, hsame⟩ := run_artifacts hconverters (by decide)
      (fun _ h ↦ by cases h) hrun
    have hahead : idAhead leaveRequest = "leave_request" := by decide +kernel
    rw [hahead] at hstands hsame
    refine ⟨settings, next, hrun, hstands.qualifier, fun hid ↦ ?_⟩
    have hgiven : (leaveRequest.store.get leaveRequest.conversion.definition).id
        = .text "Leave Request" := rfl
    rcases hsame.1 hid with h | ⟨-, given, h, hmatches⟩ | ⟨_, h, -⟩
    · rw [hgiven] at h
      cases h
    · rw [hgiven] at h
      cases h
      revert hmatches
      decide +kernel
    · cases h

end WorkflowArtifacts.Conversion
