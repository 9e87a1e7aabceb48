import WorkflowArtifacts.Proofs.Conversion.Converters
import WorkflowArtifacts.Proofs.Schema.Requests

/-!
# The course of a run

A run calls its listeners and step converters in a fixed order and stops at the first fault. The
order is written down as a list of events, `schedule`, and `Course` says what it is to perform
events one after the other: from state to state, and no further than to the first that fails.

## What is shown

Everything between the making of the process and the end of the run is the course of a schedule,
whatever the participants do (`exists_phases_eq_schedule`). So what has happened when a run is over
is a first part of it, the check of the graph included, and the run itself adds nothing but one
entry to the log (`run_eq`). Which schedule it is depends on the steps, and these are read when
they begin: it is known in advance only if the listeners leave the steps alone
(`phases_eq_schedule`).

A fault comes out as a conversion fault in any case, as it is if it is one and wrapped if it is not.
-/

namespace WorkflowArtifacts.Conversion

open Build

/-! ## Events -/

/-- Something that happens in a run between the making of the process and the end. -/
inductive Event where
  /-- A listener is called before the steps. -/
  | before (listener : Listener)
  /-- A step converter is called for a step. -/
  | convert (converter : StepConverter) (step : Json)
  /-- The graph is checked. -/
  | check
  /-- A listener is called after the steps. -/
  | after (listener : Listener)

namespace Event

/-- What happens in an event. -/
def perform : Event → ConversionM Unit
  | .before listener => listener.before
  | .convert converter step => converter step
  | .check => checkGraph
  | .after listener => listener.after

/-- Whether an event is the check of the graph. -/
def isCheck : Event → Bool
  | .check => true
  | _ => false

end Event

/-- What is to happen before the check of the graph: the listeners are called in order, and then for
each step in order all converters in order. -/
def preparation (listeners : List Listener) (converters : List StepConverter)
    (steps : List Json) : List Event :=
  listeners.map .before ++ steps.flatMap fun step ↦ converters.map (.convert · step)

/-- All that is to happen in a run, in order. -/
def schedule (listeners : List Listener) (converters : List StepConverter)
    (steps : List Json) : List Event :=
  preparation listeners converters steps ++ .check :: listeners.map .after

/-- From a state, the listed events were performed one after the other, with an outcome and a last
state. None of them but the last can have failed. -/
inductive Course : State → List Event → Except Fault Unit → State → Prop where
  /-- There were no events. -/
  | nil (st : State) : Course st [] (.ok ()) st
  /-- An event succeeded, and the course went on. -/
  | step {st next last : State} {event : Event} {events : List Event}
      {outcome : Except Fault Unit} (hstep : event.perform st = (.ok (), next))
      (hrest : Course next events outcome last) : Course st (event :: events) outcome last
  /-- An event failed, and that was the end. -/
  | stop {st last : State} {event : Event} {fault : Fault}
      (hstep : event.perform st = (.error fault, last)) : Course st [event] (.error fault) last

/-! ## Performing events in a row -/

theorem forM_perform_cons (event : Event) (rest : List Event) :
    (event :: rest).forM Event.perform = event.perform >>= fun _ ↦ rest.forM Event.perform := rfl

theorem forM_perform_append (first second : List Event) :
    (first ++ second).forM Event.perform
      = first.forM Event.perform >>= fun _ ↦ second.forM Event.perform :=
  List.forM_append

/-- Performing events in a row takes the course of some first part of them, which is all of them
unless there is a fault. -/
theorem exists_course (events : List Event) (st : State) :
    ∃ made, made <+: events ∧
      Course st made (events.forM Event.perform st).1 (events.forM Event.perform st).2 ∧
      ((events.forM Event.perform st).1 = .ok () → made = events) := by
  induction events generalizing st with
  | nil => exact ⟨[], List.prefix_rfl, .nil st, fun _ ↦ rfl⟩
  | cons event rest ih =>
    rw [forM_perform_cons]
    rcases hstep : event.perform st with ⟨fault | ⟨⟩, next⟩
    · rw [bind_error hstep]
      refine ⟨[event], ⟨rest, rfl⟩, .stop hstep, ?_⟩
      intro h
      cases h
    · rw [bind_ok hstep]
      obtain ⟨made, hfirst, hcourse, hall⟩ := ih next
      refine ⟨event :: made, (List.prefix_cons_inj event).2 hfirst, .step hstep hcourse, ?_⟩
      intro h
      rw [hall h]

namespace Course

variable {st last : State} {made rest : List Event} {fault : Fault}

/-- After a course that succeeded, performing its events and others in a row goes on with the
others. -/
theorem forM_perform (h : Course st made (.ok ()) last) (rest : List Event) :
    (made ++ rest).forM Event.perform st = rest.forM Event.perform last := by
  generalize houtcome : (Except.ok () : Except Fault Unit) = outcome at h
  induction h with
  | nil st => rfl
  | step hstep hrest ih => rw [List.cons_append, forM_perform_cons, bind_ok hstep, ih houtcome]
  | stop hstep => cases houtcome

/-- After a course that failed, nothing that was to follow happens. -/
theorem forM_perform_of_error (h : Course st made (.error fault) last) (rest : List Event) :
    (made ++ rest).forM Event.perform st = (.error fault, last) := by
  generalize houtcome : (Except.error fault : Except Fault Unit) = outcome at h
  induction h with
  | nil st => cases houtcome
  | step hstep hrest ih => rw [List.cons_append, forM_perform_cons, bind_ok hstep, ih houtcome]
  | stop hstep =>
    cases houtcome
    rw [List.singleton_append, forM_perform_cons, bind_error hstep]

/-- A course that goes on after some events came through them. -/
theorem exists_of_append {outcome : Except Fault Unit} (h : Course st (made ++ rest) outcome last)
    (hrest : rest ≠ []) :
    ∃ middle, Course st made (.ok ()) middle ∧ Course middle rest outcome last := by
  induction made generalizing st with
  | nil => exact ⟨st, .nil st, h⟩
  | cons event made ih =>
    rw [List.cons_append] at h
    generalize hevents : made ++ rest = events at h
    cases h with
    | step hstep h =>
      obtain ⟨middle, hmade, hlast⟩ := ih (hevents ▸ h)
      exact ⟨middle, .step hstep hmade, hlast⟩
    | stop hstep => exact absurd (List.append_eq_nil_iff.1 hevents).2 hrest

/-- A course of all events that succeeds is what performing them in a row amounts to. -/
theorem ok_iff {events : List Event} :
    Course st events (.ok ()) last ↔ events.forM Event.perform st = (.ok (), last) := by
  constructor
  · intro h
    have hall := h.forM_perform []
    rwa [List.append_nil] at hall
  · intro h
    obtain ⟨made, -, hcourse, hall⟩ := exists_course events st
    rw [h] at hcourse hall
    rw [hall rfl] at hcourse
    exact hcourse

/-- The fault of a course is the fault of its last event. -/
theorem exists_of_error (h : Course st made (.error fault) last) :
    ∃ before event middle, made = before ++ [event] ∧ Course st before (.ok ()) middle ∧
      event.perform middle = (.error fault, last) := by
  generalize houtcome : (Except.error fault : Except Fault Unit) = outcome at h
  induction h with
  | nil st => cases houtcome
  | step hstep hrest ih =>
    obtain ⟨before, event, middle, rfl, hbefore, hlast⟩ := ih houtcome
    exact ⟨_ :: before, event, middle, rfl, .step hstep hbefore, hlast⟩
  | @stop st last event _ hstep =>
    cases houtcome
    exact ⟨[], event, st, rfl, .nil st, hstep⟩

end Course

/-! ## The phases -/

theorem forM_before (listeners : List Listener) :
    (listeners.map Event.before).forM Event.perform = listeners.forM Listener.before :=
  List.forM_map

theorem forM_after (listeners : List Listener) :
    (listeners.map Event.after).forM Event.perform = listeners.forM Listener.after :=
  List.forM_map

theorem forM_convert (converters : List StepConverter) (steps : List Json) :
    (steps.flatMap fun step ↦ converters.map (Event.convert · step)).forM Event.perform
      = steps.forM (convertStep converters) := by
  induction steps with
  | nil => rfl
  | cons step rest ih =>
    have hfirst : (converters.map (Event.convert · step)).forM Event.perform
        = convertStep converters step := List.forM_map
    rw [List.flatMap_cons, forM_perform_append, hfirst, ih]
    rfl

/-- Where the listeners leave the steps as they are, everything between the making of the process
and the end of the run is the course of the schedule. -/
theorem phases_eq_schedule {listeners : List Listener} {converters : List StepConverter}
    {steps : List Json} {st : State}
    (hsteps : ∀ next, listeners.forM Listener.before st = (.ok (), next) →
      (next.store.get next.conversion.definition).steps = steps) :
    phases listeners converters st
      = (schedule listeners converters steps).forM Event.perform st := by
  rw [schedule, preparation, List.append_assoc, forM_perform_append, forM_before, phases]
  rcases hbefore : listeners.forM Listener.before st with ⟨fault | ⟨⟩, next⟩
  · rw [bind_error hbefore, bind_error hbefore]
  · rw [bind_ok hbefore, bind_ok hbefore, bind_ok (currentDefinition_apply next),
      hsteps next hbefore, forM_perform_append, forM_convert, forM_perform_cons, forM_after]
    rfl

/-- Whatever the listeners do, there is a schedule whose course the phases are. -/
theorem exists_phases_eq_schedule (listeners : List Listener) (converters : List StepConverter)
    (st : State) :
    ∃ steps, phases listeners converters st
      = (schedule listeners converters steps).forM Event.perform st := by
  rcases hbefore : listeners.forM Listener.before st with ⟨fault | ⟨⟩, next⟩
  · refine ⟨[], phases_eq_schedule fun next h ↦ ?_⟩
    rw [hbefore] at h
    cases h
  · refine ⟨(next.store.get next.conversion.definition).steps, phases_eq_schedule fun _ h ↦ ?_⟩
    rw [hbefore] at h
    cases h
    rfl

/-! ## Beginning and end -/

/-- Whether the conversion has a process. -/
def HasProcess (st : State) : Prop := st.conversion.process.isSome = true

theorem HasProcess.exists {st : State} (h : HasProcess st) :
    ∃ process, st.conversion.process = some process :=
  Option.isSome_iff_exists.1 h

/-- The making of the process succeeds if the definition's id and name are texts or absent. It keeps
the definitions, hence the steps. -/
theorem ensureProcess_of_texts {st : State}
    (hid : (st.store.get st.conversion.definition).id.IsTextOrAbsent)
    (hname : (st.store.get st.conversion.definition).name.IsTextOrAbsent) :
    ∃ begun, ensureProcess st = (.ok (), begun) ∧ HasProcess begun ∧
      begun.store.get begun.conversion.definition = st.store.get st.conversion.definition := by
  rw [ensureProcess, bind_ok (current_apply st)]
  cases hprocess : st.conversion.process with
  | some process =>
    refine ⟨st, rfl, ?_, rfl⟩
    rw [HasProcess, hprocess]
    rfl
  | none =>
    change ∃ begun, (currentDefinition >>= fun definition ↦ _) st = _ ∧ _
    rw [bind_ok (currentDefinition_apply st),
      bind_ok (validated_ok (RecordClass.process_validate_of_texts hid hname) st),
      bind_ok (liftM_build_apply _ _)]
    exact ⟨_, rfl, rfl, rfl⟩

/-- The state with a record at the end of its log. -/
def noted (level : LogLevel) (message : String) (st : State) : State :=
  { st with log := st.log ++ [.record level .run message] }

/-- How a fault of a phase comes out of the run. -/
def raised (fault : Fault) : Fault := if fault.isConversionFault then fault else .failed fault

/-- What is logged where a fault ends the run of the definition with an id. -/
def abandonReport (id : String) (fault : Fault) : String :=
  if fault.isConversionFault then s!"Conversion of workflow definition '{id}' aborted"
  else s!"Conversion of workflow definition '{id}' failed: {fault.message}"

theorem abandon_apply (fault : Fault) (st : State) :
    abandon fault st = (.error (raised fault), noted .error
      (abandonReport (st.store.get st.conversion.definition).id.display fault) st) := by
  rw [abandon, bind_ok (currentDefinition_apply st), raised, abandonReport]
  split
  · rw [bind_ok (note_apply _ _ _ _)]
    rfl
  · rw [bind_ok (note_apply _ _ _ _)]
    rfl

/-- A run that has a process when its phases begin and when they end adds one entry to the log, and
apart from that it is its phases. -/
theorem run_eq {listeners : List Listener} {converters : List StepConverter} {st begun : State}
    (hbegun : ensureProcess st = (.ok (), begun))
    (hlast : HasProcess (phases listeners converters begun).2) :
    ∃ process, (phases listeners converters begun).2.conversion.process = some process ∧
      run listeners converters st = match phases listeners converters begun with
        | (.ok (), last) => (.ok process, noted .info
            s!"Converted workflow definition into process '{(last.store.get process).id.display}'"
            last)
        | (.error fault, last) => (.error (raised fault), noted .error
            (abandonReport (last.store.get last.conversion.definition).id.display fault) last) := by
  obtain ⟨process, hprocess⟩ := hlast.exists
  refine ⟨process, hprocess, ?_⟩
  rw [run, bind_ok hbegun, bind_apply, tryCatch_apply]
  rcases hphases : phases listeners converters begun with ⟨fault | ⟨⟩, last⟩
  · simp only [abandon_apply]
  · rw [hphases] at hprocess
    change (requireProcess "id" >>= fun process ↦ _) last = _
    rw [bind_ok (requireProcess_apply hprocess _), bind_ok (liftM_build_apply _ _),
      bind_ok (note_apply _ _ _ _)]
    rfl

/-! ## The check of the graph -/

/-- The state in which problems of the graph have been logged, all in one warning. -/
def warned (problems : List Graph.Problem) (st : State) : State :=
  if problems.isEmpty then st
  else noted .warning ("Process graph has validation warnings: "
    ++ "; ".intercalate (problems.map Graph.Problem.message)) st

/-- The check succeeds where the process has a list of elements, whatever its problems are. -/
theorem checkGraph_apply {st : State} {process : Ref Process} {elements : List (Ref Element)}
    (hprocess : st.conversion.process = some process)
    (helements : (st.store.get process).elements = some elements) :
    checkGraph st = (.ok (), warned (Graph.problems (elements.map st.store.get)) st) := by
  rw [checkGraph, bind_ok (graphProblems_apply hprocess helements), warned]
  generalize Graph.problems (elements.map st.store.get) = problems
  cases problems with
  | nil => rfl
  | cons first rest => rfl

/-- Where the process has no list of elements, the check fails. -/
theorem checkGraph_of_malformed {st : State} {process : Ref Process}
    (hprocess : st.conversion.process = some process)
    (helements : (st.store.get process).elements = none) :
    checkGraph st = (.error (.notIterable Json.null.nature), st) := by
  rw [checkGraph, bind_error (graphProblems_of_malformed hprocess helements)]

/-! ## Faults -/

/-- What everybody who takes part keeps to, the phases keep to. -/
theorem phases_leaves {R : State → State → Prop} [IsPreorder State R] {listeners : List Listener}
    {converters : List StepConverter} (hlogs : ∀ st next, OnlyLogs st next → R st next)
    (hbefore : ∀ listener ∈ listeners, Leaves R listener.before)
    (hconvert : ∀ converter ∈ converters, ∀ step, Leaves R (converter step))
    (hafter : ∀ listener ∈ listeners, Leaves R listener.after) :
    Leaves R (phases listeners converters) := by
  refine .bind (.forM hbefore) fun _ ↦ .bind (currentDefinition_onlyLogs.mono hlogs) fun _ ↦ ?_
  refine .bind (.forM fun step _ ↦ .forM fun converter h ↦ hconvert converter h step) fun _ ↦ ?_
  exact .bind (checkGraph_onlyLogs.mono hlogs) fun _ ↦ .forM hafter

theorem hasProcess_of_onlyLogs (st next : State) (h : OnlyLogs st next) :
    Keeps HasProcess st next := by
  intro hprocess
  rw [HasProcess, h.conversion]
  exact hprocess

/-- **What comes out of a run that fails.** If nobody takes the process away, a run returns the
process of the conversion unless something that happens in it fails. Then the fault of the run is
that of the first event that failed, if it is a conversion fault, and otherwise it is wrapped; the
state is the one that the event left, with one more entry in the log. -/
theorem run_faults {listeners : List Listener} {converters : List StepConverter} {st : State}
    (hid : (st.store.get st.conversion.definition).id.IsTextOrAbsent)
    (hname : (st.store.get st.conversion.definition).name.IsTextOrAbsent)
    (hbefore : ∀ listener ∈ listeners, Leaves (Keeps HasProcess) listener.before)
    (hconvert : ∀ converter ∈ converters, ∀ step, Leaves (Keeps HasProcess) (converter step))
    (hafter : ∀ listener ∈ listeners, Leaves (Keeps HasProcess) listener.after) :
    ∃ begun steps made outcome last, ensureProcess st = (.ok (), begun) ∧
      made <+: schedule listeners converters steps ∧ Course begun made outcome last ∧
      (outcome = .ok () → ∃ process, last.conversion.process = some process ∧
        run listeners converters st = (.ok process, noted .info
          s!"Converted workflow definition into process '{(last.store.get process).id.display}'"
          last)) ∧
      ∀ fault, outcome = .error fault →
        (∃ before event middle, made = before ++ [event] ∧ Course begun before (.ok ()) middle ∧
          event.perform middle = (.error fault, last)) ∧
        let id := (last.store.get last.conversion.definition).id.display
        if fault.isConversionFault then
          run listeners converters st = (.error fault,
            noted .error s!"Conversion of workflow definition '{id}' aborted" last)
        else
          run listeners converters st = (.error (.failed fault), noted .error
            s!"Conversion of workflow definition '{id}' failed: {fault.message}" last) ∧
          (Fault.failed fault).isConversionFault = true ∧
          (Fault.failed fault).message
            = "Failed to convert workflow definition: " ++ fault.message := by
  obtain ⟨begun, hbegun, hprocess, -⟩ := ensureProcess_of_texts hid hname
  have hlast := phases_leaves hasProcess_of_onlyLogs hbefore hconvert hafter begun hprocess
  obtain ⟨process, hfound, hrun⟩ := run_eq hbegun hlast
  obtain ⟨steps, hphases⟩ := exists_phases_eq_schedule listeners converters begun
  obtain ⟨made, hfirst, hcourse, -⟩ := exists_course (schedule listeners converters steps) begun
  rw [← hphases] at hcourse
  rcases hend : phases listeners converters begun with ⟨outcome, last⟩
  rw [hend] at hcourse hfound hrun
  refine ⟨begun, steps, made, outcome, last, hbegun, hfirst, hcourse, ?_, ?_⟩
  · rintro rfl
    exact ⟨process, hfound, hrun⟩
  · rintro fault rfl
    refine ⟨hcourse.exists_of_error, ?_⟩
    intro id
    rw [hrun]
    by_cases hkind : fault.isConversionFault = true
    · rw [if_pos hkind]
      simp only [raised, abandonReport, if_pos hkind, id]
    · rw [if_neg hkind]
      refine ⟨?_, rfl, rfl⟩
      simp only [raised, abandonReport, if_neg hkind, id]

/-- A conversion of a definition with two steps, the second of which asks for a failure. -/
def failingStep : State where
  store :=
    { Store.empty with
      definitions := Table.empty.push
        { id := .text "leave"
          name := .null
          description := .null
          steps :=
            [.object [("type", .text "task"), ("id", .text "review")],
              .object [("type", .text "fail"), ("message", .text "no form")]] } }
  conversion := .start ⟨0⟩
  tokens := ⟨[], 0⟩
  log := []

/-- The converters for the steps of `failingStep`. -/
def failingConverters : List StepConverter :=
  [Session.ConverterName.task.converter, Session.ConverterName.fail.converter]

theorem failingConverters_appendElements :
    ∀ converter ∈ failingConverters, AppendsElements converter := by
  intro converter h
  rw [failingConverters, List.mem_pair] at h
  rcases h with rfl | rfl
  · exact converter_appendsElements (by decide)
  · exact converter_appendsElements (by decide)

theorem failingStep_fails :
    (run [Listener.idle] failingConverters failingStep).1.toOption.isSome = false := by
  decide +kernel

theorem hasProcess_of_onlyAppends (st next : State) (h : OnlyAppends st next) :
    Keeps HasProcess st next := by
  intro hprocess
  rw [HasProcess, h.conversion]
  exact hprocess

/-- A failing converter is the last thing that happens, and the run fails with its fault. -/
theorem run_faults_failingStep :
    ∃ begun steps made fault last,
      made <+: schedule [Listener.idle] failingConverters steps ∧
      Course begun made (.error fault) last ∧
      (run [Listener.idle] failingConverters failingStep).1 = .error (raised fault) := by
  have hidle (listener) (h : listener ∈ [Listener.idle]) (phase : Phase) :
      Leaves (Keeps HasProcess) (listener.hook phase) := by
    rw [List.mem_singleton.1 h]
    cases phase <;> exact .pure ()
  obtain ⟨begun, steps, made, outcome, last, -, hfirst, hcourse, hcompleted, hstopped⟩ :=
    @run_faults [Listener.idle] failingConverters failingStep (.inr ⟨_, rfl⟩) (.inl rfl)
      (fun listener h ↦ hidle listener h .before)
      (fun converter h step ↦
        (failingConverters_appendElements converter h step).mono hasProcess_of_onlyAppends)
      (fun listener h ↦ hidle listener h .after)
  cases outcome with
  | ok =>
    obtain ⟨process, -, hrun⟩ := hcompleted rfl
    have hfails := failingStep_fails
    rw [hrun] at hfails
    cases hfails
  | error fault =>
    refine ⟨begun, steps, made, fault, last, hfirst, hcourse, ?_⟩
    have hrun := (hstopped fault rfl).2
    rw [raised]
    split
    · next hkind =>
      rw [if_pos hkind] at hrun
      rw [hrun]
    · next hkind =>
      rw [if_neg hkind] at hrun
      rw [hrun.1]

/-! ## Runs in which the steps are left alone -/

/-- Whether a run can go on as it was going to: the steps are the same, and there still is a process
if there was one. -/
structure GoesOn (st next : State) : Prop where
  /-- The steps of the definition are the same. -/
  steps : (next.store.get next.conversion.definition).steps
    = (st.store.get st.conversion.definition).steps
  /-- The process has not been taken away. -/
  process : HasProcess st → HasProcess next

instance : IsPreorder State GoesOn where
  refl _ := ⟨rfl, id⟩
  trans _ _ _ h h' := ⟨h'.steps.trans h.steps, h'.process ∘ h.process⟩

theorem goesOn_of_onlyLogs (st next : State) (h : OnlyLogs st next) : GoesOn st next where
  steps := by rw [h.store, h.conversion]
  process := hasProcess_of_onlyLogs st next h

theorem goesOn_of_onlyAppends (st next : State) (h : OnlyAppends st next) : GoesOn st next where
  steps := by
    rw [h.conversion, h.store]
    rfl
  process := hasProcess_of_onlyAppends st next h

/-- The course that a run takes, where the steps are known in advance. -/
structure RunTakes (listeners : List Listener) (converters : List StepConverter)
    (steps : List Json) (st begun : State) (made : List Event) (outcome : Except Fault Unit)
    (last : State) : Prop where
  /-- The making of the process succeeds. -/
  starts : ensureProcess st = (.ok (), begun)
  /-- What happens then is a first part of the schedule. -/
  isPrefix : made <+: schedule listeners converters steps
  /-- It happens in order, and stops at the first fault. -/
  course : Course begun made outcome last
  /-- The graph is checked at most once. -/
  check_once : made.countP Event.isCheck ≤ 1
  /-- It is checked exactly if everything that is to happen before has succeeded. -/
  check_iff : .check ∈ made ↔
    ∃ middle, Course begun (preparation listeners converters steps) (.ok ()) middle
  /-- The check logs all problems in one warning, if there are any, and succeeds; it fails only if
  the process has no list of elements. -/
  check_effect : ∀ middle, Course begun (preparation listeners converters steps) (.ok ()) middle →
    ∃ process, middle.conversion.process = some process ∧
      checkGraph middle = match (middle.store.get process).elements with
        | some elements => (.ok (), warned (Graph.problems (elements.map middle.store.get)) middle)
        | none => (.error (.notIterable Json.null.nature), middle)
  /-- If nothing fails, then all of the schedule happens and the run returns the process; it only
  logs that it did. -/
  completed : outcome = .ok () →
    made = schedule listeners converters steps ∧
    ∃ process, last.conversion.process = some process ∧
      run listeners converters st = (.ok process, noted .info
        s!"Converted workflow definition into process '{(last.store.get process).id.display}'" last)
  /-- If something fails, then the run fails and leaves the state as it was at that moment; it only
  logs that it did. -/
  stopped : ∀ fault, outcome = .error fault → run listeners converters st = (.error (raised fault),
    noted .error (abandonReport (last.store.get last.conversion.definition).id.display fault) last)

/-- No event of the preparation is the check. -/
theorem countP_isCheck_preparation (listeners : List Listener) (converters : List StepConverter)
    (steps : List Json) : (preparation listeners converters steps).countP Event.isCheck = 0 := by
  rw [List.countP_eq_zero]
  intro event h
  rcases List.mem_append.1 h with h | h
  · obtain ⟨listener, -, rfl⟩ := List.mem_map.1 h
    exact Bool.false_ne_true
  · obtain ⟨step, -, h⟩ := List.mem_flatMap.1 h
    obtain ⟨converter, -, rfl⟩ := List.mem_map.1 h
    exact Bool.false_ne_true

theorem countP_isCheck_schedule (listeners : List Listener) (converters : List StepConverter)
    (steps : List Json) : (schedule listeners converters steps).countP Event.isCheck = 1 := by
  have hafter : (listeners.map Event.after).countP Event.isCheck = 0 := by
    rw [List.countP_eq_zero]
    intro event h
    obtain ⟨listener, -, rfl⟩ := List.mem_map.1 h
    exact Bool.false_ne_true
  rw [schedule, List.countP_append, countP_isCheck_preparation, List.countP_cons_of_pos rfl, hafter]

theorem check_not_mem_preparation (listeners : List Listener) (converters : List StepConverter)
    (steps : List Json) : .check ∉ preparation listeners converters steps := by
  intro h
  exact List.countP_eq_zero.1 (countP_isCheck_preparation listeners converters steps) _ h rfl

/-- A course of a first part of the schedule comes to the check exactly if the preparation
succeeds. -/
theorem Course.check_mem_iff {listeners : List Listener} {converters : List StepConverter}
    {steps : List Json} {st last : State} {made : List Event} {outcome : Except Fault Unit}
    (h : Course st made outcome last) (hfirst : made <+: schedule listeners converters steps)
    (hall : outcome = .ok () → made = schedule listeners converters steps) :
    .check ∈ made
      ↔ ∃ middle, Course st (preparation listeners converters steps) (.ok ()) middle := by
  set ahead := preparation listeners converters steps
  have hahead : ahead <+: schedule listeners converters steps := ⟨_, rfl⟩
  constructor
  · intro hmem
    -- the check is beyond the preparation, so all of that was performed
    have hnot (hshort : made <+: ahead) : False :=
      check_not_mem_preparation listeners converters steps (hshort.subset hmem)
    obtain ⟨rest, rfl⟩ := (List.prefix_or_prefix_of_prefix hfirst hahead).resolve_left hnot
    have hrest : rest ≠ [] := by
      rintro rfl
      rw [List.append_nil] at hnot
      exact hnot List.prefix_rfl
    obtain ⟨middle, hmiddle, -⟩ := h.exists_of_append hrest
    exact ⟨middle, hmiddle⟩
  · rintro ⟨middle, hmiddle⟩
    cases outcome with
    | ok =>
      rw [hall rfl, schedule]
      exact List.mem_append_right _ List.mem_cons_self
    | error fault =>
      -- the fault is not one of the preparation, so the next event was performed as well
      have hnot (hshort : made <+: ahead) : False := by
        obtain ⟨rest, hrest⟩ := hshort
        have hfails := h.forM_perform_of_error rest
        rw [hrest, Course.ok_iff.1 hmiddle] at hfails
        cases hfails
      obtain ⟨rest, rfl⟩ := (List.prefix_or_prefix_of_prefix hfirst hahead).resolve_left hnot
      cases rest with
      | nil =>
        rw [List.append_nil] at hnot
        exact absurd List.prefix_rfl hnot
      | cons event rest =>
        have hnext := (List.prefix_append_right_inj ahead).1 hfirst
        rw [(List.cons_prefix_cons.1 hnext).1]
        exact List.mem_append_right _ List.mem_cons_self

theorem perform_preparation_leaves {R : State → State → Prop} [IsPreorder State R]
    {listeners : List Listener} {converters : List StepConverter}
    (hbefore : ∀ listener ∈ listeners, Leaves R listener.before)
    (hconvert : ∀ converter ∈ converters, ∀ step, Leaves R (converter step)) (steps : List Json) :
    Leaves R ((preparation listeners converters steps).forM Event.perform) := by
  rw [preparation, forM_perform_append, forM_before, forM_convert]
  exact .bind (.forM hbefore) fun _ ↦
    .forM fun step _ ↦ .forM fun converter h ↦ hconvert converter h step

/-- **The course of a run.** If those who take part leave the steps alone and do not take the
process away, then what happens in a run is a first part of the schedule, in order, up to the first
fault; the graph is checked once, between the steps and the listeners after them, if it comes to
that. -/
theorem run_takes {listeners : List Listener} {converters : List StepConverter} {st : State}
    (hid : (st.store.get st.conversion.definition).id.IsTextOrAbsent)
    (hname : (st.store.get st.conversion.definition).name.IsTextOrAbsent)
    (hbefore : ∀ listener ∈ listeners, Leaves GoesOn listener.before)
    (hconvert : ∀ converter ∈ converters, ∀ step, Leaves GoesOn (converter step))
    (hafter : ∀ listener ∈ listeners, Leaves GoesOn listener.after) :
    ∃ begun made outcome last, RunTakes listeners converters
      (st.store.get st.conversion.definition).steps st begun made outcome last := by
  obtain ⟨begun, hbegun, hprocess, hdefinition⟩ := ensureProcess_of_texts hid hname
  set steps := (st.store.get st.conversion.definition).steps with hstepsEq
  have hgoes := phases_leaves goesOn_of_onlyLogs hbefore hconvert hafter begun
  obtain ⟨process, hfound, hrun⟩ := run_eq hbegun (hgoes.process hprocess)
  have hphases : phases listeners converters begun
      = (schedule listeners converters steps).forM Event.perform begun := by
    refine phases_eq_schedule fun next hnext ↦ ?_
    have hkept := Leaves.forM hbefore begun
    rw [hnext] at hkept
    rw [hkept.steps, hdefinition]
  obtain ⟨made, hfirst, hcourse, hall⟩ := exists_course (schedule listeners converters steps) begun
  rw [← hphases] at hcourse hall
  rcases hend : phases listeners converters begun with ⟨outcome, last⟩
  rw [hend] at hcourse hall hfound hrun
  refine ⟨begun, made, outcome, last, ?_⟩
  exact
    { starts := hbegun
      isPrefix := hfirst
      course := hcourse
      check_once := by
        rw [← countP_isCheck_schedule listeners converters steps]
        exact hfirst.sublist.countP_le
      check_iff := hcourse.check_mem_iff hfirst fun h ↦ hall h
      check_effect := by
        intro middle hmiddle
        have hkept := perform_preparation_leaves hbefore hconvert steps begun
        rw [Course.ok_iff.1 hmiddle] at hkept
        obtain ⟨process, hprocess⟩ := (hkept.process hprocess).exists
        refine ⟨process, hprocess, ?_⟩
        cases helements : (middle.store.get process).elements with
        | some elements => exact checkGraph_apply hprocess helements
        | none => exact checkGraph_of_malformed hprocess helements
      completed := by
        rintro rfl
        exact ⟨hall rfl, process, hfound, hrun⟩
      stopped := by
        rintro fault rfl
        exact hrun }

/-- A conversion in which the second step fails takes a course that ends there. -/
theorem run_takes_failingStep :
    ∃ begun made fault last, RunTakes [Listener.idle] failingConverters
      (failingStep.store.get failingStep.conversion.definition).steps failingStep begun made
      (.error fault) last := by
  have hidle (listener) (h : listener ∈ [Listener.idle]) (phase : Phase) :
      Leaves GoesOn (listener.hook phase) := by
    rw [List.mem_singleton.1 h]
    cases phase <;> exact .pure ()
  obtain ⟨begun, made, outcome, last, htakes⟩ :=
    @run_takes [Listener.idle] failingConverters failingStep (.inr ⟨_, rfl⟩) (.inl rfl)
      (fun listener h ↦ hidle listener h .before)
      (fun converter h step ↦
        (failingConverters_appendElements converter h step).mono goesOn_of_onlyAppends)
      (fun listener h ↦ hidle listener h .after)
  cases outcome with
  | ok =>
    obtain ⟨-, process, -, hrun⟩ := htakes.completed rfl
    have hfails := failingStep_fails
    rw [hrun] at hfails
    cases hfails
  | error fault => exact ⟨begun, made, fault, last, htakes⟩

end WorkflowArtifacts.Conversion
