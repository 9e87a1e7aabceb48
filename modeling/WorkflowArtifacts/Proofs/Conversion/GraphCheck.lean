import WorkflowArtifacts.Proofs.Conversion.GraphFrame
import WorkflowArtifacts.Proofs.Conversion.RunArtifacts
import WorkflowArtifacts.Proofs.Process.Graph

/-!
# The check of the graph in a conversion

The check reads the list of elements of the process and the records behind it, and nothing else.
What it says about them is a matter of the graph alone (`WorkflowArtifacts.Graph.problems_eq`);
here this is said of the process of a conversion, with the wording of the problems.

## Before and after the supply of start forms

A run checks the graph before the listeners are called that give start forms, and returns the
process after they have been called. What is logged is true of the returned process all the same: a
form key is not among the things that the check reads, so the check finds the same in any two
states between which the graph has been kept (`GraphKept.graphProblems_eq`), also if the supply has
failed half-way.

Before the check, listeners and step converters may do to the log what they like. So the report of
a run is looked for among the entries made from the check on, and where nobody has logged such
warnings before, it is the only one of the run.
-/

namespace WorkflowArtifacts

/-! ## What the check reads -/

@[simp] theorem Element.id_withFormKey (e : Element) (key : Json) :
    (e.withFormKey key).id = e.id := by
  cases e <;> rfl

@[simp] theorem Element.sequenceFlow?_withFormKey (e : Element) (key : Json) :
    (e.withFormKey key).sequenceFlow? = e.sequenceFlow? := by
  cases e <;> rfl

@[simp] theorem Element.isSome_startEvent?_withFormKey (e : Element) (key : Json) :
    (e.withFormKey key).startEvent?.isSome = e.startEvent?.isSome := by
  cases e <;> rfl

/-- Whether an entry is a warning about the graph of a process. -/
def LogEntry.IsGraphWarning (entry : LogEntry) : Prop :=
  ∃ text, entry = .record .warning .run ("Process graph has validation warnings: " ++ text)

theorem LogEntry.IsGraphWarning.isWarning {entry : LogEntry} (h : entry.IsGraphWarning) :
    entry.IsWarning := by
  obtain ⟨text, rfl⟩ := h
  exact ⟨_, _, rfl⟩

namespace Conversion

/-- The same problems are found wherever the graph has been kept. -/
theorem GraphKept.problems_eq {st next : State} (h : GraphKept st next)
    (elements : List (Ref Element)) :
    Graph.problems (elements.map next.store.get) = Graph.problems (elements.map st.store.get) := by
  refine Graph.problems_map_congr elements (fun r ↦ ?_) (fun r ↦ ?_) fun r ↦ ?_
  all_goals rcases h.records r with hsame | ⟨-, hgiven⟩
  all_goals simp [*]

/-- So the check has the same outcome. -/
theorem GraphKept.graphProblems_eq {st next : State} (h : GraphKept st next) :
    graphProblems next = ((graphProblems st).1, next) := by
  cases hprocess : st.conversion.process with
  | none => rw [graphProblems_of_none hprocess, graphProblems_of_none (h.process.trans hprocess)]
  | some process =>
    have hnext := h.process.trans hprocess
    cases helements : (st.store.get process).elements with
    | none =>
      rw [graphProblems_of_malformed hprocess helements,
        graphProblems_of_malformed hnext ((h.listed process).trans helements)]
    | some elements =>
      rw [graphProblems_apply hprocess helements,
        graphProblems_apply hnext ((h.listed process).trans helements), h.problems_eq elements]

/-! ## What the check says -/

theorem map_message_danglingEnds (ids : List String) (flow : SequenceFlow) :
    (Graph.danglingEnds ids flow).map Graph.Problem.message =
      (if flow.sourceRef ∈ ids then []
        else [s!"Sequence flow '{flow.id}' source '{flow.sourceRef}' not found"])
      ++ if flow.targetRef ∈ ids then []
        else [s!"Sequence flow '{flow.id}' target '{flow.targetRef}' not found"] := by
  rw [Graph.danglingEnds, List.map_append, apply_ite (List.map _), apply_ite (List.map _)]
  rfl

/-- **What the check of a graph says.** First come the ids that are used more than once, each once,
in the order in which they are first used and with the number of their uses. Then come the loose
ends of the sequence flows in list order, the source before the target; an end is loose if no
listed element has the id, whatever its kind and wherever it stands. Last comes a missing start
event. So there is nothing to say exactly if ids are unique, all ends are tied and there is a start
event. -/
theorem graphProblems_exact {st : State} {process : Ref Process} {elements : List (Ref Element)}
    (hprocess : st.conversion.process = some process)
    (helements : (st.store.get process).elements = some elements) :
    let graph := elements.map st.store.get
    let ids := graph.map Element.id
    ∃ problems, graphProblems st = (.ok problems, st) ∧
      problems.map Graph.Problem.message =
        (Graph.repeatedIds ids).map
            (fun id ↦ s!"Flow element id '{id}' used {ids.count id} times")
          ++ (graph.filterMap Element.sequenceFlow?).flatMap (fun flow ↦
            (if flow.sourceRef ∈ ids then []
              else [s!"Sequence flow '{flow.id}' source '{flow.sourceRef}' not found"])
            ++ if flow.targetRef ∈ ids then []
              else [s!"Sequence flow '{flow.id}' target '{flow.targetRef}' not found"])
          ++ (if Graph.HasStart graph then [] else ["Process has no start event"]) ∧
      (∀ id, id ∈ Graph.repeatedIds ids ↔ 1 < ids.count id) ∧
      (Graph.repeatedIds ids).Pairwise (fun id other ↦ ids.idxOf id < ids.idxOf other) ∧
      (problems = [] ↔ ids.Nodup ∧
        (∀ flow, .sequenceFlow flow ∈ graph → flow.sourceRef ∈ ids ∧ flow.targetRef ∈ ids) ∧
        Graph.HasStart graph) := by
  intro graph ids
  refine ⟨Graph.problems graph, graphProblems_apply hprocess helements, ?_,
    fun id ↦ Graph.mem_repeatedIds, Graph.pairwise_idxOf_repeatedIds ids,
    Graph.problems_eq_nil_iff⟩
  rw [Graph.problems_eq, List.map_append, List.map_append, List.map_map, List.map_flatMap,
    apply_ite (List.map _)]
  simp only [map_message_danglingEnds]
  rfl

/-- A conversion with a process without start events, in which a task is listed twice, one sequence
flow comes before the task and reaches itself, and two others have loose ends. -/
def tangled : State where
  store :=
    { Store.empty with
      processes := Table.empty.push
        { id := .text "review", name := none, elements := some [⟨0⟩, ⟨1⟩, ⟨2⟩, ⟨1⟩, ⟨3⟩] }
      elements := ⟨#[
        .sequenceFlow { id := "f", sourceRef := "task", targetRef := "f", condition := none },
        .userTask { id := "task", name := none, formKey := none, assignee := none },
        .sequenceFlow { id := "g", sourceRef := "gone", targetRef := "task", condition := none },
        .sequenceFlow { id := "h", sourceRef := "f", targetRef := "away", condition := none }]⟩ }
  conversion := { definition := ⟨0⟩, process := some ⟨0⟩, artifacts := .empty }
  tokens := ⟨[], 0⟩
  log := []

theorem graphProblems_exact_tangled :
    ∃ problems, graphProblems tangled = (.ok problems, tangled) ∧
      problems.map Graph.Problem.message =
        ["Flow element id 'task' used 2 times", "Sequence flow 'g' source 'gone' not found",
          "Sequence flow 'h' target 'away' not found", "Process has no start event"] := by
  obtain ⟨problems, hrun, hmessages, -⟩ := @graphProblems_exact tangled ⟨0⟩ _ rfl rfl
  refine ⟨problems, hrun, hmessages.trans ?_⟩
  decide

/-! ## The order in which elements are listed -/

/-- **The order of the elements.** Two processes that list the same elements in different orders
have the same problems in different orders, each as many times in the one as in the other. So there
is nothing to say about the one exactly if there is nothing to say about the other. -/
theorem graphProblems_perm {st other : State} {process rearranged : Ref Process}
    {elements others : List (Ref Element)}
    (hprocess : st.conversion.process = some process)
    (helements : (st.store.get process).elements = some elements)
    (hrearranged : other.conversion.process = some rearranged)
    (hothers : (other.store.get rearranged).elements = some others)
    (hperm : (elements.map st.store.get).Perm (others.map other.store.get)) :
    ∃ problems rest, graphProblems st = (.ok problems, st) ∧
      graphProblems other = (.ok rest, other) ∧ problems.Perm rest ∧
      (problems.map Graph.Problem.message).Perm (rest.map Graph.Problem.message) ∧
      (problems = [] ↔ rest = []) := by
  have hproblems := Graph.problems_perm hperm
  refine ⟨_, _, graphProblems_apply hprocess helements, graphProblems_apply hrearranged hothers,
    hproblems, hproblems.map _, ?_⟩
  constructor
  · intro h
    rw [h] at hproblems
    exact hproblems.nil_eq.symm
  · intro h
    rw [h] at hproblems
    exact hproblems.eq_nil

/-- The conversion `tangled` with the elements of its process listed from the last to the first. -/
def tangledBackwards : State :=
  { tangled with
    store := tangled.store.modify (⟨0⟩ : Ref Process) fun p ↦
      { p with elements := p.elements.map List.reverse } }

theorem graphProblems_perm_tangled :
    ∃ problems rest, graphProblems tangled = (.ok problems, tangled) ∧
      graphProblems tangledBackwards = (.ok rest, tangledBackwards) ∧ problems.Perm rest ∧
      problems ≠ rest := by
  have hperm : (([⟨0⟩, ⟨1⟩, ⟨2⟩, ⟨1⟩, ⟨3⟩] : List (Ref Element)).map tangled.store.get).Perm
      (([⟨3⟩, ⟨1⟩, ⟨2⟩, ⟨1⟩, ⟨0⟩] : List (Ref Element)).map tangledBackwards.store.get) :=
    (List.reverse_perm _).symm.map tangled.store.get
  obtain ⟨problems, rest, hrun, hother, hproblems, -⟩ :=
    @graphProblems_perm tangled tangledBackwards ⟨0⟩ ⟨0⟩ _ _ rfl rfl rfl rfl hperm
  refine ⟨problems, rest, hrun, hother, hproblems, ?_⟩
  rintro rfl
  have hsame : (graphProblems tangled).1.toOption
      = (graphProblems tangledBackwards).1.toOption := by
    rw [hrun, hother]
  revert hsame
  decide

/-! ## What is logged -/

/-- What is logged about problems: all in one warning, or nothing if there are none. -/
def graphReport (problems : List Graph.Problem) : List LogEntry :=
  if problems = [] then []
  else [.record .warning .run ("Process graph has validation warnings: "
    ++ "; ".intercalate (problems.map Graph.Problem.message))]

theorem warned_log (problems : List Graph.Problem) (st : State) :
    (warned problems st).log = st.log ++ graphReport problems := by
  cases problems with
  | nil => exact (List.append_nil _).symm
  | cons first rest => rfl

theorem warned_onlyLogs (problems : List Graph.Problem) (st : State) :
    OnlyLogs st (warned problems st) := by
  rw [warned]
  split
  · exact ⟨rfl, rfl, rfl⟩
  · exact ⟨rfl, rfl, rfl⟩

/-- The check only succeeds if the graph can be read, and then has logged what it found. -/
theorem checkGraph_ok {st next : State} (h : checkGraph st = (.ok (), next)) :
    ∃ problems, graphProblems st = (.ok problems, st) ∧ next = warned problems st := by
  cases hprocess : st.conversion.process with
  | none =>
    rw [checkGraph, bind_error (graphProblems_of_none hprocess)] at h
    cases h
  | some process =>
    cases helements : (st.store.get process).elements with
    | none =>
      rw [checkGraph_of_malformed hprocess helements] at h
      cases h
    | some elements =>
      rw [checkGraph_apply hprocess helements] at h
      cases h
      exact ⟨_, graphProblems_apply hprocess helements, rfl⟩

/-- Whether the graph has been kept, and nothing has been logged that could be taken for a warning
about it. -/
structure GraphUnreported (st next : State) : Prop extends GraphKept st next where
  /-- The log has got longer, if anything, but not by warnings about the graph. -/
  log : ∃ entries, next.log = st.log ++ entries ∧ ∀ entry ∈ entries, ¬ entry.IsGraphWarning

instance : IsPreorder State GraphUnreported where
  refl st := ⟨.refl st, [], (List.append_nil _).symm, fun _ h ↦ absurd h List.not_mem_nil⟩
  trans st middle next h h' := by
    obtain ⟨first, hfirst, hnone⟩ := h.log
    obtain ⟨second, hsecond, hnone'⟩ := h'.log
    refine ⟨h.toGraphKept.trans h'.toGraphKept, first ++ second, ?_, fun entry hentry ↦ ?_⟩
    · rw [hsecond, hfirst, List.append_assoc]
    · rcases List.mem_append.1 hentry with hin | hin
      · exact hnone entry hin
      · exact hnone' entry hin

theorem note_unreported {level : LogLevel} (source : LogSource) (message : String)
    (h : level ≠ .warning ∨ source ≠ .run) :
    Leaves GraphUnreported (note level source message) := by
  intro st
  refine ⟨.of_onlyLogs (note_onlyLogs level source message st), [_], rfl, ?_⟩
  rintro entry hentry ⟨text, rfl⟩
  cases List.mem_singleton.1 hentry
  simp at h

theorem supplyOne_unreported (process : Ref Process) (e : Ref Element) :
    Leaves GraphUnreported (supplyOne process e) := by
  intro st
  refine ⟨supplyOne_keepsGraph process e st, ?_⟩
  cases hlacks : (st.store.get e).lacksForm with
  | false =>
    obtain ⟨entries, hrun, hentries⟩ := supplyOne_of_not_lacksForm hlacks process
    rw [hrun]
    exact ⟨entries, rfl, fun entry h hwarning ↦ hentries entry h hwarning.isWarning⟩
  | true =>
    rcases supplyOne_cases hlacks process with
      ⟨-, hrun⟩ | ⟨_, -, -, hrun⟩ | ⟨formModule, _, hmodule, -⟩
    · rw [hrun]
      exact ⟨[], (List.append_nil _).symm, fun _ h ↦ absurd h List.not_mem_nil⟩
    · rw [hrun]
      exact ⟨[], (List.append_nil _).symm, fun _ h ↦ absurd h List.not_mem_nil⟩
    · obtain ⟨entry, hrun, hentry⟩ := supplyOne_of_lacksForm hmodule hlacks process
      rw [hrun]
      refine ⟨[entry], rfl, fun other h hwarning ↦ ?_⟩
      rw [List.mem_singleton.1 h] at hwarning
      exact hentry hwarning.isWarning

theorem completeStartForms_unreported : Leaves GraphUnreported Listener.completeStartForms :=
  .completeStartForms (.supplyStartForms supplyOne_unreported)
    fun message ↦ note_unreported _ message (.inr (by decide))

theorem mem_graphReport {problems : List Graph.Problem} {text : String} :
    .record .warning .run ("Process graph has validation warnings: " ++ text) ∈ graphReport problems
      ↔ problems ≠ [] ∧ text = "; ".intercalate (problems.map Graph.Problem.message) := by
  rw [graphReport]
  split
  · next h => simp [h]
  · next h => simp [h]

/-- What the phases of a run leave where they succeed: the graph is checked after the preparation,
and no more is said about it. -/
theorem exists_of_phases_ok {listeners : List Listener} {converters : List StepConverter}
    (hafter : ∀ listener ∈ listeners, Leaves GraphUnreported listener.after) {st ended : State}
    (h : phases listeners converters st = (.ok (), ended)) :
    ∃ steps middle problems, Course st (preparation listeners converters steps) (.ok ()) middle ∧
      graphProblems middle = (.ok problems, middle) ∧
      GraphUnreported (warned problems middle) ended := by
  obtain ⟨steps, hschedule⟩ := exists_phases_eq_schedule listeners converters st
  rw [hschedule, schedule, forM_perform_append] at h
  obtain ⟨_, middle, hpreparation, h⟩ := exists_of_bind_ok h
  rw [forM_perform_cons, forM_after] at h
  obtain ⟨_, checked, hcheck, h⟩ := exists_of_bind_ok h
  obtain ⟨problems, hproblems, rfl⟩ := checkGraph_ok hcheck
  have hkept := Leaves.forM hafter (warned problems middle)
  rw [h] at hkept
  exact ⟨steps, middle, problems, Course.ok_iff.2 hpreparation, hproblems, hkept⟩

/-- **The report of a run.** If a run returns a process and only supplies start forms after the
steps, then the check of the graph finds the same in the process that is returned as it found in
the run. Right after the preparation of the run the log has one warning with all of these problems,
if there are any, and no warning about the graph after that; if the preparation has logged none, it
is the only one of the run. The supply of start forms does not make a difference to what the check
finds, whether it succeeds or not. -/
theorem run_reports_graph {listeners : List Listener} (converters : List StepConverter)
    (hafter : ∀ listener ∈ listeners,
      listener.after = Listener.completeStartForms ∨ listener.after = pure ()) (st : State) :
    (∀ process last, run listeners converters st = (.ok process, last) →
      ∃ begun steps middle problems later,
        ensureProcess st = (.ok (), begun) ∧
        Course begun (preparation listeners converters steps) (.ok ()) middle ∧
        graphProblems middle = (.ok problems, middle) ∧
        last.conversion.process = some process ∧ graphProblems last = (.ok problems, last) ∧
        last.log = middle.log ++ graphReport problems ++ later ∧
        (∀ entry ∈ later, ¬ entry.IsGraphWarning) ∧
        ∀ ahead, middle.log = st.log ++ ahead → (∀ entry ∈ ahead, ¬ entry.IsGraphWarning) →
          ∃ entries, last.log = st.log ++ entries ∧
            ∀ text, .record .warning .run ("Process graph has validation warnings: " ++ text)
              ∈ entries ↔
                problems ≠ [] ∧ text = "; ".intercalate (problems.map Graph.Problem.message)) ∧
    (graphProblems (supplyStartForms st).2).1 = (graphProblems st).1 := by
  refine ⟨fun process last hrun ↦ ?_, ?_⟩
  · have hunreported (listener) (h : listener ∈ listeners) :
        Leaves GraphUnreported listener.after := by
      rcases hafter listener h with hcomplete | hidle
      · rw [hcomplete]
        exact completeStartForms_unreported
      · rw [hidle]
        exact .pure ()
    obtain ⟨begun, ended, hbegun, hphases, hfound, -⟩ := run_ok hrun
    obtain ⟨steps, middle, problems, hcourse, hproblems, hkept⟩ :=
      exists_of_phases_ok hunreported hphases
    obtain ⟨text, rfl⟩ : ∃ text, last = noted .info text ended := by
      obtain ⟨_, -, hend⟩ := @run_eq listeners converters st begun hbegun
        (by rw [hphases, HasProcess, hfound]; rfl)
      rw [hphases, hrun] at hend
      cases hend
      exact ⟨_, rfl⟩
    -- the end of the run is one more step that says nothing about the graph
    have hlast : GraphUnreported (warned problems middle) (noted .info text ended) :=
      IsTrans.trans _ _ _ hkept (note_unreported .run text (.inl (by decide)) ended)
    obtain ⟨later, hlog, hlater⟩ := hlast.log
    rw [warned_log] at hlog
    have hgraph := (GraphKept.of_onlyLogs (warned_onlyLogs problems middle)).trans hlast.toGraphKept
    refine ⟨begun, steps, middle, problems, later, hbegun, hcourse, hproblems, hfound, ?_, hlog,
      hlater, fun ahead hahead hnone ↦ ?_⟩
    · rw [hgraph.graphProblems_eq, hproblems]
    · refine ⟨ahead ++ graphReport problems ++ later, ?_, fun text ↦ ?_⟩
      · rw [hlog, hahead, List.append_assoc, List.append_assoc, List.append_assoc]
      · rw [← mem_graphReport, List.mem_append, List.mem_append]
        constructor
        · rintro ((h | h) | h)
          · exact absurd ⟨text, rfl⟩ (hnone _ h)
          · exact h
          · exact absurd ⟨text, rfl⟩ (hlater _ h)
        · intro h
          exact .inl (.inr h)
  · rw [(supplyStartForms_keepsGraph st).graphProblems_eq]

/-- A conversion of a definition whose two steps make start events with the same id. -/
def startTwice : State where
  store :=
    { Store.empty with
      definitions := Table.empty.push
        { id := .text "leave"
          name := .null
          description := .null
          steps :=
            [.object [("type", .text "start"), ("id", .text "begin")],
              .object [("type", .text "start"), ("id", .text "begin")]] } }
  conversion := .start ⟨0⟩
  tokens := ⟨[], 0⟩
  log := []

/-- Both start events are given a form after the check, and the report is still true. -/
theorem run_reports_graph_startTwice :
    ∃ settings process, ∃ middle last : State, ∃ later,
      run [Listener.artifactSetup settings] [Session.ConverterName.start.converter] startTwice
        = (.ok process, last) ∧
      last.log = middle.log ++ graphReport [.repeatedId "begin" 2] ++ later ∧
      graphProblems last = (.ok [.repeatedId "begin" 2], last) ∧
      (last.store.get (⟨0⟩ : Ref Element)).lacksForm = false := by
  let settings : Settings := { logLevel := "INFO", modelAuthor := none, modelVersion := "1.0" }
  have hafter : ∀ listener ∈ [Listener.artifactSetup settings],
      listener.after = Listener.completeStartForms ∨ listener.after = pure () := by
    intro listener h
    rw [List.mem_singleton.1 h]
    exact .inl rfl
  obtain ⟨hreturned, -⟩ :=
    run_reports_graph [Session.ConverterName.start.converter] hafter startTwice
  have hsucceeds : (run [Listener.artifactSetup settings] [Session.ConverterName.start.converter]
      startTwice).1.toOption.isSome = true := by
    decide +kernel
  have hfinds : (graphProblems (run [Listener.artifactSetup settings]
      [Session.ConverterName.start.converter] startTwice).2).1.toOption
        = some [.repeatedId "begin" 2] := by
    decide +kernel
  have hgiven : ((run [Listener.artifactSetup settings] [Session.ConverterName.start.converter]
      startTwice).2.store.get (⟨0⟩ : Ref Element)).lacksForm = false := by
    decide +kernel
  rcases hrun : run [Listener.artifactSetup settings] [Session.ConverterName.start.converter]
    startTwice with ⟨fault | process, last⟩
  · rw [hrun] at hsucceeds
    cases hsucceeds
  · obtain ⟨_, _, middle, problems, later, -, -, -, -, hproblems, hlog, -⟩ :=
      hreturned process last hrun
    rw [hrun, hproblems] at hfinds
    obtain rfl : problems = [.repeatedId "begin" 2] := Option.some.inj hfinds
    rw [hrun] at hgiven
    exact ⟨settings, process, middle, last, later, hrun, hlog, hproblems, hgiven⟩

end Conversion

end WorkflowArtifacts
