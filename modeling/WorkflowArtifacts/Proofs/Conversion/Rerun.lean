import WorkflowArtifacts.Proofs.Conversion.GraphFrame
import WorkflowArtifacts.Proofs.Conversion.Namespaces
import WorkflowArtifacts.Proofs.Conversion.RunArtifacts

/-!
# Running a conversion again

A run is made to be the only one of its conversion. What a second one does follows from two facts
about the state in which a first run has ended: the definition has an id, and no listed element
lacks a form (`Settled`). So the second run generates no id and supplies no element. But it sets up
the artifacts anew before it comes to the elements, and with that the configurations of the first
run are gone from the form module. The content model, which nobody adds to, comes out the same.

No step converters take part here; with them a second run would convert the steps a second time.
-/

namespace WorkflowArtifacts

/-! ## Contents of artifacts -/

/-- The content of the content model of an id. -/
def contentModelContentOf (id : String) (description author version : Option String) : Content :=
  .record .contentModel
    [("name", .ofText? (some (qualifiedName id Vocabulary.contentModelName))),
      ("description", .ofText? description), ("author", .ofText? author),
      ("version", .ofText? version),
      ("namespaces", .list [ModelNamespace.content
        { uri := Vocabulary.namespaceUri.fill id, qualifier := id }]),
      ("imports", .list (requiredImports.map ModelNamespace.content))]

/-- What the content model of an id amounts to does not depend on the store. -/
theorem IsContentModelOf.contentModelContent_eq {s : Store} {model : Ref ContentModel} {id : String}
    (h : IsContentModelOf s model id) :
    s.contentModelContent model = contentModelContentOf id (s.get model).description
      (s.get model).author (s.get model).version := by
  obtain ⟨own, hnamespaces, -, hown⟩ := h.declared
  have hread : (s.get model).imports.map s.get = requiredImports :=
    Store.map_get_of_holds h.imported
  have himports : (s.get model).imports.map s.namespaceContent
      = requiredImports.map ModelNamespace.content := by
    rw [← hread, List.map_map]
    rfl
  have hown : [own].map s.namespaceContent = [ModelNamespace.content _] := congrArg (fun n ↦
    [ModelNamespace.content n]) hown
  rw [Store.contentModelContent, h.name, hnamespaces, hown, himports, contentModelContentOf]

/-- A form module without configurations amounts to the same as another one of its name exactly if
that has none either. -/
theorem Store.formModuleContent_eq_iff {s t : Store} {old new : Ref FormModule}
    (hid : (t.get new).id = (s.get old).id) (hnone : (t.get new).configurations = []) :
    t.formModuleContent new = s.formModuleContent old ↔ (s.get old).configurations = [] := by
  rw [Store.formModuleContent, Store.formModuleContent, hid, hnone]
  constructor
  · intro h
    injection h with _ hfields
    injection hfields with _ hfields
    injection hfields with hconfigurations _
    injection hconfigurations with _ hlists
    injection hlists with hmap
    exact List.map_eq_nil_iff.1 hmap.symm
  · intro h
    rw [h]
    rfl

namespace Conversion

open Build

/-! ## Runs without step converters -/

theorem forM_convertStep_nil (steps : List Json) (st : State) :
    steps.forM (convertStep []) st = (.ok (), st) := by
  induction steps with
  | nil => rfl
  | cons step rest ih => exact ih

/-- Without step converters, the check of the graph comes right after the first phase. -/
theorem phases_single (listener : Listener) (st : State) :
    phases [listener] [] st
      = (listener.before >>= fun _ ↦ checkGraph >>= fun _ ↦ listener.after) st := by
  rw [phases, bind_apply, bind_apply, forM_singleton]
  rcases listener.before st with ⟨fault | ⟨⟩, ready⟩
  · rfl
  · dsimp only
    rw [bind_ok (currentDefinition_apply ready), bind_ok (forM_convertStep_nil _ ready), bind_apply,
      bind_apply]
    rcases checkGraph ready with ⟨fault | ⟨⟩, checked⟩
    · rfl
    · exact congrFun (forM_singleton Listener.after listener) checked

/-! ## What a process lists -/

/-- The elements that the process lists, if there is a process and it has a list. -/
def listed (st : State) : List (Ref Element) :=
  (st.conversion.process.bind fun process ↦ (st.store.get process).elements).getD []

theorem listed_eq {st : State} {process : Ref Process} {elements : List (Ref Element)}
    (hprocess : st.conversion.process = some process)
    (helements : (st.store.get process).elements = some elements) : listed st = elements := by
  rw [listed, hprocess]
  exact congrArg (Option.getD · []) helements

/-- The making of the process changes neither the list of its elements nor these. -/
theorem ensureProcess_listed {st begun : State} (h : ensureProcess st = (.ok (), begun)) :
    listed begun = listed st ∧
      ((∀ r ∈ listed st, st.store.Allocated r) →
        (∀ r ∈ listed begun, begun.store.Allocated r) ∧
        lacking begun.store (listed begun) = lacking st.store (listed st)) := by
  rcases ensureProcess_cases st with ⟨process, -, hsame⟩ | ⟨hnone, ⟨_, herror⟩ | hmake⟩
  · rw [hsame] at h
    cases h
    exact ⟨rfl, fun hallocated ↦ ⟨hallocated, rfl⟩⟩
  · rw [herror] at h
    cases h
  · rw [hmake] at h
    have hbegun : begun = _ := (congrArg Prod.snd h).symm
    have hnone : listed st = [] := by rw [listed, hnone]; rfl
    have hempty : listed begun = [] := by
      rw [hbegun]
      exact congrArg (fun p : Process ↦ p.elements.getD []) (st.store.processes.get_push_next _)
    rw [hnone, hempty]
    exact ⟨rfl, fun _ ↦ ⟨fun _ hr ↦ absurd hr List.not_mem_nil, rfl⟩⟩

/-- The form module of an id, as it is made. -/
def blankFormModule (id : String) : FormModule :=
  { id := some (Vocabulary.formModuleId.fill id), configurations := [] }

/-! ## The last phase -/

theorem completeStartForms_ok {st next : State}
    (h : Listener.completeStartForms st = (.ok (), next)) :
    ∃ supplied reached, supplyStartForms st = (.ok supplied, reached) ∧ OnlyLogs reached next := by
  obtain ⟨supplied, reached, hsupply, h⟩ := exists_of_bind_ok h
  refine ⟨supplied, reached, hsupply, ?_⟩
  have hwarning : Leaves OnlyLogs (do
      let process ← requireProcess "id"
      let content : Process ← Build.fetch process
      note .warning .artifactSetup
        (s!"Process '{content.id.display}' has {supplied.length} start events without form; "
          ++ "each adds its own details-form configuration")) :=
    .bind (requireProcess_onlyLogs _) fun _ ↦ .bind (fetch_onlyLogs _) fun _ ↦ note_onlyLogs _ _ _
  dsimp only at h
  split at h
  · have hlogs := hwarning reached
    rw [h] at hlogs
    exact hlogs
  · cases h
    exact ⟨rfl, rfl, rfl⟩

/-- Where no listed element lacks a form, the last phase does nothing. -/
theorem completeStartForms_of_none_lacking {st : State} {process : Ref Process}
    {elements : List (Ref Element)} (hprocess : st.conversion.process = some process)
    (helements : (st.store.get process).elements = some elements)
    (h : ∀ r ∈ elements, (st.store.get r).lacksForm = false) :
    ∃ entries, Listener.completeStartForms st = (.ok (), { st with log := st.log ++ entries }) := by
  obtain ⟨entries, hrun⟩ := supplyAll_of_none_lacking process h
  refine ⟨entries, ?_⟩
  have hsupply : supplyStartForms st = (.ok [], { st with log := st.log ++ entries }) :=
    (supplyStartForms_apply hprocess helements).trans hrun
  rw [Listener.completeStartForms, bind_ok hsupply]
  rfl

/-- The last phase leaves no listed element without a form, and the form module has one more
configuration for each that lacked one. -/
theorem completeStartForms_supplies {st next : State} {process : Ref Process}
    {formModule : Ref FormModule} (hprocess : st.conversion.process = some process)
    (hmodule : st.conversion.artifacts.get Vocabulary.formModuleKey
      = .entity (.formModule formModule))
    (hallocated : st.store.Allocated formModule)
    (hlisted : ∀ r ∈ listed st, st.store.Allocated r)
    (h : Listener.completeStartForms st = (.ok (), next)) :
    (∃ elements, (next.store.get process).elements = some elements ∧
      ∀ r ∈ elements, (next.store.get r).lacksForm = false) ∧
    next.conversion = st.conversion ∧
    (next.store.get formModule).configurations.length
      = (st.store.get formModule).configurations.length
        + (lacking st.store (listed st)).length := by
  obtain ⟨supplied, reached, hsupply, hlogs⟩ := completeStartForms_ok h
  obtain ⟨found, elements, hfound, helements, hgiven⟩ := supplyStartForms_ok
    (fun found elements hfound helements ↦ by
      rw [← listed_eq hfound helements]
      exact hlisted) hsupply
  obtain rfl : process = found := Option.some.inj (hprocess.symm.trans hfound)
  rw [listed_eq hprocess helements] at hlisted ⊢
  obtain ⟨store, made, entries, hall, hsupplied, -⟩ :=
    supplyAll_supplied process elements hmodule hallocated hlisted
  rw [supplyStartForms_apply hprocess helements, hall] at hsupply
  cases hsupply
  have hprocesses : store.get process = st.store.get process :=
    congrArg (·.get process) hsupplied.processes
  rw [hlogs.store, hlogs.conversion]
  refine ⟨⟨elements, ?_, hgiven⟩, rfl, ?_⟩
  · change (store.get process).elements = _
    rw [hprocesses, helements]
  · change (store.get formModule).configurations.length = _
    rw [hsupplied.appended, List.length_append, hsupplied.length_made]

/-! ## The state after a run -/

/-- Whether nothing is left to be chosen or supplied: the definition has an id, its description can
be that of a content model, and no element of the process lacks a form. -/
structure Settled (given : String) (process : Ref Process) (st : State) : Prop where
  /-- The definition has the id. -/
  id_eq : (st.store.get st.conversion.definition).id = .text given
  /-- The description is a text or absent. -/
  description : (st.store.get st.conversion.definition).description.IsTextOrAbsent
  /-- The process is there. -/
  process_eq : st.conversion.process = some process
  /-- It has a list of elements, none of which lacks a form. -/
  elements : ∃ elements, (st.store.get process).elements = some elements ∧
    ∀ r ∈ elements, (st.store.get r).lacksForm = false

/-- What a run without step converters does in a settled state: it replaces the artifacts. -/
structure ArtifactsReplaced (settings : Settings) (id : String) (st next : State) : Prop where
  /-- No records but those of content models, namespaces and form modules have changed. -/
  store : next.store = { st.store with
    contentModels := next.store.contentModels
    namespaces := next.store.namespaces
    formModules := st.store.formModules.push (blankFormModule id) }
  /-- The tokens are the same. -/
  tokens : next.tokens = st.tokens
  /-- All that has changed in the conversion are the artifacts under the three keys. -/
  conversion : ∃ model, next.conversion = { st.conversion with
      artifacts := ((st.conversion.artifacts.put Vocabulary.contentModelKey
        (.entity (.contentModel model))).put Vocabulary.qualifierKey (.data (.text id))).put
          Vocabulary.formModuleKey (.entity (.formModule st.store.formModules.next)) } ∧
    IsContentModelOf next.store model id ∧
    .ofText? (next.store.get model).description
      = (st.store.get st.conversion.definition).description ∧
    (next.store.get model).author = settings.modelAuthor ∧
    (next.store.get model).version = settings.modelVersion

theorem ArtifactsReplaced.of_onlyLogs {settings : Settings} {id : String} {st next last : State}
    (h : ArtifactsReplaced settings id st next) (hlogs : OnlyLogs next last) :
    ArtifactsReplaced settings id st last where
  store := by
    rw [hlogs.store]
    exact h.store
  tokens := hlogs.tokens.trans h.tokens
  conversion := by
    rw [hlogs.conversion, hlogs.store]
    exact h.conversion

/-- The setting up of artifacts leaves elements alone and makes a form module without
configurations. -/
theorem setUpArtifacts_blank {settings : Settings} {process : Ref Process} {st next : State}
    (hprocess : st.conversion.process = some process)
    (h : Listener.setUpArtifacts settings st = (.ok (), next)) :
    next.store.elements = st.store.elements ∧
      ∃ formModule,
        next.conversion.artifacts.get Vocabulary.formModuleKey = .entity (.formModule formModule) ∧
        next.store.Holds formModule (blankFormModule (idAhead st)) := by
  obtain ⟨named, made, model, formModule, -, -, hstore, -, hmade, hmodule⟩ :=
    setUpArtifacts_ok hprocess h
  have hnamed : named.store.elements = st.store.elements := by
    rw [hstore]
    split <;> rfl
  have helements : made.store.elements = st.store.elements := by
    rw [hmade.store]
    exact hnamed
  obtain ⟨entry, happly⟩ := makeFormModule_apply (.text (idAhead st)) made
  rw [happly] at hmodule
  cases hmodule
  exact ⟨helements, _, Registry.get_put_self _ _ _, made.store.holds_alloc (blankFormModule _)⟩

/-- The setting up of artifacts for a definition that has an id. -/
theorem setUpArtifacts_replaces {settings : Settings} {process : Ref Process} {st next : State}
    {given : String} (hid : (st.store.get st.conversion.definition).id = .text given)
    (hprocess : st.conversion.process = some process)
    (h : Listener.setUpArtifacts settings st = (.ok (), next)) :
    ArtifactsReplaced settings (Identifier.sanitize given) st next := by
  have hahead : idAhead st = Identifier.sanitize given := by rw [idAhead, hid]
  obtain ⟨named, made, model, formModule, -, hconversion, hstore, htokens, hmade, hmodule⟩ :=
    setUpArtifacts_ok hprocess h
  rw [hahead] at hmade hmodule
  rw [hid] at hstore htokens
  obtain ⟨entry, happly⟩ := makeFormModule_apply (.text (Identifier.sanitize given)) made
  rw [happly] at hmodule
  cases hmodule
  have hstore : named.store = st.store := hstore
  obtain ⟨models, namespaces, hmadeStore⟩ : ∃ models namespaces, made.store
      = { st.store with contentModels := models, namespaces := namespaces } :=
    ⟨_, _, hstore ▸ hmade.store⟩
  exact
    { store := by
        change (made.store.alloc (blankFormModule _)).2 = _
        rw [hmadeStore]
        rfl
      tokens := hmade.tokens.trans htokens
      conversion := by
        refine ⟨model, ?_, hmade.stands.of_extends (.refl _) (.refl _), ?_,
          ofText?_injective hmade.author, ofText?_injective hmade.version⟩
        · rw [hmadeStore, hmade.conversion, hconversion]
        · have hdescription := hmade.description
          rw [hconversion, hstore] at hdescription
          exact hdescription }

/-- A run in a settled state succeeds, and replaces the artifacts. -/
theorem run_of_settled (settings : Settings) {given : String} {process : Ref Process} {st : State}
    (h : Settled given process st) :
    ∃ next, run [Listener.artifactSetup settings] [] st = (.ok process, next) ∧
      ArtifactsReplaced settings (Identifier.sanitize given) st next := by
  obtain ⟨elements, helements, hgiven⟩ := h.elements
  obtain ⟨ready, model, hsetUp, -, -⟩ := setUpArtifacts_of_textOrAbsent settings
    (.inr ⟨given, h.id_eq⟩) h.description fun _ ↦ ⟨process, h.process_eq⟩
  have hreplaced := setUpArtifacts_replaces h.id_eq h.process_eq hsetUp
  -- the process and its elements are untouched when the graph is checked
  have hprocess : ready.conversion.process = some process := by
    obtain ⟨model, hconversion, -⟩ := hreplaced.conversion
    rw [hconversion, ← h.process_eq]
  have hlist : (ready.store.get process).elements = some elements := by
    rw [hreplaced.store]
    exact helements
  have hrecords (r : Ref Element) : ready.store.get r = st.store.get r := by
    rw [hreplaced.store]
    rfl
  have hcheck := checkGraph_apply hprocess hlist
  have hchecked := checkGraph_onlyLogs ready
  generalize warned (Graph.problems (elements.map ready.store.get)) ready = checked at hcheck
  rw [hcheck] at hchecked
  have hcheckedProcess : checked.conversion.process = some process := by
    rw [hchecked.conversion, hprocess]
  obtain ⟨entries, hcomplete⟩ := @completeStartForms_of_none_lacking checked process elements
    hcheckedProcess (by rw [hchecked.store, hlist])
    fun r hr ↦ by rw [hchecked.store, hrecords, hgiven r hr]
  have hphases : phases [Listener.artifactSetup settings] [] st
      = (.ok (), { checked with log := checked.log ++ entries }) := by
    rw [phases_single]
    change (Listener.setUpArtifacts settings >>= fun _ ↦ checkGraph >>= fun _ ↦
      Listener.completeStartForms) st = _
    rw [bind_ok hsetUp, bind_ok hcheck, hcomplete]
  have hensure : ensureProcess st = (.ok (), st) := by
    rw [ensureProcess, bind_ok (current_apply st), h.process_eq]
    rfl
  obtain ⟨found, hfound, hrun⟩ := run_eq hensure
    (show HasProcess (phases [Listener.artifactSetup settings] [] st).2 by
      rw [hphases, HasProcess, hcheckedProcess]
      rfl)
  rw [hphases] at hfound hrun
  obtain rfl : process = found := Option.some.inj (hcheckedProcess.symm.trans hfound)
  exact ⟨_, hrun, hreplaced.of_onlyLogs ⟨hchecked.store, hchecked.conversion, hchecked.tokens⟩⟩

/-- What the phases supply, from the making of the form module to the end. -/
theorem phases_supplies {settings : Settings} {process : Ref Process} {begun done : State}
    (hprocess : begun.conversion.process = some process)
    (hallocated : ∀ r ∈ listed begun, begun.store.Allocated r)
    (h : phases [Listener.artifactSetup settings] [] begun = (.ok (), done)) :
    (begun.store.get begun.conversion.definition).id.IsTextOrAbsent ∧
    done.conversion.process = some process ∧
    (∃ elements, (done.store.get process).elements = some elements ∧
      ∀ r ∈ elements, (done.store.get r).lacksForm = false) ∧
    ∃ formModule,
      done.conversion.artifacts.get Vocabulary.formModuleKey = .entity (.formModule formModule) ∧
      (done.store.get formModule).configurations.length
        = (lacking begun.store (listed begun)).length := by
  rw [phases_single] at h
  obtain ⟨_, ready, hsetUp, h⟩ := exists_of_bind_ok h
  obtain ⟨_, checked, hcheck, hcomplete⟩ := exists_of_bind_ok h
  obtain ⟨helements, formModule, hmodule, hblank⟩ := setUpArtifacts_blank hprocess hsetUp
  have hready : GraphKept begun ready := by
    have hkept := setUpArtifacts_keepsGraph settings begun
    rwa [show Listener.setUpArtifacts settings begun = (.ok (), ready) from hsetUp] at hkept
  have hchecked : OnlyLogs ready checked := by
    have hlogs := checkGraph_onlyLogs ready
    rwa [hcheck] at hlogs
  -- the last phase finds the list and the elements as they were at first
  have hlisted : listed checked = listed begun := by
    rw [listed, listed, hchecked.conversion, hchecked.store, hready.process, hprocess]
    exact congrArg (Option.getD · []) (hready.listed process)
  have hlacking : lacking checked.store (listed begun) = lacking begun.store (listed begun) := by
    have hget (r : Ref Element) : checked.store.get r = begun.store.get r := by
      rw [hchecked.store]
      exact congrArg (·.get r) helements
    simp only [lacking, hget]
  have hcheckedProcess : checked.conversion.process = some process := by
    rw [hchecked.conversion, hready.process, hprocess]
  have hcheckedModule : checked.conversion.artifacts.get Vocabulary.formModuleKey
      = .entity (.formModule formModule) := by
    rw [hchecked.conversion, hmodule]
  obtain ⟨hgiven, hconversion, hlength⟩ := completeStartForms_supplies hcheckedProcess
    hcheckedModule (by rw [hchecked.store]; exact hblank.1) (fun r hr ↦ by
      rw [hlisted] at hr
      rw [hchecked.store]
      exact Nat.lt_of_lt_of_eq (hallocated r hr) hready.size.symm) hcomplete
  rw [hlisted, hlacking, hchecked.store, hblank.2] at hlength
  obtain ⟨-, -, -, -, hid, -⟩ := setUpArtifacts_ok hprocess hsetUp
  refine ⟨hid, by rw [hconversion, hcheckedProcess], hgiven, formModule,
    by rw [hconversion, hcheckedModule], ?_⟩
  rw [hlength]
  exact Nat.zero_add _

/-- A run that returns a process leaves a settled state behind, in which the form module has as many
configurations as elements lacked a form. -/
theorem run_settles {settings : Settings} {process : Ref Process} {st next : State}
    (hdefinition : st.store.Allocated st.conversion.definition)
    (hpreset : ∀ process, st.conversion.process = some process → st.store.Allocated process)
    (hlisted : ∀ r ∈ listed st, st.store.Allocated r)
    (hrun : run [Listener.artifactSetup settings] [] st = (.ok process, next)) :
    (∃ given, Identifier.sanitize given = idAhead st ∧ Settled given process next) ∧
    ∃ formModule,
      next.conversion.artifacts.get Vocabulary.formModuleKey = .entity (.formModule formModule) ∧
      (next.store.get formModule).configurations.length
        = (lacking st.store (listed st)).length := by
  have hstands := run_stands (fun _ h ↦ absurd h List.not_mem_nil) hdefinition hpreset hrun
  obtain ⟨begun, done, hensure, hphases, hfound, hlogs⟩ := run_ok hrun
  obtain ⟨made, hbegun, -, -, hdefinitions, -⟩ := ensureProcess_ok hpreset hensure
  obtain ⟨-, hkeeps⟩ := ensureProcess_listed hensure
  obtain ⟨hallocated, hlacking⟩ := hkeeps hlisted
  obtain ⟨htext, hmade, hgiven, formModule, hmodule, hlength⟩ :=
    phases_supplies (by rw [hbegun]) hallocated hphases
  obtain rfl : made = process := Option.some.inj (hmade.symm.trans hfound)
  rw [hlacking] at hlength
  refine ⟨?_, formModule, by rw [hlogs.conversion, hmodule], by rw [hlogs.store, hlength]⟩
  have helements : ∃ elements, (next.store.get made).elements = some elements ∧
      ∀ r ∈ elements, (next.store.get r).lacksForm = false := by
    rw [hlogs.store]
    exact hgiven
  have hdescription : (next.store.get next.conversion.definition).description.IsTextOrAbsent := by
    obtain ⟨model, -, -, hdescription, -⟩ := hstands.contentModel
    rw [hstands.definition_eq, ← hdescription]
    exact Json.isTextOrAbsent_ofText? _
  obtain ⟨given, hid, hsanitize⟩ : ∃ given,
      (next.store.get next.conversion.definition).id = .text given ∧
      Identifier.sanitize given = idAhead st := by
    have hsame : begun.store.get begun.conversion.definition
        = st.store.get st.conversion.definition := by
      rw [hbegun]
      exact congrArg (·.get st.conversion.definition) hdefinitions
    rw [hsame] at htext
    rw [hstands.definition_eq]
    rcases htext with hnull | ⟨given, hgiven⟩
    · rw [hnull, Json.isNull_null, if_pos rfl]
      exact ⟨idAhead st, rfl, (Identifier.sanitize_eq_self_iff _).2 (matchesExactly_idAhead st)⟩
    · rw [hgiven]
      exact ⟨given, hgiven, by rw [idAhead, hgiven]⟩
  exact ⟨given, hsanitize, hid, hdescription, hstands.process_eq, helements⟩

/-- **A second run of a conversion** without step converters. If the first run returned a process,
the second returns it too. It leaves the definition, the process, the elements and the tokens as
they are, the short name and what the content model amounts to included. The form module is
replaced by one of the same name without configurations; it amounts to the same exactly if the
first run found no start event without a form. -/
theorem run_again {settings : Settings} {process : Ref Process} {st next : State}
    (hdefinition : st.store.Allocated st.conversion.definition)
    (hpreset : ∀ process, st.conversion.process = some process → st.store.Allocated process)
    (hlisted : ∀ r ∈ listed st, st.store.Allocated r)
    (hrun : run [Listener.artifactSetup settings] [] st = (.ok process, next)) :
    ∃ last, run [Listener.artifactSetup settings] [] next = (.ok process, last) ∧
      last.conversion.definition = next.conversion.definition ∧
      last.conversion.process = next.conversion.process ∧
      last.store.definitions = next.store.definitions ∧
      last.store.processes = next.store.processes ∧
      last.store.elements = next.store.elements ∧
      last.tokens = next.tokens ∧
      (∀ key, key ≠ Vocabulary.contentModelKey → key ≠ Vocabulary.formModuleKey →
        last.conversion.artifacts.get key = next.conversion.artifacts.get key) ∧
      (∃ former model,
        next.conversion.artifacts.get Vocabulary.contentModelKey
          = .entity (.contentModel former) ∧
        last.conversion.artifacts.get Vocabulary.contentModelKey = .entity (.contentModel model) ∧
        last.store.contentModelContent model = next.store.contentModelContent former) ∧
      ∃ former formModule,
        next.conversion.artifacts.get Vocabulary.formModuleKey = .entity (.formModule former) ∧
        last.conversion.artifacts.get Vocabulary.formModuleKey
          = .entity (.formModule formModule) ∧
        last.store.get formModule = { next.store.get former with configurations := [] } ∧
        (last.store.formModuleContent formModule = next.store.formModuleContent former ↔
          ∀ r ∈ listed st, (st.store.get r).lacksForm = false) := by
  have hstands := run_stands (fun _ h ↦ absurd h List.not_mem_nil) hdefinition hpreset hrun
  obtain ⟨⟨given, hgiven, hsettled⟩, former, hformer, hlength⟩ :=
    run_settles hdefinition hpreset hlisted hrun
  obtain ⟨last, hagain, hreplaced⟩ := run_of_settled settings hsettled
  rw [hgiven] at hreplaced
  obtain ⟨model, hconversion, hmodel, hdescription, hauthor, hversion⟩ := hreplaced.conversion
  refine ⟨last, hagain, by rw [hconversion], by rw [hconversion], by rw [hreplaced.store],
    by rw [hreplaced.store], by rw [hreplaced.store], hreplaced.tokens, ?_, ?_, ?_⟩
  · intro key hcontentModel hformModule
    rw [hconversion]
    by_cases hqualifier : key = Vocabulary.qualifierKey
    · subst hqualifier
      rw [Registry.get_put_of_ne _ (by decide), Registry.get_put_self, hstands.qualifier]
    · rw [Registry.get_put_of_ne _ hformModule, Registry.get_put_of_ne _ hqualifier,
        Registry.get_put_of_ne _ hcontentModel]
  · obtain ⟨old, hold, hoperates, holdDescription, holdAuthor, holdVersion⟩ := hstands.contentModel
    refine ⟨old, model, hold, ?_, ?_⟩
    · rw [hconversion, Registry.get_put_of_ne _ (by decide), Registry.get_put_of_ne _ (by decide),
        Registry.get_put_self]
    · have hsame : (last.store.get model).description = (next.store.get old).description := by
        refine ofText?_injective ?_
        rw [hdescription, hstands.definition_eq, holdDescription]
      rw [hmodel.contentModelContent_eq, hoperates.contentModelContent_eq, hsame, hauthor, hversion,
        holdAuthor, holdVersion]
  · obtain ⟨same, hsame, hnamed⟩ := hstands.formModule
    obtain rfl : former = same := by
      rw [hformer] at hsame
      cases hsame
      rfl
    have hnew : last.store.get next.store.formModules.next = blankFormModule (idAhead st) := by
      rw [hreplaced.store]
      exact next.store.formModules.get_push_next _
    refine ⟨former, next.store.formModules.next, hformer, ?_, ?_, ?_⟩
    · rw [hconversion, Registry.get_put_self]
    · rw [hnew, blankFormModule, ← hnamed.id]
    · rw [Store.formModuleContent_eq_iff (by rw [hnew, hnamed.id, blankFormModule])
        (by rw [hnew, blankFormModule]), ← List.length_eq_zero_iff, hlength,
        List.length_eq_zero_iff, List.eq_nil_iff_forall_not_mem]
      simp only [mem_lacking, not_and, Bool.not_eq_true]

/-- A conversion with a process that has one start event, without a form. -/
def oneStart : State where
  store :=
    { Store.empty with
      definitions := Table.empty.push
        { id := .text "leave", name := .null, description := .null, steps := [] }
      processes := Table.empty.push
        { id := .text "leave", name := none, elements := some [⟨0⟩] }
      elements := Table.empty.push
        (.startEvent { id := "begin", name := none, formKey := .null, initiator := none }) }
  conversion := { definition := ⟨0⟩, process := some ⟨0⟩, artifacts := .empty }
  tokens := ⟨[], 0⟩
  log := []

/-- The second run leaves the process of `oneStart` alone and replaces its form module. -/
theorem run_again_oneStart :
    ∃ settings next last former formModule,
      run [Listener.artifactSetup settings] [] oneStart = (.ok ⟨0⟩, next) ∧
      run [Listener.artifactSetup settings] [] next = (.ok ⟨0⟩, last) ∧
      last.store.elements = next.store.elements ∧
      next.conversion.artifacts.get Vocabulary.formModuleKey = .entity (.formModule former) ∧
      last.store.get formModule = { next.store.get former with configurations := [] } := by
  let settings : Settings := ⟨"INFO", none, some "1.0"⟩
  have hindex : (run [Listener.artifactSetup settings] [] oneStart).1.toOption.map Ref.index
      = some 0 := by
    decide +kernel
  rcases hrun : run [Listener.artifactSetup settings] [] oneStart with ⟨fault | process, next⟩
  · rw [hrun] at hindex
    cases hindex
  · rw [hrun] at hindex
    obtain rfl : process = ⟨0⟩ := Ref.ext_iff.2 (Option.some.inj hindex)
    obtain ⟨last, hagain, -, -, -, -, helements, -, -, -, former, formModule, hformer, -, hblank, -⟩
      := run_again (by decide) (fun _ h ↦ by cases h; decide) (by decide) hrun
    exact ⟨settings, next, last, former, formModule, hrun, hagain, helements, hformer, hblank⟩

/-- The conditions of the configurations that the form module has, if there is one. -/
def formConditions (st : State) : List (Option String) :=
  match st.conversion.artifacts.get Vocabulary.formModuleKey with
  | .entity (.formModule r) =>
    (st.store.get r).configurations.map fun configuration ↦ (st.store.get configuration).condition
  | _ => []

/-- Both runs of `oneStart` succeed, and the configuration that the first one makes for the start
event is gone after the second one. -/
theorem run_again_drops_configuration :
    let first := run [Listener.artifactSetup ⟨"INFO", none, some "1.0"⟩] [] oneStart
    let second := run [Listener.artifactSetup ⟨"INFO", none, some "1.0"⟩] [] first.2
    first.1.toOption.isSome = true ∧ second.1.toOption.isSome = true ∧
      formConditions first.2 = [some "activiti$leave"] ∧ formConditions second.2 = [] ∧
      (second.2.store.get (⟨0⟩ : Ref Element)).lacksForm = false := by
  decide +kernel

end Conversion

end WorkflowArtifacts
