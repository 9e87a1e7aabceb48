import WorkflowArtifacts.Proofs.Conversion.ContentModel
import WorkflowArtifacts.Proofs.Identifier

/-!
# The artifacts that are set up before the steps

Artifacts are named after one id, which comes from the definition or is generated. `idAhead` says
which one it will be, before anything has happened, and `ArtifactsStand` says of a state that the
content model, the short name and the form module of that id are there.

The id of the process is kept apart from the id of the artifacts, since the two need not agree: the
conditions of configurations name the process.
-/

namespace WorkflowArtifacts.Conversion

open Build

/-! ## The id -/

/-- The id that artifacts will go by. -/
def idAhead (st : State) : String :=
  match (st.store.get st.conversion.definition).id with
  | .text given => Identifier.sanitize given
  | _ => idOfToken st.tokens.next.1

/-- The id that artifacts go by is an identifier over its whole length. -/
theorem matchesExactly_idAhead (st : State) :
    Identifier.matchesExactly (idAhead st).toList = true := by
  rw [idAhead]
  split
  · exact Identifier.matchesExactly_sanitize _
  · exact Identifier.matchesExactly_sanitize _

/-- The store in which a definition and its process have been given an id. -/
def withId (definition : Ref Definition) (process : Ref Process) (id : String) (s : Store) :
    Store :=
  (s.modify process fun p ↦ { p with id := .text id }).modify definition fun d ↦
    { d with id := .text id }

theorem generateId_apply {st : State} {process : Ref Process}
    (hprocess : st.conversion.process = some process) :
    ∃ entry, generateId st = (.ok (idOfToken st.tokens.next.1),
      { st with
        store := withId st.conversion.definition process (idOfToken st.tokens.next.1) st.store
        tokens := st.tokens.next.2
        log := st.log ++ [entry] }) := by
  let taken : State := { st with tokens := st.tokens.next.2 }
  have htaken : taken.conversion.process = some process := hprocess
  rw [generateId, bind_ok (takeToken_apply st), bind_ok (requireProcess_apply htaken _),
    bind_ok (liftM_build_apply _ _), bind_ok (current_apply _), bind_ok (liftM_build_apply _ _),
    bind_ok (note_apply _ _ _ _), pure_apply]
  exact ⟨_, rfl⟩

/-- A definition that has an id keeps it; its sanitized form is all that is used. -/
theorem artifactId_of_text {st : State} {given : String}
    (hid : (st.store.get st.conversion.definition).id = .text given) :
    ∃ entries, artifactId st
      = (.ok (Identifier.sanitize given), { st with log := st.log ++ entries }) := by
  rw [artifactId, bind_ok (currentDefinition_apply st), hid]
  have hsanitize : (ExceptT.mk (pure (Identifier.sanitizeValue (.text given))) :
      ConversionM String) st = (.ok (Identifier.sanitize given), st) := rfl
  dsimp only
  rw [bind_ok hsanitize]
  split
  · exact ⟨[_], rfl⟩
  · exact ⟨[], by rw [List.append_nil]; rfl⟩

theorem artifactId_of_null {st : State} {process : Ref Process}
    (hid : (st.store.get st.conversion.definition).id = .null)
    (hprocess : st.conversion.process = some process) :
    ∃ entry, artifactId st = (.ok (idOfToken st.tokens.next.1),
      { st with
        store := withId st.conversion.definition process (idOfToken st.tokens.next.1) st.store
        tokens := st.tokens.next.2
        log := st.log ++ [entry] }) := by
  rw [artifactId, bind_ok (currentDefinition_apply st), hid]
  exact generateId_apply hprocess

/-- An id that cannot be sanitized is refused. -/
theorem artifactId_of_refused {st : State} {fault : Fault}
    (hne : (st.store.get st.conversion.definition).id ≠ .null)
    (hrefused : Identifier.sanitizeValue (st.store.get st.conversion.definition).id
      = .error fault) : artifactId st = (.error fault, st) := by
  rw [artifactId, bind_ok (currentDefinition_apply st)]
  cases hid : (st.store.get st.conversion.definition).id with
  | null => exact absurd hid hne
  | text given =>
    rw [hid] at hrefused
    cases hrefused
  | _ =>
    rw [hid] at hrefused
    cases hrefused
    rfl

/-- Where there is an id, the choice comes to what sanitizing makes of it, and nothing changes. -/
theorem artifactId_of_ne_null {st : State}
    (hne : (st.store.get st.conversion.definition).id ≠ .null) :
    ∃ entries, artifactId st
      = (Identifier.sanitizeValue (st.store.get st.conversion.definition).id,
        { st with log := st.log ++ entries }) := by
  cases houtcome : Identifier.sanitizeValue (st.store.get st.conversion.definition).id with
  | error fault => exact ⟨[], by rw [artifactId_of_refused hne houtcome, List.append_nil]⟩
  | ok id =>
    obtain ⟨given, hid, rfl⟩ := Identifier.sanitizeValue_eq_ok_iff.1 houtcome
    exact artifactId_of_text hid

/-- There is an id only if that of the definition is a text or absent. -/
theorem isTextOrAbsent_of_artifactId {st next : State} {id : String}
    (h : artifactId st = (.ok id, next)) :
    (st.store.get st.conversion.definition).id.IsTextOrAbsent := by
  by_cases hnull : (st.store.get st.conversion.definition).id = .null
  · exact .inl hnull
  · obtain ⟨entries, hrun⟩ := artifactId_of_ne_null hnull
    have houtcome := congrArg Prod.fst (hrun.symm.trans h)
    obtain ⟨given, hid, -⟩ := Identifier.sanitizeValue_eq_ok_iff.1 houtcome
    exact .inr ⟨given, hid⟩

/-- Where there is an id, it is the one that was to be expected, and the definition and the process
have been given it if the definition had none. -/
theorem artifactId_ok {st next : State} {process : Ref Process} {id : String}
    (hprocess : st.conversion.process = some process) (h : artifactId st = (.ok id, next)) :
    id = idAhead st ∧ next.conversion = st.conversion ∧
      next.store = (if (st.store.get st.conversion.definition).id.isNull then
        withId st.conversion.definition process id st.store else st.store) ∧
      next.tokens = (if (st.store.get st.conversion.definition).id.isNull then st.tokens.next.2
        else st.tokens) := by
  rw [idAhead]
  rcases isTextOrAbsent_of_artifactId h with hid | ⟨given, hid⟩
  · obtain ⟨entry, hrun⟩ := artifactId_of_null hid hprocess
    rw [hrun] at h
    cases h
    rw [hid]
    exact ⟨rfl, rfl, rfl, rfl⟩
  · obtain ⟨entries, hrun⟩ := artifactId_of_text hid
    rw [hrun] at h
    cases h
    rw [hid]
    exact ⟨rfl, rfl, rfl, rfl⟩

/-! ## The form module -/

theorem makeFormModule_apply (processId : Json) (st : State) :
    ∃ entry, makeFormModule processId st = (.ok st.store.formModules.next,
      { st with
        store := (st.store.alloc ({ id := some (Vocabulary.formModuleId.fill processId.display),
                                    configurations := [] } : FormModule)).2
        conversion := { st.conversion with
          artifacts := st.conversion.artifacts.put Vocabulary.formModuleKey
            (.entity (.formModule st.store.formModules.next)) }
        log := st.log ++ [entry] }) :=
  ⟨_, rfl⟩

/-- Whether a form module is the one of an id and all of its configurations apply under a
condition. -/
structure IsFormModuleOf (s : Store) (formModule : Ref FormModule) (id condition : String) :
    Prop where
  /-- The form module exists. -/
  allocated : s.Allocated formModule
  /-- It is named after the id. -/
  id : (s.get formModule).id = some (Vocabulary.formModuleId.fill id)
  /-- Its configurations exist and have the condition. -/
  conditions : ∀ r ∈ (s.get formModule).configurations,
    s.Allocated r ∧ (s.get r).condition = some condition

/-! ## All artifacts -/

/-- Whether the artifacts of an id are there, where the definition is `definition` by now and the
process has the id `processId`. -/
structure ArtifactsStand (settings : Settings) (id : String) (definition : Definition)
    (process : Ref Process) (processId : Json) (st : State) : Prop where
  /-- The definition is the expected one. -/
  definition_eq : st.store.get st.conversion.definition = definition
  /-- The process is the expected one. -/
  process_eq : st.conversion.process = some process
  /-- The process has the expected id. -/
  processId_eq : (st.store.get process).id = processId
  /-- The short name is the id. -/
  qualifier : st.conversion.artifacts.get Vocabulary.qualifierKey = .data (.text id)
  /-- The content model is the one of the id, is described as the definition is, and has the author
  and the version of the settings. -/
  contentModel : ∃ model,
    st.conversion.artifacts.get Vocabulary.contentModelKey = .entity (.contentModel model) ∧
    IsContentModelOf st.store model id ∧
    Json.ofText? (st.store.get model).description = definition.description ∧
    (st.store.get model).author = settings.modelAuthor ∧
    (st.store.get model).version = settings.modelVersion
  /-- The form module is the one of the id, and its configurations apply to the process. -/
  formModule : ∃ formModule,
    st.conversion.artifacts.get Vocabulary.formModuleKey = .entity (.formModule formModule) ∧
    IsFormModuleOf st.store formModule id (Vocabulary.processCondition.fill processId.display)

theorem ofText?_injective {s t : Option String} (h : Json.ofText? s = .ofText? t) : s = t := by
  rw [← Json.text?_ofText? s, h, Json.text?_ofText?]

/-- The artifacts stay what they are while content models, namespaces and form modules stay. -/
theorem ArtifactsStand.of_later {settings : Settings} {id : String} {definition : Definition}
    {process : Ref Process} {processId : Json} {st next : State}
    (h : ArtifactsStand settings id definition process processId st)
    (hconversion : next.conversion = st.conversion)
    (hdefinitions : next.store.definitions = st.store.definitions)
    (hprocessId : (next.store.get process).id = (st.store.get process).id)
    (hmodels : next.store.contentModels.Extends st.store.contentModels)
    (hnamespaces : next.store.namespaces.Extends st.store.namespaces)
    (hmodule : ∀ r,
      st.conversion.artifacts.get Vocabulary.formModuleKey = .entity (.formModule r) →
      IsFormModuleOf st.store r id (Vocabulary.processCondition.fill processId.display) →
      IsFormModuleOf next.store r id (Vocabulary.processCondition.fill processId.display)) :
    ArtifactsStand settings id definition process processId next where
  definition_eq := by
    rw [hconversion, ← h.definition_eq]
    exact congrArg (·.get st.conversion.definition) hdefinitions
  process_eq := by rw [hconversion, h.process_eq]
  processId_eq := hprocessId.trans h.processId_eq
  qualifier := by rw [hconversion, h.qualifier]
  contentModel := by
    obtain ⟨model, hget, hstands, hdescription, hauthor, hversion⟩ := h.contentModel
    have hsame : next.store.get model = st.store.get model := hmodels.get hstands.allocated
    rw [hconversion]
    exact ⟨model, hget, hstands.of_extends hmodels hnamespaces, by rw [hsame, hdescription],
      by rw [hsame, hauthor], by rw [hsame, hversion]⟩
  formModule := by
    obtain ⟨r, hget, hstands⟩ := h.formModule
    rw [hconversion]
    exact ⟨r, hget, hmodule r hget hstands⟩

/-- From the content model and the form module of an id to its artifacts. -/
theorem artifactsStand_of_made {settings : Settings} {id : String} {model : Ref ContentModel}
    {formModule : Ref FormModule} {process : Ref Process} {st middle next : State}
    (hprocess : st.conversion.process = some process)
    (hmodel : ContentModelMade id (.ofText? settings.modelAuthor) (.ofText? settings.modelVersion)
      model st middle)
    (hmodule : makeFormModule (.text id) middle = (.ok formModule, next)) :
    ArtifactsStand settings id (st.store.get st.conversion.definition) process
      (st.store.get process).id next := by
  obtain ⟨entry, happly⟩ := makeFormModule_apply (.text id) middle
  rw [happly] at hmodule
  cases hmodule
  have hartifacts : middle.conversion.artifacts = _ :=
    congrArg Conversion.artifacts hmodel.conversion
  have hdefinitions : middle.store.definitions = st.store.definitions := by rw [hmodel.store]
  have hprocesses : middle.store.processes = st.store.processes := by rw [hmodel.store]
  let blank : FormModule :=
    { id := some (Vocabulary.formModuleId.fill (Json.text id).display), configurations := [] }
  have hnew := middle.store.formModules.holds_push_next blank
  exact
    { definition_eq := by
        change middle.store.definitions.get middle.conversion.definition = _
        rw [hdefinitions, hmodel.conversion]
        rfl
      process_eq := by
        change middle.conversion.process = _
        rw [hmodel.conversion, ← hprocess]
      processId_eq := by
        change (middle.store.processes.get process).id = _
        rw [hprocesses]
        rfl
      qualifier := by
        change (middle.conversion.artifacts.put _ _).get _ = _
        rw [Registry.get_put_of_ne _ (by decide), hartifacts, Registry.get_put_self]
      contentModel := by
        refine ⟨model, ?_, hmodel.stands.of_extends (.refl _) (.refl _), hmodel.description,
          ofText?_injective hmodel.author, ofText?_injective hmodel.version⟩
        change (middle.conversion.artifacts.put _ _).get _ = _
        rw [Registry.get_put_of_ne _ (by decide), hartifacts, Registry.get_put_of_ne _ (by decide),
          Registry.get_put_self]
      formModule := by
        refine ⟨_, Registry.get_put_self _ _ _, hnew.1, congrArg FormModule.id hnew.2, ?_⟩
        intro r hr
        have hnone := congrArg FormModule.configurations hnew.2
        change r ∈ ((middle.store.formModules.push blank).get
          middle.store.formModules.next).configurations at hr
        rw [hnone] at hr
        exact absurd hr List.not_mem_nil }

theorem get_withId_definition {s : Store} {definition : Ref Definition}
    (h : s.Allocated definition) (process : Ref Process) (id : String) :
    (withId definition process id s).get definition
      = { s.get definition with id := .text id } :=
  Table.get_set_self h _

theorem get_withId_process {s : Store} {process : Ref Process} (h : s.Allocated process)
    (definition : Ref Definition) (id : String) :
    (withId definition process id s).get process = { s.get process with id := .text id } :=
  Table.get_set_self h _

/-- The setting up of artifacts, taken apart: the id, the content model, the form module. -/
theorem setUpArtifacts_ok {settings : Settings} {process : Ref Process} {st next : State}
    (hprocess : st.conversion.process = some process)
    (h : Listener.setUpArtifacts settings st = (.ok (), next)) :
    ∃ named made model formModule,
      (st.store.get st.conversion.definition).id.IsTextOrAbsent ∧
      named.conversion = st.conversion ∧
      named.store = (if (st.store.get st.conversion.definition).id.isNull then
        withId st.conversion.definition process (idAhead st) st.store else st.store) ∧
      named.tokens = (if (st.store.get st.conversion.definition).id.isNull then st.tokens.next.2
        else st.tokens) ∧
      ContentModelMade (idAhead st) (.ofText? settings.modelAuthor) (.ofText? settings.modelVersion)
        model named made ∧
      makeFormModule (.text (idAhead st)) made = (.ok formModule, next) := by
  obtain ⟨id, named, hid, h⟩ := exists_of_bind_ok h
  obtain ⟨⟨model, own⟩, made, hmodel, h⟩ := exists_of_bind_ok h
  obtain ⟨formModule, _, hmodule, h⟩ := exists_of_bind_ok h
  cases h
  obtain ⟨rfl, hconversion, hstore, htokens⟩ := artifactId_ok hprocess hid
  refine ⟨named, made, model, formModule, isTextOrAbsent_of_artifactId hid, hconversion, hstore,
    htokens, ?_, hmodule⟩
  rcases makeContentModel_cases (.text (idAhead st)) (.ofText? settings.modelAuthor)
    (.ofText? settings.modelVersion) named with ⟨fault, herror⟩ | ⟨_, _, _, _, ⟨⟩, hok, hmade⟩
  · rw [herror] at hmodel
    cases hmodel
  · rw [hok] at hmodel
    cases hmodel
    exact hmade

/-- What the listener that sets up the artifacts leaves behind: if the definition had no id, then
the definition and the process have the id of the artifacts. -/
theorem setUpArtifacts_stands {settings : Settings} {process : Ref Process} {st next : State}
    (hprocess : st.conversion.process = some process)
    (hdefinition : st.store.Allocated st.conversion.definition)
    (hallocated : st.store.Allocated process)
    (h : Listener.setUpArtifacts settings st = (.ok (), next)) :
    let definition := st.store.get st.conversion.definition
    ArtifactsStand settings (idAhead st)
      (if definition.id.isNull then { definition with id := .text (idAhead st) } else definition)
      process
      (if definition.id.isNull then .text (idAhead st) else (st.store.get process).id) next := by
  intro definition
  obtain ⟨named, made, model, formModule, -, hconversion, hstore, -, hmade, hmodule⟩ :=
    setUpArtifacts_ok hprocess h
  -- the artifacts stand for the state after the choice of the id; it is put in terms of the first
  have hstands := artifactsStand_of_made (hconversion ▸ hprocess) hmade hmodule
  rw [hconversion, hstore] at hstands
  by_cases hnull : definition.id.isNull = true
  · rw [if_pos hnull, if_pos hnull]
    rw [if_pos hnull, get_withId_definition hdefinition, get_withId_process hallocated] at hstands
    exact hstands
  · rw [if_neg hnull, if_neg hnull]
    rw [if_neg hnull] at hstands
    exact hstands

end WorkflowArtifacts.Conversion
