import WorkflowArtifacts.Proofs.Conversion.ContentModel
import WorkflowArtifacts.Proofs.Conversion.StartForms

/-!
# The artifacts agree with each other

The content model and its short name are stored under two keys, one after the other. That they
always agree is an invariant of everything that the library does with a conversion: `ArtifactsAgree`
holds of a conversion without artifacts, and no act of the library leads out of it, whether it
succeeds or stops halfway.

Most acts do not touch these artifacts at all (`SparesArtifacts`). That relation is a preorder, so
it passes from the steps of an act to the act, and only the making of the content model and of the
form module need a look of their own.
-/

namespace WorkflowArtifacts

namespace Registry

theorem mem_map_fst_replaceIn {entries : List (String × Item)} {key other : String} {item : Item} :
    other ∈ (replaceIn entries key item).map (·.1) ↔
      other = key ∨ other ∈ entries.map (·.1) := by
  induction entries with
  | nil => simp [replaceIn]
  | cons entry rest ih =>
    obtain ⟨first, former⟩ := entry
    rw [replaceIn]
    split
    · next h =>
      subst h
      simp
    · rw [List.map_cons, List.mem_cons, ih, List.map_cons, List.mem_cons, or_left_comm]

theorem mem_keys_put {registry : Registry} {key other : String} {item : Item} :
    other ∈ (registry.put key item).keys ↔ other = key ∨ other ∈ registry.keys :=
  mem_map_fst_replaceIn

end Registry

namespace Conversion

open Build

/-! ## The invariant -/

/-- The keys that the library stores artifacts under. -/
def wellKnownKeys : List String :=
  [Vocabulary.contentModelKey, Vocabulary.qualifierKey, Vocabulary.formModuleKey]

/-- Whether the artifacts agree with each other. -/
structure ArtifactsAgree (st : State) : Prop where
  /-- Only well-known keys are in use. -/
  wellKnown : ∀ key ∈ st.conversion.artifacts.keys, key ∈ wellKnownKeys
  /-- The content model and the short name are stored together. -/
  together : Vocabulary.contentModelKey ∈ st.conversion.artifacts.keys ↔
    Vocabulary.qualifierKey ∈ st.conversion.artifacts.keys
  /-- The content model, if there is one, was made for the short name. -/
  agree : Vocabulary.contentModelKey ∈ st.conversion.artifacts.keys → ∃ model id,
    st.conversion.artifacts.get Vocabulary.contentModelKey = .entity (.contentModel model) ∧
    st.conversion.artifacts.get Vocabulary.qualifierKey = .data (.text id) ∧
    IsContentModelOf st.store model id

/-- Whether the artifacts are the same and no content model or namespace has changed. -/
structure SparesArtifacts (st next : State) : Prop where
  /-- The artifacts are the same. -/
  artifacts : next.conversion.artifacts = st.conversion.artifacts
  /-- The former content models are still there. -/
  contentModels : next.store.contentModels.Extends st.store.contentModels
  /-- The former namespaces are still there. -/
  namespaces : next.store.namespaces.Extends st.store.namespaces

instance : IsPreorder State SparesArtifacts where
  refl _ := ⟨rfl, .refl _, .refl _⟩
  trans _ _ _ h h' :=
    ⟨h'.artifacts.trans h.artifacts, h.contentModels.trans h'.contentModels,
      h.namespaces.trans h'.namespaces⟩

theorem SparesArtifacts.keeps {st next : State} (h : SparesArtifacts st next) :
    Keeps ArtifactsAgree st next := by
  intro hagree
  refine ⟨?_, ?_, ?_⟩
  · rw [h.artifacts]
    exact hagree.wellKnown
  · rw [h.artifacts]
    exact hagree.together
  · rw [h.artifacts]
    intro hkey
    obtain ⟨model, id, hmodel, hid, hstands⟩ := hagree.agree hkey
    exact ⟨model, id, hmodel, hid, hstands.of_extends h.contentModels h.namespaces⟩

theorem sparesArtifacts_of_onlyLogs {st next : State} (h : OnlyLogs st next) :
    SparesArtifacts st next where
  artifacts := by rw [h.conversion]
  contentModels := by
    rw [h.store]
    exact .refl _
  namespaces := by
    rw [h.store]
    exact .refl _

theorem Leaves.spares {α : Type} {action : ConversionM α} (h : Leaves OnlyLogs action) :
    Leaves SparesArtifacts action :=
  h.mono fun _ _ ↦ sparesArtifacts_of_onlyLogs

theorem Leaves.keepsAgreement {α : Type} {action : ConversionM α}
    (h : Leaves SparesArtifacts action) : Leaves (Keeps ArtifactsAgree) action :=
  h.mono fun _ _ hspares ↦ hspares.keeps

/-! ## Acts that spare the artifacts -/

theorem generateId_spares : Leaves SparesArtifacts generateId := by
  refine .bind (fun _ ↦ ⟨rfl, .refl _, .refl _⟩) fun token ↦ ?_
  refine .bind (requireProcess_onlyLogs _).spares fun process ↦ ?_
  refine .bind (fun _ ↦ ⟨rfl, .refl _, .refl _⟩) fun _ ↦ .bind .current fun conversion ↦ ?_
  refine .bind (fun _ ↦ ⟨rfl, .refl _, .refl _⟩) fun _ ↦ ?_
  exact .bind (note_onlyLogs _ _ _).spares fun _ ↦ .pure _

theorem artifactId_spares : Leaves SparesArtifacts artifactId := by
  refine .bind currentDefinition_onlyLogs.spares fun definition ↦ ?_
  split
  · exact generateId_spares
  · refine .bind (.ofExcept _) fun id ↦ ?_
    dsimp only
    split
    · exact .bind (note_onlyLogs _ _ _).spares fun _ ↦ .pure _
    · exact .pure _

theorem addDetailsConfiguration_spares (formModule : Ref FormModule) (processId : Json) :
    Leaves SparesArtifacts (liftM (addDetailsConfiguration formModule processId) :
      ConversionM Unit) := by
  refine .build fun st ↦ ?_
  rw [addDetailsConfiguration_apply, DetailsForm.addTo_apply]
  obtain ⟨hgrow, -⟩ := DetailsForm.build_grows
    (withBlank formModule (Vocabulary.processCondition.fill processId.display) st.store).2
  generalize DetailsForm.build _ = built at hgrow ⊢
  have hmodels : built.2.contentModels = st.store.contentModels := hgrow.contentModels
  have hnamespaces : built.2.namespaces = st.store.namespaces := hgrow.namespaces
  refine ⟨rfl, ?_, ?_⟩
  · change built.2.contentModels.Extends _
    rw [hmodels]
    exact .refl _
  · change built.2.namespaces.Extends _
    rw [hnamespaces]
    exact .refl _

theorem formModuleOf_onlyLogs (artifact : Item) : Leaves OnlyLogs (formModuleOf artifact) := by
  unfold formModuleOf
  split
  · exact .pure _
  · exact .bind (.of_snd_eq fun _ ↦ rfl) fun _ ↦ .throw _

theorem supplyOne_spares (process : Ref Process) (e : Ref Element) :
    Leaves SparesArtifacts (supplyOne process e) := by
  refine .bind (fetch_onlyLogs e).spares fun content ↦ ?_
  split
  · exact .pure _
  · split
    · refine .bind (requireArtifact_onlyLogs _).spares fun artifact ↦ ?_
      refine .bind (fun _ ↦ ⟨rfl, .refl _, .refl _⟩) fun _ ↦ ?_
      refine .bind (formModuleOf_onlyLogs artifact).spares fun formModule ↦ ?_
      refine .bind (fetch_onlyLogs process).spares fun owner ↦ ?_
      refine .bind (addDetailsConfiguration_spares formModule owner.id) fun _ ↦ ?_
      exact .bind (note_onlyLogs _ _ _).spares fun _ ↦ .pure _
    · exact .bind (note_onlyLogs _ _ _).spares fun _ ↦ .pure _

theorem supplyStartForms_spares : Leaves SparesArtifacts supplyStartForms :=
  .supplyStartForms supplyOne_spares

theorem completeStartForms_spares : Leaves SparesArtifacts Listener.completeStartForms :=
  .completeStartForms supplyStartForms_spares fun _ ↦ (note_onlyLogs _ _ _).spares

theorem processLoad_spares (document : Json) :
    Leaves SparesArtifacts (liftM (Process.load document) : ConversionM (Ref Process)) := by
  intro st
  let elements := (document.itemsAt "flow_elements").map fun d ↦
    Element.ofDocument (.ofDocument d) d
  obtain ⟨table, hstore, -⟩ := st.store.mapM_alloc_holds elements
  have hload : (document.itemsAt "flow_elements").mapM Element.load = elements.mapM alloc := by
    rw [List.mapM_map]
    rfl
  rw [liftM_build_apply, Process.load, Build.bind_apply, hload]
  generalize elements.mapM alloc st.store = built at hstore ⊢
  obtain ⟨refs, store⟩ := built
  subst hstore
  exact ⟨rfl, .refl _, .refl _⟩

theorem ensureProcess_spares : Leaves SparesArtifacts ensureProcess := by
  refine .bind .current fun conversion ↦ ?_
  split
  · refine .bind currentDefinition_onlyLogs.spares fun definition ↦ ?_
    refine .bind (.of_snd_eq fun _ ↦ rfl) fun document ↦ ?_
    exact .bind (processLoad_spares document) fun process ↦ fun _ ↦ ⟨rfl, .refl _, .refl _⟩
  · exact .pure _

/-! ## Acts that store artifacts -/

/-- A content model is stored together with its short name or not at all. -/
theorem makeContentModel_keeps (processId author version : Json) :
    Leaves (Keeps ArtifactsAgree) (makeContentModel processId author version) := by
  intro st hagree
  rcases makeContentModel_cases processId author version st with
    ⟨fault, herror⟩ | ⟨id, model, own, next, -, hok, hmade⟩
  · rw [herror]
    exact hagree
  · rw [hok]
    refine ⟨?_, ?_, ?_⟩
    · rw [hmade.conversion]
      intro key hkey
      -- the two keys that were written last, and those that were there before
      rcases Registry.mem_keys_put.1 hkey with rfl | hkey
      · decide
      · rcases Registry.mem_keys_put.1 hkey with rfl | hkey
        · decide
        · exact hagree.wellKnown key hkey
    · rw [hmade.conversion]
      exact ⟨fun _ ↦ Registry.mem_keys_put.2 (.inl rfl),
        fun _ ↦ Registry.mem_keys_put.2 (.inr (Registry.mem_keys_put.2 (.inl rfl)))⟩
    · intro _
      refine ⟨model, id, ?_, ?_, hmade.stands⟩
      · rw [hmade.conversion, Registry.get_put_of_ne _ (by decide), Registry.get_put_self]
      · rw [hmade.conversion, Registry.get_put_self]

theorem makeFormModule_keeps (processId : Json) :
    Leaves (Keeps ArtifactsAgree) (makeFormModule processId) := by
  intro st hagree
  have hmodel : Vocabulary.contentModelKey ≠ Vocabulary.formModuleKey := by decide
  have hqualifier : Vocabulary.qualifierKey ≠ Vocabulary.formModuleKey := by decide
  refine ⟨?_, ?_, ?_⟩
  · intro key hkey
    rcases Registry.mem_keys_put.1 hkey with rfl | hkey
    · decide
    · exact hagree.wellKnown key hkey
  · refine (Registry.mem_keys_put.trans ?_).trans Registry.mem_keys_put.symm
    rw [or_iff_right hmodel, or_iff_right hqualifier]
    exact hagree.together
  · intro hkey
    have hkey := (Registry.mem_keys_put.1 hkey).resolve_left hmodel
    obtain ⟨model, id, hget, hid, hstands⟩ := hagree.agree hkey
    refine ⟨model, id, ?_, ?_, hstands.of_extends (.refl _) (.refl _)⟩
    · exact (Registry.get_put_of_ne _ hmodel _).trans hget
    · exact (Registry.get_put_of_ne _ hqualifier _).trans hid

theorem setUpArtifacts_keeps (settings : Settings) :
    Leaves (Keeps ArtifactsAgree) (Listener.setUpArtifacts settings) :=
  .bind artifactId_spares.keepsAgreement fun id ↦
    .bind (makeContentModel_keeps (.text id) _ _) fun _ ↦
      .bind (makeFormModule_keeps (.text id)) fun _ ↦ .pure _

/-- A run keeps the agreement if its listeners are those that set up artifacts and its step
converters spare artifacts. -/
theorem run_keeps (settings : List Settings) {converters : List StepConverter}
    (h : ∀ converter ∈ converters, ∀ step, Leaves SparesArtifacts (converter step)) :
    Leaves (Keeps ArtifactsAgree) (run (settings.map Listener.artifactSetup) converters) := by
  have hsteps (steps : List Json) : Leaves SparesArtifacts (steps.forM (convertStep converters)) :=
    .forM fun step _ ↦ .forM fun converter hconverter ↦ h converter hconverter step
  have hbefore : Leaves (Keeps ArtifactsAgree)
      ((settings.map Listener.artifactSetup).forM Listener.before) := by
    refine .forM fun listener hlistener ↦ ?_
    obtain ⟨own, -, rfl⟩ := List.mem_map.1 hlistener
    exact setUpArtifacts_keeps own
  have hafter : Leaves (Keeps ArtifactsAgree)
      ((settings.map Listener.artifactSetup).forM Listener.after) := by
    refine .forM fun listener hlistener ↦ ?_
    obtain ⟨own, -, rfl⟩ := List.mem_map.1 hlistener
    exact completeStartForms_spares.keepsAgreement
  have hphases : Leaves (Keeps ArtifactsAgree)
      (phases (settings.map Listener.artifactSetup) converters) :=
    .bind hbefore fun _ ↦ .bind currentDefinition_onlyLogs.spares.keepsAgreement fun definition ↦
      .bind (hsteps definition.steps).keepsAgreement fun _ ↦
        .bind checkGraph_onlyLogs.spares.keepsAgreement fun _ ↦ hafter
  refine .bind ensureProcess_spares.keepsAgreement fun _ ↦ ?_
  refine .bind (.tryCatch hphases fun fault ↦ (abandon_onlyLogs fault).spares.keepsAgreement)
    fun _ ↦ ?_
  refine .bind (requireProcess_onlyLogs _).spares.keepsAgreement fun process ↦ ?_
  refine .bind (fetch_onlyLogs process).spares.keepsAgreement fun content ↦ ?_
  exact .bind (note_onlyLogs _ _ _).spares.keepsAgreement fun _ ↦ .pure _

/-! ## Sequences of acts -/

/-- A step converter that spares artifacts, for every step. -/
structure SparingConverter where
  /-- What it does. -/
  converter : StepConverter
  /-- It spares artifacts, whether or not it stops at a fault. -/
  spares : ∀ step, Leaves SparesArtifacts (converter step)

/-- Something that the library does with a conversion. -/
inductive Act where
  /-- Chooses the id that artifacts go by. -/
  | chooseId
  /-- Generates an id. -/
  | generateId
  /-- Makes a content model, from values of any kind. -/
  | makeContentModel (processId author version : Json)
  /-- Makes a form module, from a value of any kind. -/
  | makeFormModule (processId : Json)
  /-- Gives start forms. -/
  | supplyStartForms
  /-- Calls the listener that sets up artifacts before the steps. -/
  | callBefore (settings : Settings)
  /-- Calls the listener that sets up artifacts after the steps. -/
  | callAfter (settings : Settings)
  /-- Runs the conversion with listeners that set up artifacts. -/
  | run (settings : List Settings) (converters : List SparingConverter)

/-- What happens in an act. -/
def Act.perform : Act → ConversionM Unit
  | .chooseId => do let _ ← artifactId
  | .generateId => do let _ ← Conversion.generateId
  | .makeContentModel processId author version => do
    let _ ← Conversion.makeContentModel processId author version
  | .makeFormModule processId => do let _ ← Conversion.makeFormModule processId
  | .supplyStartForms => do let _ ← Conversion.supplyStartForms
  | .callBefore settings => (Listener.artifactSetup settings).before
  | .callAfter settings => (Listener.artifactSetup settings).after
  | .run settings converters => do
    let _ ← Conversion.run (settings.map Listener.artifactSetup)
      (converters.map SparingConverter.converter)

/-- The state after a sequence of acts, each of which may succeed or stop at a fault. -/
def performAll (acts : List Act) (st : State) : State :=
  acts.foldl (fun st act ↦ (act.perform st).2) st

theorem Act.perform_keeps (act : Act) : Leaves (Keeps ArtifactsAgree) act.perform := by
  cases act with
  | chooseId => exact .bind artifactId_spares.keepsAgreement fun _ ↦ .pure _
  | generateId => exact .bind generateId_spares.keepsAgreement fun _ ↦ .pure _
  | makeContentModel processId author version =>
    exact .bind (makeContentModel_keeps processId author version) fun _ ↦ .pure _
  | makeFormModule processId => exact .bind (makeFormModule_keeps processId) fun _ ↦ .pure _
  | supplyStartForms => exact .bind supplyStartForms_spares.keepsAgreement fun _ ↦ .pure _
  | callBefore settings => exact setUpArtifacts_keeps settings
  | callAfter settings => exact completeStartForms_spares.keepsAgreement
  | run settings converters =>
    refine .bind (run_keeps settings fun converter h ↦ ?_) fun _ ↦ .pure _
    obtain ⟨sparing, -, rfl⟩ := List.mem_map.1 h
    exact sparing.spares

theorem performAll_keeps (acts : List Act) (st : State) :
    Keeps ArtifactsAgree st (performAll acts st) := by
  induction acts generalizing st with
  | nil => exact fun h ↦ h
  | cons act rest ih =>
    intro h
    exact ih (act.perform st).2 (act.perform_keeps st h)

/-- The state in which a conversion has no artifacts, and everything else is as it is. -/
def withoutArtifacts (st : State) : State :=
  { st with conversion := { st.conversion with artifacts := .empty } }

theorem artifactsAgree_withoutArtifacts (st : State) : ArtifactsAgree (withoutArtifacts st) where
  wellKnown _ h := absurd h List.not_mem_nil
  together := ⟨fun h ↦ absurd h List.not_mem_nil, fun h ↦ absurd h List.not_mem_nil⟩
  agree h := absurd h List.not_mem_nil

/-- **The artifacts agree after every sequence of acts**, whatever the conversion was before it had
artifacts and whichever of the acts stop at a fault. The making of a content model, of whatever
values, either succeeds then or changes nothing at all. -/
theorem performAll_agree (acts : List Act) (st : State) :
    ArtifactsAgree (performAll acts (withoutArtifacts st)) ∧
    ∀ processId author version : Json,
      let reached := performAll acts (withoutArtifacts st)
      (∃ made, (makeContentModel processId author version reached).1 = .ok made) ∨
      (makeContentModel processId author version reached).2 = reached := by
  refine ⟨performAll_keeps acts _ (artifactsAgree_withoutArtifacts st), fun _ _ _ ↦ ?_⟩
  intro reached
  rcases makeContentModel_cases _ _ _ reached with ⟨fault, h⟩ | ⟨_, model, own, next, -, h, -⟩
  · exact .inr (by rw [h])
  · exact .inl ⟨(model, own), by rw [h]⟩

/-- A content model whose author is a number is refused, and the artifacts of the one before
stay. -/
example :
    (performAll
      [.makeContentModel (.text "leave") .null (.text "1.0"),
        .makeContentModel (.text "order") (.int 7) .null]
      { store := { Store.empty with definitions := Table.empty.push default }
        conversion := .start ⟨0⟩
        tokens := ⟨[], 0⟩
        log := [] }).conversion.artifacts.keys
      = [Vocabulary.contentModelKey, Vocabulary.qualifierKey] := by
  decide +kernel

end Conversion

end WorkflowArtifacts
