import WorkflowArtifacts.Proofs.Conversion.Agreement
import WorkflowArtifacts.Proofs.Conversion.ArtifactId
import WorkflowArtifacts.Proofs.Conversion.Transfer
import WorkflowArtifacts.Proofs.Store.Readings

/-!
# Setting up artifacts several times

A conversion may have several listeners that set up artifacts. Each of them makes a content model
and a form module and puts them under the same keys, so in the end only those of the last one count.
The first one gives the definition an id if it has none, hence all of them use the same one; and of
the calls after the steps, all but the first find no start event without a form.

So a run with several listeners is compared to a run with the last of them alone. Both go through
the same phases in states that differ by gaps, since what the former listeners have made is still in
the store though nobody refers to it:

* before the steps, a further set of artifacts leaves `Repeated` states, in which the making of the
  last set replaces the former one (`setUpAll_apart`);
* the steps and the check of the graph transfer;
* after the steps, further calls do nothing but log (`completeAll_onlyLogs`).

What is set up is refused for the same reason each time, if at all, and then already the first time.
-/

namespace WorkflowArtifacts

/-! ## The three artifacts in a registry -/

namespace Registry

/-- The artifacts with those of a conversion put in. -/
def withArtifacts (registry : Registry) (contentModel qualifier formModule : Item) : Registry :=
  ((registry.put Vocabulary.contentModelKey contentModel).put Vocabulary.qualifierKey qualifier).put
    Vocabulary.formModuleKey formModule

theorem move_put (g : Gaps) (registry : Registry) (key : String) (item : Item) :
    (registry.put key item).move g = (registry.move g).put key (g.item item) := by
  have hreplace (entries : List (String × Item)) :
      (replaceIn entries key item).map (fun entry ↦ (entry.1, g.item entry.2))
        = replaceIn (entries.map fun entry ↦ (entry.1, g.item entry.2)) key (g.item item) := by
    induction entries with
    | nil => rfl
    | cons entry rest ih =>
      rw [replaceIn, List.map_cons, replaceIn]
      split
      · rfl
      · rw [List.map_cons, ih]
  exact congrArg Registry.mk (hreplace registry.entries)

theorem move_withArtifacts (g : Gaps) (registry : Registry) (a b c : Item) :
    (registry.withArtifacts a b c).move g
      = (registry.move g).withArtifacts (g.item a) (g.item b) (g.item c) := by
  rw [withArtifacts, move_put, move_put, move_put, withArtifacts]

/-- What was put under a key does not matter once something else is put there. -/
theorem put_put (registry : Registry) (key : String) (former item : Item) :
    (registry.put key former).put key item = registry.put key item := by
  have hreplace (entries : List (String × Item)) :
      replaceIn (replaceIn entries key former) key item = replaceIn entries key item := by
    induction entries with
    | nil => exact if_pos rfl
    | cons entry rest ih =>
      rw [replaceIn, replaceIn]
      split
      · exact if_pos rfl
      · next h => rw [replaceIn, if_neg h, ih]
  exact congrArg Registry.mk (hreplace registry.entries)

/-- A key that is in use keeps its place, so it may as well be given its item earlier. -/
theorem put_put_of_mem {registry : Registry} {key other : String} (hmem : key ∈ registry.keys)
    (hne : other ≠ key) (item : Item) (otherItem : Item) :
    (registry.put other otherItem).put key item
      = (registry.put key item).put other otherItem := by
  have hreplace (entries : List (String × Item)) (h : key ∈ entries.map (·.1)) :
      replaceIn (replaceIn entries other otherItem) key item
        = replaceIn (replaceIn entries key item) other otherItem := by
    induction entries with
    | nil => cases h
    | cons entry rest ih =>
      obtain ⟨first, former⟩ := entry
      by_cases hfirst : first = key
      · subst hfirst
        simp [replaceIn, hne.symm]
      · have hrest : key ∈ rest.map (·.1) := (List.mem_cons.1 h).resolve_left (Ne.symm hfirst)
        by_cases hother : first = other
        · subst hother
          simp [replaceIn, hfirst]
        · simp [replaceIn, hfirst, hother, ih hrest]
  exact congrArg Registry.mk (hreplace registry.entries hmem)

/-- The artifacts that are put in last are all that counts. -/
theorem withArtifacts_withArtifacts (registry : Registry) (a b c a' b' c' : Item) :
    (registry.withArtifacts a b c).withArtifacts a' b' c' = registry.withArtifacts a' b' c' := by
  have hmodel (registry : Registry) (item : Item) :
      Vocabulary.contentModelKey ∈ (registry.put Vocabulary.contentModelKey item).keys :=
    mem_keys_put.2 (.inl rfl)
  have hqualifier (registry : Registry) (item : Item) :
      Vocabulary.qualifierKey ∈ (registry.put Vocabulary.qualifierKey item).keys :=
    mem_keys_put.2 (.inl rfl)
  rw [withArtifacts, withArtifacts,
    put_put_of_mem (mem_keys_put.2 (.inr (hmodel registry a))) (by decide),
    put_put_of_mem (hmodel registry a) (by decide), put_put,
    put_put_of_mem (hqualifier _ b) (by decide), put_put, put_put, withArtifacts]

end Registry

namespace Conversion

open Build

variable {g : Gaps}

/-! ## The records of the artifacts -/

/-- The document of the content model for an id, in normal form. -/
def contentModelDocument (settings : Settings) (id : String) (description : Json) : Json :=
  .object
    [("name", .text (contentModelNameFor (.text id))), ("description", description),
      ("author", .ofText? settings.modelAuthor), ("version", .ofText? settings.modelVersion),
      ("namespaces", .array []), ("imports", .array [])]

/-- Makes the records of all artifacts for an id and a description. -/
def artifactRecords (settings : Settings) (id : String) (description : Json) :
    Build ((Ref ContentModel × Ref ModelNamespace) × Ref FormModule) := do
  let own ← assembleContentModel (contentModelDocument settings id description)
    (namespaceRequest (.text id))
  let formModule ← alloc (blankFormModule id)
  return (own, formModule)

theorem transfers_assembleContentModel (modelDocument namespaceDocument : Json) :
    Build.Transfers g (Prod.map g.contentModels.shift g.namespaces.shift)
      (assembleContentModel modelDocument namespaceDocument)
      (assembleContentModel modelDocument namespaceDocument) := by
  have hmodel : Build.Transfers g g.contentModels.shift (ContentModel.load modelDocument)
      (ContentModel.load modelDocument) :=
    .bind (.mapM (fun _ ↦ .alloc_namespace _) _) fun _ ↦
      .bind (.mapM (fun _ ↦ .alloc_namespace _) _) fun _ ↦ .alloc_contentModel _
  refine .bind hmodel fun model ↦ .bind (.alloc_namespace _) fun own ↦ ?_
  refine .bind (.mapM .alloc_namespace requiredImports) fun imports ↦ ?_
  refine .bind (.update_contentModel model fun m ↦ ?_) fun _ ↦ .pure _ (model, own)
  simp only [Gaps.contentModel, List.map_append, List.map_cons, List.map_nil]

theorem transfers_artifactRecords (settings : Settings) (id : String) (description : Json) :
    Build.Transfers g
      (Prod.map (Prod.map g.contentModels.shift g.namespaces.shift) g.formModules.shift)
      (artifactRecords settings id description) (artifactRecords settings id description) :=
  .bind (transfers_assembleContentModel _ _) fun own ↦
    .bind (.alloc_formModule _) fun formModule ↦ .pure _ (own, formModule)

/-- Nothing but content models, namespaces and form modules is added. -/
theorem artifactRecords_grows (settings : Settings) (id : String) (description : Json) (s : Store) :
    let next := (artifactRecords settings id description s).2
    next = { s with contentModels := next.contentModels, namespaces := next.namespaces,
                    formModules := next.formModules } ∧
      next.contentModels.Extends s.contentModels ∧ next.namespaces.Extends s.namespaces ∧
      next.formModules.Extends s.formModules := by
  intro next
  let blank : ContentModel :=
    { name := some (contentModelNameFor (.text id))
      description := description.text?
      author := (Json.ofText? settings.modelAuthor).text?
      version := (Json.ofText? settings.modelVersion).text?
      namespaces := []
      imports := [] }
  obtain ⟨own, imports, namespaces, hbuild, hnamespaces, -, -⟩ :=
    @assembleContentModel_apply (contentModelDocument settings id description)
      (namespaceRequest (.text id)) blank
      { uri := Vocabulary.namespaceUri.fill id, qualifier := id } (fun _ ↦ rfl) (fun _ ↦ rfl) s
  have hnext : next = ((alloc (blankFormModule id) : Build _)
      (assembleContentModel (contentModelDocument settings id description)
        (namespaceRequest (.text id)) s).2).2 := rfl
  rw [hbuild] at hnext
  rw [hnext]
  exact ⟨rfl, .push _ _, hnamespaces, .push _ _⟩

/-! ## The making of the artifacts -/

/-- Makes all artifacts for an id. -/
def makeArtifacts (settings : Settings) (id : String) : ConversionM Unit := do
  let _ ← makeContentModel (.text id) (.ofText? settings.modelAuthor)
    (.ofText? settings.modelVersion)
  let _ ← makeFormModule (.text id)

theorem setUpArtifacts_eq (settings : Settings) :
    Listener.setUpArtifacts settings = artifactId >>= makeArtifacts settings := rfl

/-- The definition's description. -/
def descriptionOf (st : State) : Json := (st.store.get st.conversion.definition).description

/-- The artifacts are made where the description is a text or absent. -/
theorem makeArtifacts_apply (settings : Settings) (id : String) {st : State}
    (h : (descriptionOf st).IsTextOrAbsent) :
    let made := artifactRecords settings id (descriptionOf st) st.store
    ∃ entries, makeArtifacts settings id st = (.ok (), { st with
      store := made.2
      conversion := { st.conversion with
        artifacts := st.conversion.artifacts.withArtifacts
          (.entity (.contentModel made.1.1.1)) (.data (.text (made.2.get made.1.1.2).qualifier))
          (.entity (.formModule made.1.2)) }
      log := st.log ++ entries }) := by
  intro made
  have hmodel : RecordClass.contentModel.validate (contentModelRequest (.text id)
      (st.store.get st.conversion.definition).description (.ofText? settings.modelAuthor)
      (.ofText? settings.modelVersion))
        = .ok (contentModelDocument settings id (descriptionOf st)) :=
    RecordClass.contentModel_validate_of_texts _ h
      (Json.isTextOrAbsent_ofText? settings.modelAuthor)
      (Json.isTextOrAbsent_ofText? settings.modelVersion)
  have hnamespace : RecordClass.modelNamespace.validate (namespaceRequest (.text id))
      = .ok (namespaceRequest (.text id)) :=
    RecordClass.modelNamespace_validate_of_text _ id
  let assembled := assembleContentModel (contentModelDocument settings id (descriptionOf st))
    (namespaceRequest (.text id)) st.store
  obtain ⟨entry, hmake⟩ : ∃ entry, makeContentModel (.text id) (.ofText? settings.modelAuthor)
      (.ofText? settings.modelVersion) st = (.ok assembled.1, { st with
        store := assembled.2
        conversion := { st.conversion with
          artifacts := (st.conversion.artifacts.put Vocabulary.contentModelKey
            (.entity (.contentModel assembled.1.1))).put Vocabulary.qualifierKey
              (.data (.text (assembled.2.get assembled.1.2).qualifier)) }
        log := st.log ++ [entry] }) := by
    rw [makeContentModel, bind_ok (currentDefinition_apply st), bind_ok (validated_ok hmodel st),
      bind_ok (validated_ok hnamespace st)]
    exact ⟨_, rfl⟩
  obtain ⟨last, hmodule⟩ := makeFormModule_apply (.text id) (makeContentModel (.text id) _ _ st).2
  refine ⟨[entry, last], ?_⟩
  rw [hmake] at hmodule
  rw [makeArtifacts, bind_ok hmake, bind_ok hmodule, List.append_cons st.log entry [last]]
  rfl

/-- Otherwise they are refused, whatever the settings, and nothing has happened. -/
theorem makeArtifacts_of_refused {id : String} {st : State}
    (h : ¬ (descriptionOf st).IsTextOrAbsent) :
    ∃ fault, ∀ settings, makeArtifacts settings id st = (.error fault, st) := by
  refine ⟨.invalid ⟨"M2Model", [.under (.key "description") (.here .notText)]⟩, fun settings ↦ ?_⟩
  have hmodel := RecordClass.contentModel_validate_of_not_text (contentModelNameFor (.text id)) h
    (Json.isTextOrAbsent_ofText? settings.modelAuthor)
    (Json.isTextOrAbsent_ofText? settings.modelVersion)
  rw [makeArtifacts, makeContentModel]
  refine bind_error ?_ _
  rw [bind_ok (currentDefinition_apply st)]
  exact bind_error (validated_error hmodel st) _

/-! ## Former artifacts -/

/-- Whether all references to namespaces, content models and form modules lead to existing ones. -/
structure IsAnchored (st : State) : Prop where
  /-- Those from within the store do. -/
  store : st.store.IsAnchored
  /-- Those from artifacts do. -/
  artifacts : ∀ entry ∈ st.conversion.artifacts.entries,
    ∀ e ∈ entry.2.entities, e.IsAnchored st.store

/-- It only matters what there is of these classes and who refers to them. -/
theorem IsAnchored.of_same {st next : State} (hst : IsAnchored st)
    (hmodels : next.store.contentModels = st.store.contentModels)
    (hnamespaces : next.store.namespaces = st.store.namespaces)
    (hmodules : next.store.formModules = st.store.formModules)
    (hloose : next.store.loose = st.store.loose)
    (hartifacts : next.conversion.artifacts = st.conversion.artifacts) : IsAnchored next := by
  have hentity (e : Entity) (he : e.IsAnchored st.store) : e.IsAnchored next.store := by
    cases e with
    | modelNamespace r => exact (congrArg (Table.Allocated · r) hnamespaces).mpr he
    | contentModel r => exact (congrArg (Table.Allocated · r) hmodels).mpr he
    | formModule r => exact (congrArg (Table.Allocated · r) hmodules).mpr he
    | _ => trivial
  refine ⟨⟨fun r hr n hn ↦ ?_, fun item hitem e he ↦ ?_⟩, fun entry hentry e he ↦ ?_⟩
  · change next.store.contentModels.Allocated r at hr
    change n ∈ (next.store.contentModels.get r).namespaces
      ++ (next.store.contentModels.get r).imports at hn
    rw [hmodels] at hr hn
    exact (congrArg (Table.Allocated · n) hnamespaces).mpr (hst.store.contentModels r hr n hn)
  · rw [hloose] at hitem
    exact hentity e (hst.store.loose item hitem e he)
  · rw [hartifacts] at hentry
    exact hentity e (hst.artifacts entry hentry e he)

/-- Whether a state is another one in which further artifacts have been made. -/
structure Repeated (st next : State) : Prop where
  /-- Nothing but content models, namespaces and form modules has been added. -/
  store : next.store = { st.store with
    contentModels := next.store.contentModels
    namespaces := next.store.namespaces
    formModules := next.store.formModules }
  /-- The former content models are still there. -/
  contentModels : next.store.contentModels.Extends st.store.contentModels
  /-- The former namespaces are still there. -/
  namespaces : next.store.namespaces.Extends st.store.namespaces
  /-- The former form modules are still there. -/
  formModules : next.store.formModules.Extends st.store.formModules
  /-- The definition is the same. -/
  definition : next.conversion.definition = st.conversion.definition
  /-- The process is the same. -/
  process : next.conversion.process = st.conversion.process
  /-- The artifacts are the same once others are put in. -/
  artifacts : ∀ a b c, next.conversion.artifacts.withArtifacts a b c
    = st.conversion.artifacts.withArtifacts a b c
  /-- The tokens are the same. -/
  tokens : next.tokens = st.tokens

namespace Repeated

theorem of_onlyLogs {st next : State} (h : OnlyLogs st next) : Repeated st next where
  store := by rw [h.store]
  contentModels := by
    rw [h.store]
    exact .refl _
  namespaces := by
    rw [h.store]
    exact .refl _
  formModules := by
    rw [h.store]
    exact .refl _
  definition := by rw [h.conversion]
  process := by rw [h.conversion]
  artifacts _ _ _ := by rw [h.conversion]
  tokens := h.tokens

theorem trans {st middle next : State} (h : Repeated st middle) (h' : Repeated middle next) :
    Repeated st next where
  store := by rw [h'.store, h.store]
  contentModels := h.contentModels.trans h'.contentModels
  namespaces := h.namespaces.trans h'.namespaces
  formModules := h.formModules.trans h'.formModules
  definition := h'.definition.trans h.definition
  process := h'.process.trans h.process
  artifacts a b c := (h'.artifacts a b c).trans (h.artifacts a b c)
  tokens := h'.tokens.trans h.tokens

theorem get_definition {st next : State} (h : Repeated st next) :
    next.store.get next.conversion.definition = st.store.get st.conversion.definition := by
  rw [h.store, h.definition]
  rfl

theorem descriptionOf_eq {st next : State} (h : Repeated st next) :
    descriptionOf next = descriptionOf st :=
  congrArg Definition.description h.get_definition

/-- The state is the former one with gaps, apart from the artifacts. -/
theorem gapped {st next : State} (h : Repeated st next) (hst : IsAnchored st) :
    st.store.Gapped (st.store.gapsTo next.store) next.store :=
  Store.gapped_gapsTo hst.store h.store h.contentModels h.namespaces h.formModules

theorem move_artifacts {st : State} (hst : IsAnchored st) (next : State) :
    st.conversion.artifacts.move (st.store.gapsTo next.store) = st.conversion.artifacts := by
  refine congrArg Registry.mk ((List.map_congr_left fun entry hentry ↦ ?_).trans (List.map_id' _))
  rw [Store.gapsTo_item (hst.artifacts entry hentry)]

end Repeated

/-- The making of artifacts leaves a state in which further artifacts have been made. -/
theorem makeArtifacts_repeats {settings : Settings} {id : String} {st next : State}
    (hdescription : (descriptionOf st).IsTextOrAbsent)
    (h : makeArtifacts settings id st = (.ok (), next)) : Repeated st next := by
  obtain ⟨entries, happly⟩ := makeArtifacts_apply settings id hdescription
  obtain ⟨hstore, hmodels, hnamespaces, hmodules⟩ :=
    artifactRecords_grows settings id (descriptionOf st) st.store
  rw [happly] at h
  cases h
  exact
    { store := hstore
      contentModels := hmodels
      namespaces := hnamespaces
      formModules := hmodules
      definition := rfl
      process := rfl
      artifacts := fun a b c ↦ Registry.withArtifacts_withArtifacts _ _ _ _ a b c
      tokens := rfl }

/-- Artifacts made in a state, and artifacts made where others have been made before: the states
that are left differ by what was made before. -/
theorem makeArtifacts_apart {settings : Settings} {id : String} {st later : State}
    (hst : IsAnchored st) (hdescription : (descriptionOf st).IsTextOrAbsent)
    (h : Repeated st later) :
    ∃ g next next', makeArtifacts settings id st = (.ok (), next) ∧
      makeArtifacts settings id later = (.ok (), next') ∧ Apart g next next' := by
  have hsame := h.descriptionOf_eq
  obtain ⟨entries, happly⟩ := makeArtifacts_apply settings id hdescription
  obtain ⟨entries', happly'⟩ := @makeArtifacts_apply settings id later (hsame ▸ hdescription)
  obtain ⟨hrecords, hstores⟩ :=
    transfers_artifactRecords settings id (descriptionOf st) _ _ (h.gapped hst)
  rw [hsame] at happly'
  refine ⟨st.store.gapsTo later.store, _, _, happly, happly', ?_⟩
  exact
    { store := hstores
      definition := h.definition
      process := h.process
      artifacts := by
        rw [Registry.move_withArtifacts, Repeated.move_artifacts hst, h.artifacts, hrecords]
        have hqualifier := hstores.get_namespace
          (artifactRecords settings id (descriptionOf st) st.store).1.1.2
        exact congrArg (fun n : ModelNamespace ↦
          st.conversion.artifacts.withArtifacts _ (.data (.text n.qualifier)) _) hqualifier
      tokens := h.tokens }


/-! ## Before the steps -/

theorem artifactId_error {st next : State} {fault : Fault} (hprocess : HasProcess st)
    (h : artifactId st = (.error fault, next)) : next = st := by
  obtain ⟨process, hprocess⟩ := hprocess.exists
  by_cases hid : (st.store.get st.conversion.definition).id = .null
  · obtain ⟨entry, hrun⟩ := artifactId_of_null hid hprocess
    rw [hrun] at h
    cases h
  · obtain ⟨entries, hrun⟩ := artifactId_of_ne_null hid
    have hrefused := congrArg Prod.fst (hrun.symm.trans h)
    rw [artifactId_of_refused hid hrefused] at h
    cases h
    rfl

/-- Once an id has been chosen, the definition has one that amounts to it. -/
theorem artifactId_settles {st named : State} {id : String}
    (hdefinition : st.store.Allocated st.conversion.definition)
    (h : artifactId st = (.ok id, named)) :
    HasId named.conversion.definition id named.store := by
  have hleaves := artifactId_leaves st
  rw [h] at hleaves
  rw [hleaves.conversion]
  exact hleaves.chosen id rfl hdefinition

/-- The choice of an id leaves all references where they were. -/
theorem IsAnchored.of_artifactId {st named : State} {id : String} (hst : IsAnchored st)
    (hprocess : HasProcess st) (h : artifactId st = (.ok id, named)) : IsAnchored named := by
  obtain ⟨process, hprocess⟩ := hprocess.exists
  obtain ⟨-, hconversion, hstore, -⟩ := artifactId_ok hprocess h
  split at hstore
  · exact hst.of_same (by rw [hstore]; rfl) (by rw [hstore]; rfl) (by rw [hstore]; rfl)
      (by rw [hstore]; rfl) (by rw [hconversion])
  · exact hst.of_same (by rw [hstore]) (by rw [hstore]) (by rw [hstore]) (by rw [hstore])
      (by rw [hconversion])

/-- A listener that is called where the definition has an id makes artifacts for it. -/
theorem setUpArtifacts_of_repeated (settings : Settings) {st later : State} {given : String}
    (hid : (st.store.get st.conversion.definition).id = .text given) (h : Repeated st later) :
    ∃ ready, Repeated st ready ∧ Listener.setUpArtifacts settings later
      = makeArtifacts settings (Identifier.sanitize given) ready := by
  rw [← h.get_definition] at hid
  obtain ⟨entries, hrun⟩ := artifactId_of_text hid
  refine ⟨{ later with log := later.log ++ entries }, h.trans (.of_onlyLogs ⟨rfl, rfl, rfl⟩), ?_⟩
  rw [setUpArtifacts_eq, bind_ok hrun]

/-- However many listeners are called, they leave a state in which further artifacts have been
made. -/
theorem setUpAll_repeats (settings : List Settings) {st later : State} {given : String}
    (hid : (st.store.get st.conversion.definition).id = .text given)
    (hdescription : (descriptionOf st).IsTextOrAbsent) (h : Repeated st later) :
    ∃ next, (settings.map Listener.artifactSetup).forM Listener.before later = (.ok (), next) ∧
      Repeated st next := by
  induction settings generalizing later with
  | nil => exact ⟨later, rfl, h⟩
  | cons first rest ih =>
    obtain ⟨ready, hready, hsetUp⟩ := setUpArtifacts_of_repeated first hid h
    have htext : (descriptionOf ready).IsTextOrAbsent := hready.descriptionOf_eq ▸ hdescription
    obtain ⟨entries, hmake⟩ := makeArtifacts_apply first (Identifier.sanitize given) htext
    obtain ⟨next, hrest, hnext⟩ := ih (hready.trans (makeArtifacts_repeats htext hmake))
    refine ⟨next, ?_, hnext⟩
    rw [← hsetUp] at hmake
    change (Listener.setUpArtifacts first >>= fun _ ↦ _) later = _
    rw [bind_ok hmake]
    exact hrest

theorem setUpAll_cons (first : Settings) (rest : List Settings) :
    ((first :: rest).map Listener.artifactSetup).forM Listener.before
      = Listener.setUpArtifacts first >>= fun _ ↦
        (rest.map Listener.artifactSetup).forM Listener.before :=
  rfl

/-- Artifacts that are refused whatever the settings are refused at once. -/
theorem setUpAll_of_refused (former : List Settings) (last : Settings) {st next : State}
    {fault : Fault} (h : ∀ settings, Listener.setUpArtifacts settings st = (.error fault, next)) :
    ((former ++ [last]).map Listener.artifactSetup).forM Listener.before st
      = (.error fault, next) := by
  cases former with
  | nil => exact bind_error (h last) _
  | cons first rest => exact bind_error (h first) _

/-- Where an id has been chosen and the description is a text or absent, the last listener makes the
artifacts that count, after others may have been made. -/
theorem setUpAll_of_text (former : List Settings) (last : Settings) {st named : State}
    {given : String} (hid : artifactId st = (.ok (Identifier.sanitize given), named))
    (hgiven : (named.store.get named.conversion.definition).id = .text given)
    (hdescription : (descriptionOf named).IsTextOrAbsent) :
    ∃ ready, Repeated named ready ∧
      ((former ++ [last]).map Listener.artifactSetup).forM Listener.before st
        = makeArtifacts last (Identifier.sanitize given) ready := by
  cases former with
  | nil =>
    refine ⟨named, .of_onlyLogs ⟨rfl, rfl, rfl⟩, ?_⟩
    rw [List.nil_append, List.map_singleton, forM_singleton]
    exact bind_ok hid _
  | cons first rest =>
    obtain ⟨entries, happly⟩ := makeArtifacts_apply first (Identifier.sanitize given) hdescription
    obtain ⟨made, hmake⟩ : ∃ made, makeArtifacts first (Identifier.sanitize given) named
      = (.ok (), made) := ⟨_, happly⟩
    obtain ⟨later, hrest, hlater⟩ :=
      setUpAll_repeats rest hgiven hdescription (makeArtifacts_repeats hdescription hmake)
    obtain ⟨ready, hready, hlast⟩ := setUpArtifacts_of_repeated last hgiven hlater
    refine ⟨ready, hready, ?_⟩
    have hfirst : Listener.setUpArtifacts first st = (.ok (), made) :=
      (bind_ok hid (makeArtifacts first)).trans hmake
    rw [List.cons_append, setUpAll_cons, bind_ok hfirst, List.map_append, forM_append,
      bind_ok hrest, List.map_singleton, forM_singleton]
    exact hlast

theorem IsAnchored.apart_self {st : State} (hst : IsAnchored st) :
    Apart (st.store.gapsTo st.store) st st where
  store := Repeated.gapped (.of_onlyLogs ⟨rfl, rfl, rfl⟩) hst
  definition := rfl
  process := rfl
  artifacts := (Repeated.move_artifacts hst st).symm
  tokens := rfl

/-- **Several listeners before the steps.** Their calls have the outcome that the call of the last
one alone has, and leave a state that differs by gaps. -/
theorem setUpAll_apart (former : List Settings) (last : Settings) {st : State}
    (hprocess : HasProcess st) (hdefinition : st.store.Allocated st.conversion.definition)
    (hst : IsAnchored st) :
    let single := Listener.setUpArtifacts last st
    let several := ((former ++ [last]).map Listener.artifactSetup).forM Listener.before st
    several.1 = single.1 ∧ ∃ g, Apart g single.2 several.2 := by
  intro single several
  have hrefused {next : State} {fault : Fault} (hnext : IsAnchored next)
      (h : ∀ settings, Listener.setUpArtifacts settings st = (.error fault, next)) :
      several.1 = single.1 ∧ ∃ g, Apart g single.2 several.2 := by
    have hsingle : single = (.error fault, next) := h last
    have hseveral : several = (.error fault, next) := setUpAll_of_refused former last h
    rw [hsingle, hseveral]
    exact ⟨rfl, _, hnext.apart_self⟩
  rcases hid : artifactId st with ⟨fault | id, named⟩
  · obtain rfl : named = st := artifactId_error hprocess hid
    exact hrefused hst fun settings ↦ bind_error hid (makeArtifacts settings)
  · have hnamed := hst.of_artifactId hprocess hid
    obtain ⟨given, hgiven, rfl⟩ := artifactId_settles hdefinition hid
    have hsetUp (settings : Settings) : Listener.setUpArtifacts settings st
        = makeArtifacts settings (Identifier.sanitize given) named :=
      bind_ok hid (makeArtifacts settings)
    by_cases hdescription : (descriptionOf named).IsTextOrAbsent
    · obtain ⟨ready, hready, hlast⟩ := setUpAll_of_text former last hid hgiven hdescription
      obtain ⟨g, next, next', hmake, hmake', hapart⟩ :=
        @makeArtifacts_apart last (Identifier.sanitize given) _ _ hnamed hdescription hready
      have hsingle : single = (.ok (), next) := (hsetUp last).trans hmake
      have hseveral : several = (.ok (), next') := hlast.trans hmake'
      rw [hsingle, hseveral]
      exact ⟨rfl, g, hapart⟩
    · obtain ⟨fault, hfault⟩ := @makeArtifacts_of_refused (Identifier.sanitize given) _ hdescription
      exact hrefused hnamed fun settings ↦ (hsetUp settings).trans (hfault settings)

/-! ## After the steps -/

/-- Where no listed element lacks a form, any number of calls do nothing but log. -/
theorem completeAll_of_none_lacking (settings : List Settings) {st : State} {process : Ref Process}
    {elements : List (Ref Element)} (hprocess : st.conversion.process = some process)
    (helements : (st.store.get process).elements = some elements)
    (h : ∀ r ∈ elements, (st.store.get r).lacksForm = false) :
    ∃ entries, (settings.map Listener.artifactSetup).forM Listener.after st
      = (.ok (), { st with log := st.log ++ entries }) := by
  induction settings generalizing st with
  | nil => exact ⟨[], by rw [List.append_nil]; rfl⟩
  | cons first rest ih =>
    obtain ⟨entries, hfirst⟩ := completeStartForms_of_none_lacking hprocess helements h
    obtain ⟨others, hrest⟩ := @ih { st with log := st.log ++ entries } hprocess helements h
    refine ⟨entries ++ others, ?_⟩
    change (Listener.completeStartForms >>= fun _ ↦ _) st = _
    rw [bind_ok hfirst, ← List.append_assoc]
    exact hrest

/-- **Several listeners after the steps.** Their calls have the outcome that one call has, and do
nothing more but log. -/
theorem completeAll_onlyLogs {settings : List Settings} (hsome : settings ≠ []) {st : State}
    (hlisted : ListedExist st) :
    let once := Listener.completeStartForms st
    let several := (settings.map Listener.artifactSetup).forM Listener.after st
    several.1 = once.1 ∧ OnlyLogs once.2 several.2 := by
  intro once several
  obtain ⟨first, rest, rfl⟩ := List.exists_cons_of_ne_nil hsome
  have hkept := completeStartForms_keepsGraph st
  have hseveral : several = (Listener.completeStartForms >>= fun _ ↦
    (rest.map Listener.artifactSetup).forM Listener.after) st := rfl
  rcases honce : Listener.completeStartForms st with ⟨fault | ⟨⟩, next⟩
  · rw [hseveral, bind_error honce]
    exact ⟨congrArg Prod.fst honce.symm, by rw [show once = _ from honce]; exact ⟨rfl, rfl, rfl⟩⟩
  · obtain ⟨supplied, reached, hsupply, hlogs⟩ := completeStartForms_ok honce
    obtain ⟨process, elements, hprocess, helements, hgiven⟩ := supplyStartForms_ok
      (fun process elements hprocess helements ↦ by
        rw [← listed_eq hprocess helements]
        exact hlisted) hsupply
    rw [honce] at hkept
    obtain ⟨entries, hrest⟩ := @completeAll_of_none_lacking rest next process elements
      (hkept.process.trans hprocess) ((hkept.listed process).trans helements)
      (by rw [hlogs.store]; exact hgiven)
    rw [hseveral, bind_ok honce, hrest, show once = _ from honce]
    exact ⟨rfl, rfl, rfl, rfl⟩

/-! ## The run -/

/-- Everything that happens between the calls of the listeners. -/
def convertSteps (converters : List StepConverter) : ConversionM Unit := do
  (← currentDefinition).steps.forM (convertStep converters)
  checkGraph

theorem phases_eq (listeners : List Listener) (converters : List StepConverter) :
    phases listeners converters = listeners.forM Listener.before >>= fun _ ↦
      convertSteps converters >>= fun _ ↦ listeners.forM Listener.after := by
  simp only [phases, convertSteps, bind_assoc]

theorem transfers_convertSteps {converters : List StepConverter}
    (h : ∀ converter ∈ converters, WorksOnConversion converter) :
    Transfers g id (convertSteps converters) (convertSteps converters) := by
  refine .bind transfers_currentDefinition fun definition ↦ ?_
  refine .bind (.forM fun step _ ↦ .forM fun converter hmem ↦ (h converter hmem).transfers g step)
    fun _ ↦ transfers_checkGraph

theorem convertSteps_listed {converters : List StepConverter}
    (h : ∀ converter ∈ converters, WorksOnConversion converter) :
    Leaves (Keeps ListedExist) (convertSteps converters) :=
  .bind (currentDefinition_onlyLogs.mono ListedExist.of_onlyLogs) fun _ ↦
    .bind (.forM fun step _ ↦ .forM fun converter hmem ↦ (h converter hmem).listed step) fun _ ↦
      checkGraph_onlyLogs.mono ListedExist.of_onlyLogs

theorem setUpAll_keepsGraph (settings : List Settings) :
    Leaves GraphKept ((settings.map Listener.artifactSetup).forM Listener.before) := by
  refine .forM fun listener h ↦ ?_
  obtain ⟨own, -, rfl⟩ := List.mem_map.1 h
  exact setUpArtifacts_keepsGraph own

/-- The phases with several listeners, and those with the last of them alone. -/
theorem phases_apart (former : List Settings) (last : Settings) {converters : List StepConverter}
    {st : State} (hconverters : ∀ converter ∈ converters, WorksOnConversion converter)
    (hprocess : HasProcess st) (hdefinition : st.store.Allocated st.conversion.definition)
    (hst : IsAnchored st) (hlisted : ListedExist st) :
    let single := phases [Listener.artifactSetup last] converters st
    let several := phases ((former ++ [last]).map Listener.artifactSetup) converters st
    several.1 = single.1 ∧ ∃ g, Apart g single.2 several.2 := by
  intro single several
  obtain ⟨hsetUp, g, hready⟩ := setUpAll_apart former last hprocess hdefinition hst
  have hkept := setUpAll_keepsGraph (former ++ [last]) st
  have hsingle : single = (Listener.setUpArtifacts last >>= fun _ ↦
      convertSteps converters >>= fun _ ↦ Listener.completeStartForms) st := by
    rw [show single = _ from congrFun (phases_eq _ converters) st, forM_singleton, forM_singleton]
    rfl
  have hseveral : several = _ := congrFun (phases_eq _ converters) st
  rw [hsingle, hseveral, bind_apply, bind_apply]
  rcases hfirst : Listener.setUpArtifacts last st with ⟨fault | ⟨⟩, ready⟩
  all_goals
    rcases hfirst' : ((former ++ [last]).map Listener.artifactSetup).forM Listener.before st with
      ⟨outcome, ready'⟩
    rw [hfirst, hfirst'] at hsetUp hready
    rw [hfirst'] at hkept
    rw [show outcome = _ from hsetUp]
  · exact ⟨rfl, g, hready⟩
  -- one call after the steps transfers, and further calls do nothing but log
  · have htransfers : Transfers g id
        (convertSteps converters >>= fun _ ↦ Listener.completeStartForms)
        (convertSteps converters >>= fun _ ↦ Listener.completeStartForms) :=
      .bind (transfers_convertSteps hconverters) fun _ ↦ transfers_completeStartForms
    have hafter :
        let once := (convertSteps converters >>= fun _ ↦ Listener.completeStartForms) ready'
        let all := (convertSteps converters >>= fun _ ↦
          ((former ++ [last]).map Listener.artifactSetup).forM Listener.after) ready'
        all.1 = once.1 ∧ OnlyLogs once.2 all.2 := by
      have hconverted := convertSteps_listed hconverters ready' (hlisted.of_graphKept hkept)
      dsimp only
      rw [bind_apply, bind_apply]
      rcases hconvert : convertSteps converters ready' with ⟨fault | ⟨⟩, converted⟩
      · exact ⟨rfl, rfl, rfl, rfl⟩
      · rw [hconvert] at hconverted
        exact completeAll_onlyLogs (List.append_ne_nil_of_right_ne_nil _ (List.cons_ne_nil _ _))
          hconverted
    obtain ⟨honce, hdone⟩ := htransfers.apply hready
    exact ⟨hafter.1.trans honce, g, hdone.of_onlyLogs ⟨rfl, rfl, rfl⟩ hafter.2⟩

/-- The end of a run that no fault has stopped. -/
def conclude : ConversionM (Ref Process) := do
  let process ← requireProcess "id"
  let content : Process ← fetch process
  note .info .run s!"Converted workflow definition into process '{content.id.display}'"
  return process

theorem run_eq_bind (listeners : List Listener) (converters : List StepConverter) :
    run listeners converters = ensureProcess >>= fun _ ↦
      tryCatch (phases listeners converters) abandon >>= fun _ ↦ conclude :=
  rfl

theorem transfers_conclude : Transfers g id conclude conclude :=
  .bind (transfers_requireProcess _) fun process ↦ .bind (.build (.fetch process)) fun _ ↦
    .bind (.note _ _ _) fun _ ↦ .pure id process

/-- Phases with the same outcome end a run alike. -/
theorem ended_apart {action other : ConversionM Unit} {st : State}
    (hresult : (other st).1 = (action st).1) (hstates : Apart g (action st).2 (other st).2) :
    let ended := (tryCatch action abandon >>= fun _ ↦ conclude) st
    let ended' := (tryCatch other abandon >>= fun _ ↦ conclude) st
    ended'.1 = ended.1 ∧ Apart g ended.2 ended'.2 := by
  intro ended ended'
  have hended : ended = _ := bind_apply (tryCatch action abandon) (fun _ ↦ conclude) st
  have hended' : ended' = _ := bind_apply (tryCatch other abandon) (fun _ ↦ conclude) st
  rw [hended, hended', tryCatch_apply, tryCatch_apply]
  rcases haction : action st with ⟨fault | ⟨⟩, last⟩
  all_goals
    rcases hother : other st with ⟨outcome, last'⟩
    rw [haction, hother] at hresult hstates
    rw [show outcome = _ from hresult]
  · dsimp only
    rw [abandon_apply, abandon_apply]
    exact ⟨rfl, hstates.of_onlyLogs ⟨rfl, rfl, rfl⟩ ⟨rfl, rfl, rfl⟩⟩
  · exact transfers_conclude.apply hstates

/-- A run with several listeners that set up artifacts, and one with the last of them alone. -/
theorem run_apart (former : List Settings) (last : Settings) {converters : List StepConverter}
    {st : State} (hconverters : ∀ converter ∈ converters, WorksOnConversion converter)
    (hdefinition : st.store.Allocated st.conversion.definition) (hst : IsAnchored st)
    (hlisted : ListedExist st) :
    let single := run [Listener.artifactSetup last] converters st
    let several := run ((former ++ [last]).map Listener.artifactSetup) converters st
    several.1 = single.1 ∧ ∃ g, Apart g single.2 several.2 := by
  intro single several
  have hsingle : single = _ := congrFun (run_eq_bind _ converters) st
  have hseveral : several = _ := congrFun (run_eq_bind _ converters) st
  have hbegins {begun : State} (hensure : ensureProcess st = (.ok (), begun))
      (hprocess : HasProcess begun)
      (hdefinition : begun.store.Allocated begun.conversion.definition)
      (hbegun : IsAnchored begun) :
      several.1 = single.1 ∧ ∃ g, Apart g single.2 several.2 := by
    have hbegunListed : ListedExist begun := ((ensureProcess_listed hensure).2 hlisted).1
    obtain ⟨hphases, g, hapart⟩ :=
      phases_apart former last hconverters hprocess hdefinition hbegun hbegunListed
    rw [hsingle, hseveral, bind_ok hensure, bind_ok hensure]
    obtain ⟨hended, hlast⟩ := ended_apart hphases hapart
    exact ⟨hended, g, hlast⟩
  rcases ensureProcess_cases st with ⟨process, hprocess, hsame⟩ | ⟨-, ⟨fault, herror⟩ | hmake⟩
  · exact hbegins hsame (by rw [HasProcess, hprocess]; rfl) hdefinition hst
  · rw [hsingle, hseveral, bind_error herror, bind_error herror]
    exact ⟨rfl, _, hst.apart_self⟩
  · exact hbegins hmake rfl hdefinition (hst.of_same rfl rfl rfl rfl rfl)

/-- **Several listeners are as good as the last one.** A run in which several listeners set up
artifacts has the outcome of the run with the last one alone, also where it fails. It leaves the
same definition, process and elements and the same tokens, and the artifacts under all keys are
written alike. All in all, the two states differ by the log and by records that nobody refers to. -/
theorem run_several (former : List Settings) (last : Settings) {converters : List StepConverter}
    {st : State} (hconverters : ∀ converter ∈ converters, WorksOnConversion converter)
    (hdefinition : st.store.Allocated st.conversion.definition) (hst : IsAnchored st)
    (hlisted : ListedExist st) :
    let single := run [Listener.artifactSetup last] converters st
    let several := run ((former ++ [last]).map Listener.artifactSetup) converters st
    several.1 = single.1 ∧
    several.2.conversion.definition = single.2.conversion.definition ∧
    several.2.conversion.process = single.2.conversion.process ∧
    several.2.store.definitions = single.2.store.definitions ∧
    several.2.store.processes = single.2.store.processes ∧
    several.2.store.elements = single.2.store.elements ∧
    several.2.tokens = single.2.tokens ∧
    several.2.conversion.artifacts.keys = single.2.conversion.artifacts.keys ∧
    (∀ key style, (several.2.conversion.artifacts.get key).write several.2.store style
      = (single.2.conversion.artifacts.get key).write single.2.store style) ∧
    ∃ g, Apart g single.2 several.2 := by
  intro single several
  obtain ⟨hresult, g, h⟩ := run_apart former last hconverters hdefinition hst hlisted
  refine ⟨hresult, h.definition, h.process, h.store.definitions, h.store.processes,
    h.store.elements, h.tokens, ?_, fun key style ↦ ?_, g, h⟩
  · rw [show several.2.conversion.artifacts = _ from h.artifacts, Registry.keys, Registry.move,
      List.map_map]
    rfl
  · rw [show several.2.conversion.artifacts.get key = _ from h.get_artifact key]
    exact h.store.write_eq style _

/-- A conversion of a definition without an id, with a start event and a task. -/
def startAndTask : State where
  store :=
    { Store.empty with
      definitions := Table.empty.push
        { id := .null
          name := .text "leave"
          description := .null
          steps :=
            [.object [("type", .text "start"), ("id", .text "begin")],
              .object [("type", .text "task"), ("id", .text "review")]] } }
  conversion := .start ⟨0⟩
  tokens := ⟨["first", "second"], 0⟩
  log := []

/-- With two listeners, the run of `startAndTask` returns a process as well, takes one token and
leaves the form module of the second listener. -/
theorem run_several_startAndTask :
    ∃ converters former last single several,
      run [Listener.artifactSetup last] converters startAndTask = single ∧
      run (([former] ++ [last]).map Listener.artifactSetup) converters startAndTask = several ∧
      single.1.toOption.isSome = true ∧ several.1 = single.1 ∧
      several.2.tokens = ⟨["second"], 0⟩ ∧
      (several.2.conversion.artifacts.get Vocabulary.formModuleKey).write several.2.store .full
        = (single.2.conversion.artifacts.get Vocabulary.formModuleKey).write single.2.store
          .full := by
  let converters := [Session.ConverterName.start.converter, Session.ConverterName.task.converter]
  let former : Settings := ⟨"INFO", some "Ada", some "1.0"⟩
  let last : Settings := ⟨"INFO", none, some "2.0"⟩
  have hreturns : (run [Listener.artifactSetup last] converters startAndTask).1.toOption.isSome
      = true := by
    decide +kernel
  have htaken : (run [Listener.artifactSetup last] converters startAndTask).2.tokens
      = ⟨["second"], 0⟩ := by
    decide +kernel
  have hconverters : ∀ converter ∈ converters, WorksOnConversion converter := by
    intro converter h
    rcases List.mem_cons.1 h with rfl | h
    · exact converter_worksOnConversion .start
    · rw [List.mem_singleton.1 h]
      exact converter_worksOnConversion .task
  have hanchored : IsAnchored startAndTask :=
    ⟨⟨fun _ hr ↦ absurd hr (Nat.not_lt_zero _), fun _ h ↦ absurd h (Array.not_mem_empty _)⟩,
      fun _ h ↦ absurd h List.not_mem_nil⟩
  have hsame := run_several [former] last hconverters (by decide) hanchored
    fun _ h ↦ absurd h List.not_mem_nil
  refine ⟨converters, former, last, _, _, rfl, rfl, hreturns, ?_⟩
  generalize run [Listener.artifactSetup last] converters startAndTask = single at *
  generalize run (([former] ++ [last]).map Listener.artifactSetup) converters startAndTask
    = several at *
  obtain ⟨hresult, -, -, -, -, -, htokens, -, hwritten, -⟩ := hsame
  exact ⟨hresult, htokens.trans htaken, hwritten _ _⟩

end Conversion

end WorkflowArtifacts
