import WorkflowArtifacts.Proofs.Identifier.Pieces

/-!
# The namespaces of one content model

A generated content model has a namespace of its own beside the three that it imports. The own
namespace is named after the id of the artifacts, and any identifier may be that id. So the names of
the own namespace can be names of an imported one, and they are for five ids: three are the short
names of the imported namespaces, and three fill the gap in the URI so that an imported one comes
out, one of them being both. No generated id is among them, since these start like no imported name.
-/

namespace WorkflowArtifacts

/-! ## Names -/

theorem Template.fill_injective (template : Template) : Function.Injective template.fill := by
  intro s t h
  rw [fill, fill, String.append_left_inj, String.append_right_inj] at h
  exact h

namespace Conversion

open Build

/-- A generated id starts as the lead of generated ids does. -/
theorem head?_idOfToken (token : String) : (idOfToken token).toList.head? = some 'p' := by
  rw [idOfToken_eq, String.toList_append]
  rfl

/-- The ids that are short names of imported namespaces. -/
def importedQualifiers : List String := requiredImports.map ModelNamespace.qualifier

/-- The ids whose namespaces have the URIs of imported ones. -/
def idsOfImportedUris : List String := ["dictionary", "content", "bpm"]

theorem namespaceUri_mem_iff (id : String) :
    Vocabulary.namespaceUri.fill id ∈ requiredImports.map ModelNamespace.uri ↔
      id ∈ idsOfImportedUris := by
  have hfilled : requiredImports.map ModelNamespace.uri
      = idsOfImportedUris.map Vocabulary.namespaceUri.fill := by decide
  rw [hfilled, List.mem_map_of_injective (Template.fill_injective _)]

/-- No generated id is one of the names that are taken. -/
theorem idOfToken_not_mem (token : String) :
    idOfToken token ∉ importedQualifiers ∧ idOfToken token ∉ idsOfImportedUris := by
  have hlead : ∀ id ∈ importedQualifiers ++ idsOfImportedUris, id.toList.head? ≠ some 'p' := by
    decide
  constructor
  · intro h
    exact hlead _ (List.mem_append_left _ h) (head?_idOfToken token)
  · intro h
    exact hlead _ (List.mem_append_right _ h) (head?_idOfToken token)

/-! ## The setting up of artifacts succeeds -/

/-- A definition that is given an id keeps its description. -/
theorem description_withId (s : Store) (definition : Ref Definition) (process : Ref Process)
    (id : String) :
    ((withId definition process id s).get definition).description
      = (s.get definition).description := by
  let given := s.modify process fun p ↦ { p with id := .text id }
  change ((given.modify definition fun d ↦ { d with id := .text id }).get definition).description
    = (given.get definition).description
  by_cases h : definition = definition ∧ given.Allocated definition
  · rw [Store.modify, Store.get_set_self h.2]
  · rw [Store.get_modify_of_not h]

/-- There is an id for the artifacts if the definition has one that is a text, or has none and there
is a process to be given one as well. -/
theorem artifactId_of_textOrAbsent {st : State}
    (hid : (st.store.get st.conversion.definition).id.IsTextOrAbsent)
    (hprocess : (st.store.get st.conversion.definition).id = .null →
      ∃ process, st.conversion.process = some process) :
    ∃ next, artifactId st = (.ok (idAhead st), next) ∧ next.conversion = st.conversion ∧
      (next.store.get next.conversion.definition).description
        = (st.store.get st.conversion.definition).description := by
  rw [idAhead]
  rcases hid with hid | ⟨given, hid⟩
  · obtain ⟨process, hprocess⟩ := hprocess hid
    obtain ⟨entry, hrun⟩ := artifactId_of_null hid hprocess
    simp only [hid, hrun]
    exact ⟨_, rfl, rfl, description_withId st.store _ process _⟩
  · obtain ⟨entries, hrun⟩ := artifactId_of_text hid
    simp only [hid, hrun]
    exact ⟨_, rfl, rfl, rfl⟩

/-- If the id and the description of the definition are texts or absent, then the artifacts are set
up, and the content model that is stored is the one of the id. -/
theorem setUpArtifacts_of_textOrAbsent (settings : Settings) {st : State}
    (hid : (st.store.get st.conversion.definition).id.IsTextOrAbsent)
    (hdescription : (st.store.get st.conversion.definition).description.IsTextOrAbsent)
    (hprocess : (st.store.get st.conversion.definition).id = .null →
      ∃ process, st.conversion.process = some process) :
    ∃ next model, Listener.setUpArtifacts settings st = (.ok (), next) ∧
      next.conversion.artifacts.get Vocabulary.contentModelKey = .entity (.contentModel model) ∧
      IsContentModelOf next.store model (idAhead st) := by
  obtain ⟨named, hnamed, -, hsame⟩ := artifactId_of_textOrAbsent hid hprocess
  rw [← hsame] at hdescription
  obtain ⟨model, own, made, hmake, hmade⟩ := @makeContentModel_made (idAhead st) _ _ _ _ named
    (RecordClass.contentModel_validate_of_texts (contentModelNameFor (.text (idAhead st)))
      hdescription (Json.isTextOrAbsent_ofText? settings.modelAuthor)
      (Json.isTextOrAbsent_ofText? settings.modelVersion))
    (RecordClass.modelNamespace_validate_of_text _ (idAhead st))
  obtain ⟨entry, hmodule⟩ := makeFormModule_apply (.text (idAhead st)) made
  refine ⟨(makeFormModule (.text (idAhead st)) made).2, model, ?_, ?_,
    hmade.stands.of_extends (.refl _) (.refl _)⟩
  · rw [Listener.setUpArtifacts, bind_ok hnamed, bind_ok hmake, bind_ok hmodule, hmodule]
    rfl
  · change (made.conversion.artifacts.put _ _).get _ = _
    rw [Registry.get_put_of_ne _ (by decide), hmade.conversion,
      Registry.get_put_of_ne _ (by decide), Registry.get_put_self]

/-! ## The namespaces of the content model -/

/-- **The namespaces of a generated content model.** If the id and the description of the definition
are texts or absent, then a content model is set up. The short name of its own namespace is that of
an imported one exactly for the ids `d`, `cm` and `bpm`, and the URI exactly for `dictionary`,
`content` and `bpm`. A generated id is none of these. For all other ids, no two namespaces of the
model share a short name or a URI. -/
theorem setUpArtifacts_namespaces (settings : Settings) {st : State}
    (hid : (st.store.get st.conversion.definition).id.IsTextOrAbsent)
    (hdescription : (st.store.get st.conversion.definition).description.IsTextOrAbsent)
    (hprocess : (st.store.get st.conversion.definition).id = .null →
      ∃ process, st.conversion.process = some process) :
    ∃ next model own, Listener.setUpArtifacts settings st = (.ok (), next) ∧
      next.conversion.artifacts.get Vocabulary.contentModelKey = .entity (.contentModel model) ∧
      (next.store.get model).namespaces = [own] ∧
      let imports := (next.store.get model).imports.map next.store.get
      imports = requiredImports ∧
      ((next.store.get own).qualifier ∈ imports.map ModelNamespace.qualifier ↔
        idAhead st ∈ ["d", "cm", "bpm"]) ∧
      ((next.store.get own).uri ∈ imports.map ModelNamespace.uri ↔
        idAhead st ∈ ["dictionary", "content", "bpm"]) ∧
      ((st.store.get st.conversion.definition).id = .null →
        idAhead st ∉ ["d", "cm", "bpm"] ∧ idAhead st ∉ ["dictionary", "content", "bpm"]) ∧
      (idAhead st ∉ ["d", "cm", "bpm"] →
        ((next.store.get own :: imports).map ModelNamespace.qualifier).Nodup) ∧
      (idAhead st ∉ ["dictionary", "content", "bpm"] →
        ((next.store.get own :: imports).map ModelNamespace.uri).Nodup) := by
  obtain ⟨next, model, hsetUp, hstored, hstands⟩ :=
    setUpArtifacts_of_textOrAbsent settings hid hdescription hprocess
  obtain ⟨own, hnamespaces, -, hown⟩ := hstands.declared
  refine ⟨next, model, own, hsetUp, hstored, hnamespaces, ?_⟩
  intro imports
  have himports : imports = requiredImports := Store.map_get_of_holds hstands.imported
  rw [himports, hown]
  refine ⟨rfl, Iff.rfl, namespaceUri_mem_iff _, ?_, ?_, ?_⟩
  · intro hnull
    have hgenerated : idAhead st = idOfToken st.tokens.next.1 := by rw [idAhead, hnull]
    rw [hgenerated]
    exact idOfToken_not_mem _
  · intro hfree
    exact List.nodup_cons.2 ⟨hfree, by decide⟩
  · intro hfree
    exact List.nodup_cons.2 ⟨fun h ↦ hfree ((namespaceUri_mem_iff _).1 h), by decide⟩

/-- A conversion of a definition with an id and nothing else. -/
def conversionOf (id : Json) : State where
  store := { Store.empty with
    definitions := Table.empty.push { id, name := .null, description := .null, steps := [] } }
  conversion := .start ⟨0⟩
  tokens := ⟨[], 0⟩
  log := []

/-- For the id `leave` no names are shared. -/
theorem setUpArtifacts_namespaces_leave :
    ∃ (next : State) (model : Ref ContentModel) (own : Ref ModelNamespace),
      Listener.setUpArtifacts ⟨"INFO", none, some "1.0"⟩ (conversionOf (.text "leave"))
        = (.ok (), next) ∧
      (next.store.get model).namespaces = [own] ∧
      ((next.store.get own :: (next.store.get model).imports.map next.store.get).map
        ModelNamespace.qualifier).Nodup := by
  obtain ⟨next, model, own, hsetUp, -, hnamespaces, -, -, -, -, hnodup, -⟩ :=
    @setUpArtifacts_namespaces ⟨"INFO", none, some "1.0"⟩ (conversionOf (.text "leave"))
      (.inr ⟨"leave", rfl⟩) (.inl rfl) (fun h ↦ by cases h)
  have hahead : idAhead (conversionOf (.text "leave")) = "leave" := by decide +kernel
  rw [hahead] at hnodup
  exact ⟨next, model, own, hsetUp, hnamespaces, hnodup (by decide)⟩

/-- For the id `d`, the own namespace and an imported one share a short name and have different
URIs. -/
theorem setUpArtifacts_shares_qualifier :
    ∃ (next : State) (model : Ref ContentModel) (own imported : Ref ModelNamespace),
      Listener.setUpArtifacts ⟨"INFO", none, some "1.0"⟩ (conversionOf (.text "d"))
        = (.ok (), next) ∧
      next.conversion.artifacts.get Vocabulary.contentModelKey = .entity (.contentModel model) ∧
      own ∈ (next.store.get model).namespaces ∧ imported ∈ (next.store.get model).imports ∧
      (next.store.get own).qualifier = (next.store.get imported).qualifier ∧
      (next.store.get own).uri ≠ (next.store.get imported).uri := by
  obtain ⟨next, model, hsetUp, hstored, hstands⟩ :=
    @setUpArtifacts_of_textOrAbsent ⟨"INFO", none, some "1.0"⟩ (conversionOf (.text "d"))
      (.inr ⟨"d", rfl⟩) (.inl rfl) (fun h ↦ by cases h)
  have hahead : idAhead (conversionOf (.text "d")) = "d" := by decide +kernel
  rw [hahead] at hstands
  obtain ⟨own, hnamespaces, -, hown⟩ := hstands.declared
  have himports := hstands.imported
  cases hrefs : (next.store.get model).imports with
  | nil =>
    rw [hrefs] at himports
    cases himports
  | cons imported rest =>
    rw [hrefs] at himports
    obtain ⟨-, himported⟩ := (List.forall₂_cons.1 himports).1
    refine ⟨next, model, own, imported, hsetUp, hstored, ?_, ?_, ?_, ?_⟩
    · rw [hnamespaces]
      exact List.mem_singleton_self own
    · rw [hrefs]
      exact List.mem_cons_self
    · rw [hown, himported]
    · rw [hown, himported]
      decide

end Conversion

end WorkflowArtifacts
