import WorkflowArtifacts.Proofs.Conversion.Steps
import WorkflowArtifacts.Proofs.Schema.Requests
import WorkflowArtifacts.Proofs.Store.Growth

/-!
# What the making of a content model leaves behind

The content model is made in several steps, any of which may be refused: its own values, the
namespace, and only then are records made and artifacts stored. All that may be refused comes before
the first change, so there are just two outcomes: nothing has happened at all, or everything has
(`makeContentModel_cases`).
-/

namespace WorkflowArtifacts

open Build

/-- Whether a content model is one that was made for an id: it is named after the id, declares just
the namespace of the id and imports the dictionary, the content and the workflow namespace. -/
structure IsContentModelOf (s : Store) (model : Ref ContentModel) (id : String) : Prop where
  /-- The content model exists. -/
  allocated : s.Allocated model
  /-- It is named after the id. -/
  name : (s.get model).name = some (qualifiedName id Vocabulary.contentModelName)
  /-- It declares just the namespace of the id, of which the id is the short name. -/
  declared : ∃ own, (s.get model).namespaces = [own] ∧
    s.Holds own { uri := Vocabulary.namespaceUri.fill id, qualifier := id }
  /-- It imports just these namespaces, in this order. -/
  imported : List.Forall₂ s.Holds (s.get model).imports
    [{ uri := "http://www.alfresco.org/model/dictionary/1.0", qualifier := "d" },
      { uri := "http://www.alfresco.org/model/content/1.0", qualifier := "cm" },
      { uri := "http://www.alfresco.org/model/bpm/1.0", qualifier := "bpm" }]

/-- A content model stays the one of an id while content models and namespaces are added. -/
theorem IsContentModelOf.of_extends {s t : Store} {model : Ref ContentModel} {id : String}
    (h : IsContentModelOf s model id) (hmodels : t.contentModels.Extends s.contentModels)
    (hnamespaces : t.namespaces.Extends s.namespaces) : IsContentModelOf t model id := by
  have hget : t.get model = s.get model := hmodels.get h.allocated
  obtain ⟨own, hown, hholds⟩ := h.declared
  exact
    { allocated := hmodels.allocated h.allocated
      name := by rw [hget, h.name]
      declared := ⟨own, by rw [hget, hown], hholds.of_extends hnamespaces⟩
      imported := by
        rw [hget]
        exact h.imported.imp fun _ _ hr ↦ hr.of_extends hnamespaces }

namespace Conversion

/-- What is left behind where a content model was made for an id: the model, its two artifacts, and
nothing else. -/
structure ContentModelMade (id : String) (author version : Json) (model : Ref ContentModel)
    (st next : State) : Prop where
  /-- The content model is the one of the id. -/
  stands : IsContentModelOf next.store model id
  /-- It is described as the definition is. -/
  description : .ofText? (next.store.get model).description
    = (st.store.get st.conversion.definition).description
  /-- It has the author. -/
  author : .ofText? (next.store.get model).author = author
  /-- It has the version. -/
  version : .ofText? (next.store.get model).version = version
  /-- The former content models are still there. -/
  contentModels : next.store.contentModels.Extends st.store.contentModels
  /-- The former namespaces are still there. -/
  namespaces : next.store.namespaces.Extends st.store.namespaces
  /-- Other records are the same. -/
  store : next.store = { st.store with
    contentModels := next.store.contentModels, namespaces := next.store.namespaces }
  /-- The content model and the short name have been stored as artifacts. -/
  conversion : next.conversion = { st.conversion with
    artifacts := (st.conversion.artifacts.put Vocabulary.contentModelKey
      (.entity (.contentModel model))).put Vocabulary.qualifierKey (.data (.text id)) }
  /-- The tokens are the same. -/
  tokens : next.tokens = st.tokens

/-- The records of a content model: the model comes with all of its namespaces, and besides them
nothing is added. -/
theorem assembleContentModel_apply {modelDocument namespaceDocument : Json} {blank : ContentModel}
    {n : ModelNamespace} (hmodel : ∀ s, ContentModel.load modelDocument s = s.alloc blank)
    (hown : ∀ s, ModelNamespace.load namespaceDocument s = s.alloc n) (s : Store) :
    ∃ own imports namespaces,
      assembleContentModel modelDocument namespaceDocument s =
        ((s.contentModels.next, own),
          { s with
            namespaces
            contentModels := s.contentModels.push
              { blank with
                namespaces := blank.namespaces ++ [own], imports := blank.imports ++ imports } }) ∧
      namespaces.Extends s.namespaces ∧ namespaces.Holds own n ∧
      List.Forall₂ namespaces.Holds imports requiredImports := by
  let s₁ := (s.alloc blank).2
  let own := (s₁.alloc n).1
  let s₂ := (s₁.alloc n).2
  obtain ⟨namespaces, hstore, hextends, himports⟩ := Store.mapM_alloc_holds requiredImports s₂
  refine ⟨own, (requiredImports.mapM alloc s₂).1, namespaces, ?_,
    (s₁.extends_alloc n).trans hextends, ?_, himports⟩
  · rw [assembleContentModel, Build.bind_apply, hmodel, Build.bind_apply, hown, Build.bind_apply]
    change ((s.contentModels.next, own),
      (requiredImports.mapM alloc s₂).2.modify s.contentModels.next _) = _
    have hlast : Stored.table (requiredImports.mapM alloc s₂).2 = s.contentModels.push blank := by
      rw [hstore]
      rfl
    rw [Store.modify_next hlast, hstore]
    rfl
  · exact (Store.holds_iff.1 (s₁.holds_alloc n)).of_extends hextends

theorem makeContentModel_made {id : String} {author version modelDocument namespaceDocument : Json}
    {st : State}
    (hmodel : RecordClass.contentModel.validate (contentModelRequest (.text id)
      (st.store.get st.conversion.definition).description author version) = .ok modelDocument)
    (hnamespace : RecordClass.modelNamespace.validate (namespaceRequest (.text id))
      = .ok namespaceDocument) :
    ∃ model own next, makeContentModel (.text id) author version st = (.ok (model, own), next) ∧
      ContentModelMade id author version model st next := by
  obtain ⟨hdescription, hauthor, hversion, hmodelDocument⟩ :=
    RecordClass.contentModel_validate_eq_ok hmodel
  obtain ⟨_, ⟨⟩, hnamespaceDocument⟩ := RecordClass.modelNamespace_validate_eq_ok hnamespace
  let blank : ContentModel :=
    { name := some (contentModelNameFor (.text id))
      description := (st.store.get st.conversion.definition).description.text?
      author := author.text?
      version := version.text?
      namespaces := []
      imports := [] }
  let n : ModelNamespace := { uri := Vocabulary.namespaceUri.fill id, qualifier := id }
  have hblank (s : Store) : ContentModel.load modelDocument s = s.alloc blank := by
    rw [hmodelDocument]
    rfl
  have hn (s : Store) : ModelNamespace.load namespaceDocument s = s.alloc n := by
    rw [hnamespaceDocument]
    rfl
  obtain ⟨own, imports, namespaces, hbuild, hextends, hown, himports⟩ :=
    assembleContentModel_apply hblank hn st.store
  rw [makeContentModel, bind_ok (currentDefinition_apply st), bind_ok (validated_ok hmodel st),
    bind_ok (validated_ok hnamespace st), bind_ok (liftM_build_apply _ _), hbuild]
  simp only []
  rw [bind_ok (liftM_build_apply _ _), bind_ok (putArtifact_apply _ _ _),
    bind_ok (putArtifact_apply _ _ _), bind_ok (note_apply _ _ _ _), pure_apply]
  refine ⟨_, _, _, rfl, ?_⟩
  let made : ContentModel := { blank with namespaces := [own], imports }
  have hget : (st.store.contentModels.push made).get st.store.contentModels.next = made :=
    st.store.contentModels.get_push_next made
  have hqualifier : (namespaces.get own).qualifier = id := congrArg ModelNamespace.qualifier hown.2
  exact
    { stands :=
        { allocated := st.store.contentModels.allocated_push_next made
          name := congrArg ContentModel.name hget
          declared := ⟨own, congrArg ContentModel.namespaces hget, hown⟩
          imported := by
            change List.Forall₂ namespaces.Holds
              ((st.store.contentModels.push made).get st.store.contentModels.next).imports _
            rw [hget]
            exact himports }
      description := (congrArg (Json.ofText? ·.description) hget).trans hdescription
      author := (congrArg (Json.ofText? ·.author) hget).trans hauthor
      version := (congrArg (Json.ofText? ·.version) hget).trans hversion
      contentModels := .push _ _
      namespaces := hextends
      store := rfl
      conversion := by
        -- the short name is not the id itself but what the namespace says
        rw [← hqualifier]
        rfl
      tokens := rfl }

/-- Either the making of a content model is refused and nothing has happened, or the id was a text
and the content model has been made for it. -/
theorem makeContentModel_cases (processId author version : Json) (st : State) :
    (∃ fault, makeContentModel processId author version st = (.error fault, st)) ∨
      ∃ id model own next, processId = .text id ∧
        makeContentModel processId author version st = (.ok (model, own), next) ∧
        ContentModelMade id author version model st next := by
  cases hmodel : RecordClass.contentModel.validate (contentModelRequest processId
    (st.store.get st.conversion.definition).description author version) with
  -- both documents are checked before the first change, so a refusal finds the state as it was
  | error failure =>
    refine .inl ⟨.invalid failure, ?_⟩
    rw [makeContentModel, bind_ok (currentDefinition_apply st)]
    exact bind_error (validated_error hmodel st) _
  | ok modelDocument =>
    cases hnamespace : RecordClass.modelNamespace.validate (namespaceRequest processId) with
    | error failure =>
      refine .inl ⟨.invalid failure, ?_⟩
      rw [makeContentModel, bind_ok (currentDefinition_apply st), bind_ok (validated_ok hmodel st)]
      exact bind_error (validated_error hnamespace st) _
    | ok namespaceDocument =>
      obtain ⟨id, rfl, -⟩ := RecordClass.modelNamespace_validate_eq_ok hnamespace
      obtain ⟨model, own, next, hmake, hmade⟩ := makeContentModel_made hmodel hnamespace
      exact .inr ⟨id, model, own, next, rfl, hmake, hmade⟩

end Conversion

end WorkflowArtifacts
