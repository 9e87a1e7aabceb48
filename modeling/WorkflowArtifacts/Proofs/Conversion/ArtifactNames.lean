import Mathlib.Tactic.TFAE
import WorkflowArtifacts.Proofs.Conversion.Namespaces
import WorkflowArtifacts.Proofs.Identifier.Grammar

/-!
# The names of artifacts

The content model of a conversion, the namespace that the model declares and the form module are all
named after one id, each in a way of its own. None of these ways loses anything of the id, so two
conversions whose artifacts share one of the names share all of them, and they do exactly if
sanitizing makes the same of their ids.

The names inside of a content model are qualified by its short name. An identifier has no colon, so
the first colon of a qualified name is the one that ends the qualifier, whatever the local name is.
-/

namespace WorkflowArtifacts

/-! ## Qualified names -/

/-- A separator that does not occur before its first use tells the parts of a list apart. -/
theorem append_cons_inj_of_notMem_left {α : Type} {sep : α} {p q m n : List α} (hp : sep ∉ p)
    (hq : sep ∉ q) (h : p ++ sep :: m = q ++ sep :: n) : p = q ∧ m = n := by
  induction p generalizing q with
  | nil =>
    rcases q with _ | ⟨c, q⟩
    · exact ⟨rfl, List.tail_eq_of_cons_eq h⟩
    · exact absurd (List.head_eq_of_cons_eq h ▸ List.mem_cons_self) hq
  | cons c p ih =>
    rcases q with _ | ⟨d, q⟩
    · exact absurd (List.head_eq_of_cons_eq h ▸ List.mem_cons_self) hp
    · obtain rfl : c = d := List.head_eq_of_cons_eq h
      obtain ⟨rfl, hmn⟩ := ih (List.not_mem_of_not_mem_cons hp) (List.not_mem_of_not_mem_cons hq)
        (List.tail_eq_of_cons_eq h)
      exact ⟨rfl, hmn⟩

theorem qualifiedName_toList (qualifier name : String) :
    (qualifiedName qualifier name).toList = qualifier.toList ++ ':' :: name.toList := by
  rw [qualifiedName, String.toList_append, String.toList_append, List.append_assoc]
  rfl

/-- No identifier has a colon in it. -/
theorem Identifier.colon_notMem {id : String} (h : id.toList ∈ pattern.matches') :
    ':' ∉ id.toList := by
  intro hcolon
  have hbody := isBody_of_matchesExactly (mem_pattern.1 h) ':' hcolon
  revert hbody
  decide

theorem qualifiedName_inj {p q m n : String} (hp : p.toList ∈ Identifier.pattern.matches')
    (hq : q.toList ∈ Identifier.pattern.matches') (h : qualifiedName p m = qualifiedName q n) :
    p = q ∧ m = n := by
  rw [← String.toList_inj, qualifiedName_toList, qualifiedName_toList] at h
  obtain ⟨hpq, hmn⟩ :=
    append_cons_inj_of_notMem_left (Identifier.colon_notMem hp) (Identifier.colon_notMem hq) h
  exact ⟨String.toList_inj.1 hpq, String.toList_inj.1 hmn⟩

namespace Conversion

/-! ## The names of a conversion -/

/-- The names that the artifacts of a conversion go by. -/
structure ArtifactNames where
  /-- The name of the content model. -/
  contentModel : String
  /-- The short name of the namespace that the content model declares. -/
  qualifier : String
  /-- The URI of that namespace. -/
  uri : String
  /-- The id of the form module. -/
  formModule : String

/-- The names that are made of an id. -/
def ArtifactNames.of (id : String) : ArtifactNames where
  contentModel := qualifiedName id Vocabulary.contentModelName
  qualifier := id
  uri := Vocabulary.namespaceUri.fill id
  formModule := Vocabulary.formModuleId.fill id

/-- Whether the artifacts of a conversion are there and go by the given names. -/
structure GoesBy (names : ArtifactNames) (conversion : Conversion) (s : Store) : Prop where
  /-- There is a content model of the name, which declares one namespace, and this has its names. -/
  contentModel : ∃ model own,
    conversion.artifacts.get Vocabulary.contentModelKey = .entity (.contentModel model) ∧
    s.Allocated model ∧ (s.get model).name = some names.contentModel ∧
    (s.get model).namespaces = [own] ∧
    s.Holds own { uri := names.uri, qualifier := names.qualifier }
  /-- The short name is kept as an artifact too. -/
  qualifier : conversion.artifacts.get Vocabulary.qualifierKey = .data (.text names.qualifier)
  /-- There is a form module of the id. -/
  formModule : ∃ formModule,
    conversion.artifacts.get Vocabulary.formModuleKey = .entity (.formModule formModule) ∧
    s.Allocated formModule ∧ (s.get formModule).id = some names.formModule

/-- The artifacts go by their names as long as content models, namespaces and form modules are only
added. -/
theorem GoesBy.of_extends {names : ArtifactNames} {conversion : Conversion} {s t : Store}
    (h : GoesBy names conversion s) (hmodels : t.contentModels.Extends s.contentModels)
    (hnamespaces : t.namespaces.Extends s.namespaces)
    (hmodules : t.formModules.Extends s.formModules) : GoesBy names conversion t where
  contentModel := by
    obtain ⟨model, own, hstored, hallocated, hname, hdeclared, hown⟩ := h.contentModel
    have hget : t.get model = s.get model := hmodels.get hallocated
    exact ⟨model, own, hstored, hmodels.allocated hallocated, by rw [hget, hname],
      by rw [hget, hdeclared], hown.of_extends hnamespaces⟩
  qualifier := h.qualifier
  formModule := by
    obtain ⟨formModule, hstored, hallocated, hid⟩ := h.formModule
    have hget : t.get formModule = s.get formModule := hmodules.get hallocated
    exact ⟨formModule, hstored, hmodules.allocated hallocated, by rw [hget, hid]⟩

/-- Artifacts that are set up for an id that is a text go by the names made of its sanitized form,
and other content models, namespaces and form modules stay. -/
theorem setUpArtifacts_goesBy (settings : Settings) {st : State} {given : String}
    (hid : (st.store.get st.conversion.definition).id = .text given)
    (hdescription : (st.store.get st.conversion.definition).description.IsTextOrAbsent) :
    ∃ next, Listener.setUpArtifacts settings st = (.ok (), next) ∧
      GoesBy (.of (Identifier.sanitize given)) next.conversion next.store ∧
      next.store.contentModels.Extends st.store.contentModels ∧
      next.store.namespaces.Extends st.store.namespaces ∧
      next.store.formModules.Extends st.store.formModules := by
  let id := Identifier.sanitize given
  obtain ⟨entries, hnamed⟩ := artifactId_of_text hid
  obtain ⟨model, own, made, hmake, hmade⟩ :=
    @makeContentModel_made id _ _ _ _ { st with log := st.log ++ entries }
      (RecordClass.contentModel_validate_of_texts (contentModelNameFor (.text id)) hdescription
        (Json.isTextOrAbsent_ofText? settings.modelAuthor)
        (Json.isTextOrAbsent_ofText? settings.modelVersion))
      (RecordClass.modelNamespace_validate_of_text _ id)
  obtain ⟨entry, hmodule⟩ := makeFormModule_apply (.text id) made
  have hmodules : made.store.formModules = st.store.formModules := by rw [hmade.store]
  have hartifacts := congrArg Conversion.artifacts hmade.conversion
  refine ⟨(makeFormModule (.text id) made).2, ?_, ?_, hmade.contentModels, hmade.namespaces, ?_⟩
  · rw [Listener.setUpArtifacts, bind_ok hnamed, bind_ok hmake, bind_ok hmodule, hmodule]
    rfl
  · obtain ⟨own, hdeclared, hown⟩ := hmade.stands.declared
    let blank : FormModule :=
      { id := some (Vocabulary.formModuleId.fill id), configurations := [] }
    have hnew := made.store.formModules.holds_push_next blank
    constructor
    · refine ⟨model, own, ?_, hmade.stands.allocated, hmade.stands.name, hdeclared, hown⟩
      change (made.conversion.artifacts.put _ _).get _ = _
      rw [Registry.get_put_of_ne _ (by decide), hartifacts, Registry.get_put_of_ne _ (by decide),
        Registry.get_put_self]
    · change (made.conversion.artifacts.put _ _).get _ = _
      rw [Registry.get_put_of_ne _ (by decide), hartifacts, Registry.get_put_self]
      rfl
    · exact ⟨_, Registry.get_put_self _ _ _, hnew.1, congrArg FormModule.id hnew.2⟩
  · rw [← hmodules]
    exact .push _ _

/-- For an id that is a text, artifacts are set up exactly if the description is a text or
absent. -/
theorem setUpArtifacts_ok_iff (settings : Settings) {st : State} {given : String}
    (hid : (st.store.get st.conversion.definition).id = .text given) :
    (∃ next, Listener.setUpArtifacts settings st = (.ok (), next)) ↔
      (st.store.get st.conversion.definition).description.IsTextOrAbsent := by
  constructor
  · rintro ⟨next, h⟩
    obtain ⟨entries, hnamed⟩ := artifactId_of_text hid
    obtain ⟨id, named, hchosen, h⟩ := exists_of_bind_ok h
    obtain ⟨made, middle, hmake, -⟩ := exists_of_bind_ok h
    rw [hnamed] at hchosen
    cases hchosen
    rcases makeContentModel_cases _ _ _ _ with ⟨fault, hrefused⟩ | ⟨_, model, own, _, -, -, hmade⟩
    · rw [hrefused] at hmake
      cases hmake
    · rw [← hmade.description]
      exact Json.isTextOrAbsent_ofText? _
  · intro hdescription
    obtain ⟨next, hrun, -⟩ := setUpArtifacts_goesBy settings hid hdescription
    exact ⟨next, hrun⟩

/-! ## Clashes -/

/-- Names made of two ids agree in one place exactly if the ids are the same. -/
theorem artifactNames_tfae (id id' : String) :
    [(ArtifactNames.of id).contentModel = (ArtifactNames.of id').contentModel,
      (ArtifactNames.of id).qualifier = (ArtifactNames.of id').qualifier,
      (ArtifactNames.of id).uri = (ArtifactNames.of id').uri,
      (ArtifactNames.of id).formModule = (ArtifactNames.of id').formModule, id = id'].TFAE := by
  tfae_have 1 ↔ 5 := by
    rw [ArtifactNames.of, ArtifactNames.of, qualifiedName, qualifiedName, String.append_left_inj,
      String.append_left_inj]
  tfae_have 2 ↔ 5 := Iff.rfl
  tfae_have 3 ↔ 5 := (Template.fill_injective Vocabulary.namespaceUri).eq_iff
  tfae_have 4 ↔ 5 := (Template.fill_injective Vocabulary.formModuleId).eq_iff
  tfae_finish

/-- **Artifacts share a name exactly if sanitizing makes the same of their ids.** For a definition
whose id is a text, artifacts are set up exactly if the description is a text or absent. Where they
are set up for two conversions, their content models, short names, namespaces and form modules agree
on one name exactly if they agree on all, and that is if the sanitized ids are the same; for
identifiers it means that the ids are the same. The second conversion may work on the records that
the first one has left, and does not rename them. A qualified name tells its qualifier and the local
name apart. -/
theorem setUpArtifacts_clash_iff (settings settings' : Settings) {st st' : State} {x y : String}
    (hx : (st.store.get st.conversion.definition).id = .text x)
    (hy : (st'.store.get st'.conversion.definition).id = .text y) :
    ((∃ next, Listener.setUpArtifacts settings st = (.ok (), next)) ↔
      (st.store.get st.conversion.definition).description.IsTextOrAbsent) ∧
    ((∃ next', Listener.setUpArtifacts settings' st' = (.ok (), next')) ↔
      (st'.store.get st'.conversion.definition).description.IsTextOrAbsent) ∧
    (∀ next next', Listener.setUpArtifacts settings st = (.ok (), next) →
      Listener.setUpArtifacts settings' st' = (.ok (), next') →
      ∃ names names',
        GoesBy names next.conversion next.store ∧ GoesBy names' next'.conversion next'.store ∧
        (st'.store = next.store → GoesBy names next.conversion next'.store) ∧
        [names.contentModel = names'.contentModel, names.qualifier = names'.qualifier,
          names.uri = names'.uri, names.formModule = names'.formModule,
          Identifier.sanitize x = Identifier.sanitize y].TFAE) ∧
    (x.toList ∈ Identifier.pattern.matches' → y.toList ∈ Identifier.pattern.matches' →
      (Identifier.sanitize x = Identifier.sanitize y ↔ x = y)) ∧
    ∀ p q m n : String, p.toList ∈ Identifier.pattern.matches' →
      q.toList ∈ Identifier.pattern.matches' → qualifiedName p m = qualifiedName q n →
        p = q ∧ m = n := by
  refine ⟨setUpArtifacts_ok_iff settings hx, setUpArtifacts_ok_iff settings' hy, ?_, ?_, ?_⟩
  · intro next next' h h'
    have hdescription := (setUpArtifacts_ok_iff settings hx).1 ⟨next, h⟩
    have hdescription' := (setUpArtifacts_ok_iff settings' hy).1 ⟨next', h'⟩
    obtain ⟨_, hrun, hnames, -⟩ := setUpArtifacts_goesBy settings hx hdescription
    obtain ⟨_, hrun', hnames', hmodels, hnamespaces, hmodules⟩ :=
      setUpArtifacts_goesBy settings' hy hdescription'
    rw [hrun] at h
    rw [hrun'] at h'
    cases h
    cases h'
    refine ⟨_, _, hnames, hnames', ?_, artifactNames_tfae _ _⟩
    intro hsame
    rw [hsame] at hmodels hnamespaces hmodules
    exact hnames.of_extends hmodels hnamespaces hmodules
  · intro hvalid hvalid'
    rw [Identifier.sanitize_eq_self_iff_mem.2 hvalid, Identifier.sanitize_eq_self_iff_mem.2 hvalid']
  · intro p q m n hp hq
    exact qualifiedName_inj hp hq

/-- The ids `Leave Request` and `leave-request` are different, and their artifacts clash. -/
theorem setUpArtifacts_clash_leaveRequest :
    ∃ next next' names names',
      Listener.setUpArtifacts ⟨"INFO", none, none⟩ (conversionOf (.text "Leave Request"))
        = (.ok (), next) ∧
      Listener.setUpArtifacts ⟨"INFO", none, none⟩ (conversionOf (.text "leave-request"))
        = (.ok (), next') ∧
      GoesBy names next.conversion next.store ∧ GoesBy names' next'.conversion next'.store ∧
      names.contentModel = names'.contentModel ∧ names.formModule = names'.formModule := by
  obtain ⟨hok, hok', hclash, -⟩ :=
    @setUpArtifacts_clash_iff ⟨"INFO", none, none⟩ ⟨"INFO", none, none⟩
      (conversionOf (.text "Leave Request")) (conversionOf (.text "leave-request"))
      "Leave Request" "leave-request" rfl rfl
  obtain ⟨next, hrun⟩ := hok.2 (.inl rfl)
  obtain ⟨next', hrun'⟩ := hok'.2 (.inl rfl)
  obtain ⟨names, names', hnames, hnames', -, htfae⟩ := hclash next next' hrun hrun'
  have hsame : Identifier.sanitize "Leave Request" = Identifier.sanitize "leave-request" := by
    decide +kernel
  exact ⟨next, next', names, names', hrun, hrun', hnames, hnames', (htfae.out 0 4).2 hsame,
    (htfae.out 3 4).2 hsame⟩

end Conversion

end WorkflowArtifacts
