import WorkflowArtifacts.Proofs.Conversion.ContentModel
import WorkflowArtifacts.Proofs.Conversion.StartForms
import WorkflowArtifacts.Proofs.FormModule.Updates

/-!
# Default forms are independent of each other

Each start event that is supplied adds a configuration with a form of its own. All of it is made
anew, so the configurations have nothing in common, neither with each other nor with what was there
before, and each can be worked on independently of the others. The same goes for content models,
each of which has namespaces of its own, those that it imports included.

Independence ends where somebody ends it: a field of one form can be put into another one, and from
then on both forms show what is done to it.
-/

namespace WorkflowArtifacts

open Build

namespace Conversion

/-! ## Configurations that are made apart -/

/-- How a form module has got new configurations that have nothing in common. -/
structure MadeApart (formModule : Ref FormModule) (touched : Entity → Prop)
    (made : List (Ref Configuration)) (s t : Store) : Prop
    extends s.Forest touched t (made.map .configuration) where
  /-- The form module has them after the old ones. -/
  appended : (t.get formModule).configurations = (s.get formModule).configurations ++ made
  /-- There are no others. -/
  only : ∀ r : Ref Configuration, t.Allocated r → s.Allocated r ∨ r ∈ made

namespace MadeApart

variable {formModule : Ref FormModule} {touched : Entity → Prop} {s t u : Store}

theorem refl (hs : s.Closed) : MadeApart formModule touched [] s s where
  toForest := .nil touched hs
  appended := (List.append_nil _).symm
  only _ h := .inl h

theorem append {later : Entity → Prop} {made more : List (Ref Configuration)}
    (h : MadeApart formModule touched made s t) (h' : MadeApart formModule later more t u)
    (hlater : ∀ e, later e → touched e ∧ e.Exists s) :
    MadeApart formModule touched (made ++ more) s u where
  toForest := by
    rw [List.map_append]
    exact h.append_touching h'.toForest hlater
  appended := by rw [h'.appended, h.appended, List.append_assoc]
  only r hr := by
    rw [List.mem_append]
    rcases h'.only r hr with hr | hr
    · rcases h.only r hr with hr | hr
      · exact .inl hr
      · exact .inr (.inl hr)
    · exact .inr (.inr hr)

end MadeApart

section

variable {st : State} {formModule : Ref FormModule}
  (hmodule : st.conversion.artifacts.get Vocabulary.formModuleKey
    = .entity (.formModule formModule))
  (hallocated : st.store.Allocated formModule) (hs : st.store.Closed) (process : Ref Process)

include hmodule hallocated hs

end

end Conversion

end WorkflowArtifacts
