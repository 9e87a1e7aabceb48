import WorkflowArtifacts.Proofs.Conversion.Artifacts
import WorkflowArtifacts.Proofs.Identifier.Grammar

/-!
# Sanitizing piece by piece

What sanitizing makes of a text is put together from what it makes of its parts. Lower case alone is
not: the small form of a capital sigma depends on the characters around it. But no small sigma may
stand in an identifier, so each becomes an underscore and the difference is lost. Every character
thus has one image wherever it stands (`image`), and only the very first character of a text is
looked at once more, for the lead.

## Tokens

A generated id is a fixed lead followed by what becomes of a token. The digits, the letters from a
to f and the hyphen, which unique tokens are written in, have different images of one character
each, so different tokens are kept apart.
-/

namespace WorkflowArtifacts.Identifier

/-- What becomes of a text that does not come first: its lower case, with an underscore for every
character that has no place in an identifier. -/
def continuation (text : String) : String :=
  String.ofList ((Text.lower text.toList).map fun c ↦ if c ∈ bodyCharacters then c else '_')

/-! ## The image of a character -/

/-- What becomes of a character, whatever stands around it. -/
def image (c : Char) : List Char :=
  if c = 'Σ' then ['_'] else (Text.lowerChar c).map sanitizeChar

theorem image_ne_nil (c : Char) : image c ≠ [] := by
  rw [image, Text.lowerChar]
  split
  · exact List.cons_ne_nil _ _
  · split <;> exact List.cons_ne_nil _ _

theorem sanitizeChar_smallSigma (before rest : List Char) :
    sanitizeChar (Text.smallSigma before rest) = '_' := by
  rw [Text.smallSigma]
  split <;> decide

/-- Once characters without a place are replaced, no character depends on those around it. -/
theorem map_sanitizeChar_lowerAfter (before text : List Char) :
    (Text.lowerAfter before text).map sanitizeChar = text.flatMap image := by
  induction text generalizing before with
  | nil => rfl
  | cons c rest ih =>
    rw [Text.lowerAfter, List.map_append, ih, List.flatMap_cons, image]
    split
    · rw [List.map_singleton, sanitizeChar_smallSigma]
    · rfl

theorem map_sanitizeChar_lower (text : List Char) :
    (Text.lower text).map sanitizeChar = text.flatMap image :=
  map_sanitizeChar_lowerAfter [] text

theorem sanitizeChars_eq (text : List Char) :
    sanitizeChars text = withLead (text.flatMap image) := by
  rw [sanitizeChars, map_sanitizeChar_lower]

theorem continuation_eq (text : String) :
    continuation text = String.ofList (text.toList.flatMap image) := by
  have hchar : (fun c ↦ if c ∈ bodyCharacters then c else '_') = sanitizeChar := by
    funext c
    rw [sanitizeChar]
    exact if_congr (isBody_iff_mem c).symm rfl rfl
  rw [continuation, hchar, map_sanitizeChar_lower]

/-! ## Parts of a text -/

/-- The lead concerns the first character only. -/
theorem withLead_append {text : List Char} (h : text ≠ []) (more : List Char) :
    withLead (text ++ more) = withLead text ++ more := by
  obtain ⟨c, rest, rfl⟩ := List.exists_cons_of_ne_nil h
  rw [List.cons_append, withLead, withLead]
  split <;> rfl

theorem flatMap_image_ne_nil {text : List Char} (h : text ≠ []) : text.flatMap image ≠ [] := by
  obtain ⟨c, rest, rfl⟩ := List.exists_cons_of_ne_nil h
  rw [List.flatMap_cons]
  exact List.append_ne_nil_of_left_ne_nil (image_ne_nil c) _

theorem sanitizeChars_append {text : List Char} (h : text ≠ []) (more : List Char) :
    sanitizeChars (text ++ more) = sanitizeChars text ++ more.flatMap image := by
  rw [sanitizeChars_eq, sanitizeChars_eq, List.flatMap_append,
    withLead_append (flatMap_image_ne_nil h)]

theorem sanitize_append {a : String} (h : a ≠ "") (b : String) :
    sanitize (a ++ b) = sanitize a ++ continuation b := by
  have hne : a.toList ≠ [] := fun hnil ↦ h (String.toList_inj.1 hnil)
  rw [sanitize, sanitize, continuation_eq, String.toList_append, sanitizeChars_append hne,
    String.ofList_append]

theorem continuation_append (b c : String) :
    continuation (b ++ c) = continuation b ++ continuation c := by
  rw [continuation_eq, continuation_eq, continuation_eq, String.toList_append, List.flatMap_append,
    String.ofList_append]

/-! ## Tokens -/

/-- The characters that unique tokens are written in. -/
def tokenCharacters : List Char := "0123456789abcdef-".toList

/-- The texts of such characters. -/
def tokenTexts : Set String := {token | ∀ c ∈ token.toList, c ∈ tokenCharacters}

theorem image_of_mem_tokenCharacters : ∀ c ∈ tokenCharacters, image c = [sanitizeChar c] := by
  rw [← List.map_inj_left]
  decide +kernel

theorem sanitizeChar_injOn : Set.InjOn sanitizeChar {c | c ∈ tokenCharacters} := by
  have hnodup : (tokenCharacters.map sanitizeChar).Nodup := by decide
  intro c hc d hd
  exact List.inj_on_of_nodup_map hnodup hc hd

theorem flatMap_image_of_token {text : List Char} (h : ∀ c ∈ text, c ∈ tokenCharacters) :
    text.flatMap image = text.map sanitizeChar := by
  rw [List.map_eq_flatMap]
  exact List.flatMap_congr fun c hc ↦ image_of_mem_tokenCharacters c (h c hc)

theorem eq_of_map_eq_map {α β : Type} {f : α → β} {p : α → Prop} (hf : Set.InjOn f {x | p x})
    {xs ys : List α} (hxs : ∀ x ∈ xs, p x) (hys : ∀ y ∈ ys, p y) (h : xs.map f = ys.map f) :
    xs = ys := by
  induction xs generalizing ys with
  | nil => exact (List.map_eq_nil_iff.1 h.symm).symm
  | cons x xs ih =>
    obtain ⟨y, rest, rfl, hfirst, hrest⟩ := List.map_eq_cons_iff.1 h.symm
    rw [List.forall_mem_cons] at hxs hys
    rw [hf hxs.1 hys.1 hfirst.symm, ih hxs.2 hys.2 hrest.symm]

theorem continuation_injOn : Set.InjOn continuation tokenTexts := by
  intro s hs t ht h
  rw [continuation_eq, continuation_eq, String.ofList_inj, flatMap_image_of_token hs,
    flatMap_image_of_token ht] at h
  exact String.toList_inj.1 (eq_of_map_eq_map sanitizeChar_injOn hs ht h)

end WorkflowArtifacts.Identifier

namespace WorkflowArtifacts.Conversion

open Identifier (sanitize continuation tokenTexts)

/-- A generated id is the lead of generated ids and what becomes of the token. -/
theorem idOfToken_eq (token : String) : idOfToken token = "process" ++ continuation token := by
  have hlead : sanitize "process" = "process" :=
    (Identifier.sanitize_eq_self_iff _).2 (by decide)
  rw [idOfToken, Vocabulary.generatedIdLead, Identifier.sanitize_append (by decide), hlead]

theorem generateId_ok {st next : State} {id : String} (h : generateId st = (.ok id, next)) :
    id = "process" ++ continuation st.tokens.next.1 := by
  rcases hprocess : st.conversion.process with _ | process
  · let taken : State := { st with tokens := st.tokens.next.2 }
    have htaken : taken.conversion.process = none := hprocess
    rw [generateId, bind_ok (takeToken_apply st), bind_error (requireProcess_of_none htaken _)] at h
    cases h
  · obtain ⟨entry, hrun⟩ := generateId_apply hprocess
    rw [hrun] at h
    cases h
    exact idOfToken_eq _

/-- **Generated ids are as different as their tokens.** What sanitizing makes of a text is what it
makes of the first part, followed by what becomes of the rest, part by part. So a generated id is
the lead of generated ids and what becomes of the token, and ids that are generated from different
tokens of digits, letters from a to f and hyphens are different. -/
theorem generateId_distinct :
    (∀ a b : String, a ≠ "" → sanitize (a ++ b) = sanitize a ++ continuation b) ∧
    (∀ b c : String, continuation (b ++ c) = continuation b ++ continuation c) ∧
    (∀ st : State, (st.store.get st.conversion.definition).id = .null →
      artifactId st = generateId st) ∧
    (∀ (st : State) (process : Ref Process), st.conversion.process = some process →
      ∃ next, generateId st = (.ok ("process" ++ continuation st.tokens.next.1), next)) ∧
    (∀ (st next : State) (id : String), generateId st = (.ok id, next) →
      id = "process" ++ continuation st.tokens.next.1) ∧
    ∀ (st st' next next' : State) (id id' : String), generateId st = (.ok id, next) →
      generateId st' = (.ok id', next') → st.tokens.next.1 ∈ tokenTexts →
      st'.tokens.next.1 ∈ tokenTexts → st.tokens.next.1 ≠ st'.tokens.next.1 → id ≠ id' := by
  refine ⟨fun a b h ↦ Identifier.sanitize_append h b, Identifier.continuation_append, ?_, ?_,
    fun st next id ↦ generateId_ok, ?_⟩
  · intro st hid
    rw [artifactId, bind_ok (currentDefinition_apply st), hid]
  · intro st process hprocess
    obtain ⟨entry, hrun⟩ := generateId_apply hprocess
    rw [idOfToken_eq] at hrun
    exact ⟨_, hrun⟩
  · intro st st' next next' id id' h h' htoken htoken' hne heq
    rw [generateId_ok h, generateId_ok h', String.append_right_inj] at heq
    exact hne (Identifier.continuation_injOn htoken htoken' heq)

/-- Tokens of other characters may come to the same id. -/
example : idOfToken "1-a" = "process1_a" ∧ idOfToken "1_A" = "process1_a" := by decide +kernel

end WorkflowArtifacts.Conversion
