import Mathlib.Data.List.Pairwise
import WorkflowArtifacts.Proofs.Schema.DeclaredKeys

/-!
# Issues point at the document

The place of an issue is the way to it through the shape. It is nearly a way through the document:
only the tag that follows a member of a union is no step in there (`Shape.untag`). So a place leads
to a part of the document, and what the issue says is true of that part (`Json.Faulty`). A missing
entry is the exception. It has no value, so its place leads to the object that lacks it.

Issues come in the order of the shape. At the first level at which two places part, one goes on to
an earlier field or to an earlier item than the other (`Shape.Precedes`). Two such places neither
lead to the same part nor one into the part that the other one leads to, so no part of a document
is reported twice.

## Places with and without tags

Precedence is about places as they are reported, whereas parts are found without tags. What connects
the two is that places agree in a tag or part before it, so that they part without tags as well
(`Shape.Precedes.parted_untag`).
-/

namespace WorkflowArtifacts

open Schema

/-! ## Parts of documents -/

/-- The part of a document that a place leads to. -/
def Json.partAt? : Json → List Step → Option Json
  | j, [] => some j
  | j, .key key :: others => (j.get? key).bind (·.partAt? others)
  | j, .index i :: others => j.items[i]?.bind (·.partAt? others)

namespace Schema

/-- Whether a reason to refuse a value is a true statement about it. A missing entry has no value
that anything could be said about. -/
def Reason.Applies : Reason → Json → Prop
  | .notText, j => ∀ text, j ≠ .text text
  | .notFlag, j => readFlag j = .error .notFlag
  | .unreadableFlag, j => readFlag j = .error .unreadableFlag
  | .notList, j => ∀ items, j ≠ .array items
  | .notDictionary, j | .notRecord _, j | .notTagged, j => ∀ entries, j ≠ .object entries
  | .missing, _ => False
  | .otherLiteral tag, j => j ≠ .text tag.value
  | .noTag key, j => ∃ entries, j = .object entries ∧ entries.lookup key = none
  | .unknownTag key found known, j =>
    ∃ entries value, j = .object entries ∧ entries.lookup key = some value ∧
      found = value.display ∧ ∀ tag ∈ known, value ≠ .text tag.value

end Schema

/-- Whether something is the matter with a document at a place. -/
inductive Json.Faulty (j : Json) : List Step → Reason → Prop
  /-- The part there is refused for a reason that applies to it. -/
  | value {place : List Step} {reason : Reason} {part : Json} (hpart : j.partAt? place = some part)
    (h : reason.Applies part) : Faulty j place reason
  /-- The object there lacks an entry. -/
  | missing {owner : List Step} {key : String} {entries : List (String × Json)}
    (howner : j.partAt? owner = some (.object entries)) (h : entries.lookup key = none) :
    Faulty j (owner ++ [.key key]) .missing

namespace Json.Faulty

variable {j : Json} {place : List Step} {reason : Reason}

/-- What is the matter with a part of a document is the matter with the document. -/
theorem of_part {part : Json} {step : Step}
    (hpart : ∀ others, j.partAt? (step :: others) = part.partAt? others)
    (h : part.Faulty place reason) : j.Faulty (step :: place) reason := by
  cases h with
  | value hvalue happlies =>
    refine .value ?_ happlies
    rwa [hpart]
  | @missing owner key entries howner hnone =>
    have howner' : j.partAt? (step :: owner) = some (.object entries) := by rwa [hpart]
    exact .missing howner' hnone

theorem of_entry {entries : List (String × Json)} {key : String} {part : Json}
    (hpart : entries.lookup key = some part) (h : part.Faulty place reason) :
    (Json.object entries).Faulty (.key key :: place) reason := by
  refine of_part (fun others ↦ ?_) h
  rw [partAt?, get?, Json.entries, hpart, Option.bind_some]

theorem of_item {items : List Json} {i : Nat} {part : Json} (hpart : items[i]? = some part)
    (h : part.Faulty place reason) : (Json.array items).Faulty (.index i :: place) reason := by
  refine of_part (fun others ↦ ?_) h
  rw [partAt?, Json.items, hpart, Option.bind_some]

/-- What is the matter with an object that lacks an entry. -/
theorem of_lacking {entries : List (String × Json)} {key : String}
    (h : entries.lookup key = none) : (Json.object entries).Faulty [.key key] .missing := by
  have howner : (Json.object entries).partAt? [] = some (.object entries) := rfl
  exact .missing howner h

/-- What is the matter with a document as a whole. -/
theorem here (h : reason.Applies j) : j.Faulty [] reason := .value rfl h

end Json.Faulty

namespace Schema

/-! ## Places without tags -/

mutual

/-- A place as a way through the document, without the tags of members of unions. -/
def Shape.untag : Shape → List Step → List Step
  | .nullable inner, place => inner.untag place
  | .list item, place =>
    match place with
    | step :: others => step :: item.untag others
    | [] => []
  | .record _ fields, place => fields.untag place
  | .variants _ branches, place =>
    match place with
    | .key tag :: others => branches.untag tag others
    | _ => place
  | .text, place | .flag, place | .document, place | .literal _, place => place

/-- A place in a record as a way through the object. -/
def Fields.untag : Fields → List Step → List Step
  | .nil, place => place
  | .cons spec shape rest, place =>
    match place with
    | .key key :: others =>
      if key ∈ spec.keys then .key key :: shape.untag others else rest.untag place
    | _ => place

/-- A place in an object with a tag as a way through the object. -/
def Branches.untag (tag : String) : Branches → List Step → List Step
  | .nil, place => place
  | .cons first fields rest, place =>
    if first.value = tag then fields.untag place else rest.untag tag place

end

theorem Fields.untag_nil : ∀ fields : Fields, fields.untag [] = []
  | .nil | .cons _ _ _ => rfl

theorem Shape.untag_nil : ∀ shape : Shape, shape.untag [] = []
  | .nullable inner => inner.untag_nil
  | .record _ fields => fields.untag_nil
  | .list _ | .variants _ _ | .text | .flag | .document | .literal _ => rfl

/-- The first step into a record stays. -/
theorem Fields.exists_untag_key (key : String) (others : List Step) : ∀ fields : Fields,
    ∃ inside, fields.untag (.key key :: others) = .key key :: inside
  | .nil => ⟨others, rfl⟩
  | .cons spec shape rest => by
    rw [untag]
    split
    · exact ⟨_, rfl⟩
    · exact exists_untag_key key others rest

section

variable {spec : FieldSpec} {shape : Shape} {rest : Fields} {key : String}

theorem Fields.untag_key_of_mem (h : key ∈ spec.keys) (others : List Step) :
    (cons spec shape rest).untag (.key key :: others) = .key key :: shape.untag others := by
  rw [untag, if_pos h]

theorem Fields.untag_key_of_notMem (h : key ∉ spec.keys) (others : List Step) :
    (cons spec shape rest).untag (.key key :: others) = rest.untag (.key key :: others) := by
  rw [untag, if_neg h]

theorem Branches.untag_of_select? {branches : Branches} {found : Json} {tag : Tag} {fields : Fields}
    {place : List Step} (h : branches.select? found = some (tag, fields)) :
    branches.untag tag.value place = fields.untag place := by
  refine select?_induction h (fun rest _ ↦ ?_) fun first others rest htag ih ↦ ?_
  · rw [untag, if_pos rfl]
  · rw [untag, if_neg (value_ne_of_not_isWritten h htag), ih]

end

mutual

/-- A longer place is a longer way through the document, or the same one. -/
theorem Shape.untag_prefix : ∀ {shape : Shape} {p q : List Step}, p <+: q →
    shape.untag p <+: shape.untag q
  | .text, _, _, h | .flag, _, _, h | .document, _, _, h | .literal _, _, _, h => h
  | .nullable inner, p, q, h => by
    have hinner : inner.untag p <+: inner.untag q := Shape.untag_prefix h
    exact hinner
  | .list item, [], q, _ => List.nil_prefix
  | .list item, step :: p, [], h => absurd (List.prefix_nil.1 h) (List.cons_ne_nil _ _)
  | .list item, step :: p, other :: q, h => by
    obtain ⟨rfl, hothers⟩ := List.cons_prefix_cons.1 h
    exact List.cons_prefix_cons.2 ⟨rfl, Shape.untag_prefix hothers⟩
  | .record _ fields, p, q, h => Fields.untag_prefix h
  | .variants _ branches, [], q, _ => List.nil_prefix
  | .variants _ branches, step :: p, [], h => absurd (List.prefix_nil.1 h) (List.cons_ne_nil _ _)
  | .variants _ branches, step :: p, other :: q, h => by
    obtain ⟨rfl, hothers⟩ := List.cons_prefix_cons.1 h
    cases step with
    | key tag => exact Branches.untag_prefix hothers
    | index i => exact h

theorem Fields.untag_prefix : ∀ {fields : Fields} {p q : List Step}, p <+: q →
    fields.untag p <+: fields.untag q
  | .nil, _, _, h => h
  | .cons spec shape rest, [], q, _ => List.nil_prefix
  | .cons spec shape rest, step :: p, [], h =>
    absurd (List.prefix_nil.1 h) (List.cons_ne_nil _ _)
  | .cons spec shape rest, step :: p, other :: q, h => by
    obtain ⟨rfl, hothers⟩ := List.cons_prefix_cons.1 h
    cases step with
    | key key =>
      rw [Fields.untag, Fields.untag]
      split
      · exact List.cons_prefix_cons.2 ⟨rfl, Shape.untag_prefix hothers⟩
      · exact Fields.untag_prefix h
    | index i => exact h

theorem Branches.untag_prefix : ∀ {branches : Branches} {tag : String} {p q : List Step},
    p <+: q → branches.untag tag p <+: branches.untag tag q
  | .nil, _, _, _, h => h
  | .cons first fields rest, tag, p, q, h => by
    rw [Branches.untag, Branches.untag]
    split
    · exact Fields.untag_prefix h
    · exact Branches.untag_prefix h

end

/-! ## Issues lead to what is the matter -/

theorem wordFlag_eq_error {word : String} {reason : Reason} (h : wordFlag word = .error reason) :
    reason = .unreadableFlag := by
  unfold wordFlag at h
  dsimp only at h
  split at h
  · cases h
  split at h
  · cases h
  · cases h
    rfl

theorem numberFlag_eq_error {readable : Int → Bool} {n : Int} {reason : Reason}
    (h : numberFlag readable n = .error reason) :
    reason = .notFlag ∨ reason = .unreadableFlag := by
  unfold numberFlag at h
  split at h
  · cases h
  split at h
  · cases h
  split at h
  · cases h
    exact .inr rfl
  · cases h
    exact .inl rfl

/-- What cannot be read as a truth value is refused for one of two reasons. -/
theorem readFlag_eq_error {j : Json} {reason : Reason} (h : readFlag j = .error reason) :
    reason = .notFlag ∨ reason = .unreadableFlag := by
  unfold readFlag at h
  split at h
  · cases h
  · exact .inr (wordFlag_eq_error h)
  · exact numberFlag_eq_error h
  · split at h
    · exact numberFlag_eq_error h
    · cases h
      exact .inl rfl
  · cases h
    exact .inl rfl

theorem Reason.applies_of_readFlag {j : Json} {reason : Reason} (h : readFlag j = .error reason) :
    reason.Applies j := by
  rcases readFlag_eq_error h with rfl | rfl
  · exact h
  · exact h

/-- An object of no known class has none of the tags. -/
theorem Branches.ne_of_select?_eq_none {found : Json} : ∀ {branches : Branches},
    branches.select? found = none → ∀ tag ∈ branches.tags, found ≠ .text tag.value
  | .nil, _, tag, htag => absurd htag List.not_mem_nil
  | .cons first fields rest, h, tag, htag => by
    rw [select?] at h
    split at h
    · cases h
    · next hfirst =>
      rcases List.mem_cons.1 htag with rfl | htag
      · exact mt Tag.isWritten_iff.2 hfirst
      · exact ne_of_select?_eq_none h tag htag

mutual

/-- What a shape reports of a document is the matter with it. -/
theorem Shape.faulty_of_mem_issues : ∀ {shape : Shape} {j : Json}, shape.isUnambiguous = true →
    ∀ issue ∈ shape.issues j, j.Faulty (shape.untag issue.path) issue.reason
  | .text, j, _, issue, hissue => by
    rcases j with _ | _ | _ | _ | _ | _
    case text => cases hissue
    all_goals
      obtain rfl := List.mem_singleton.1 hissue
      exact .here nofun
  | .flag, j, _, issue, hissue => by
    rw [Shape.issues] at hissue
    rcases hread : readFlag j with reason | b
    · simp only [hread] at hissue
      obtain rfl := List.mem_singleton.1 hissue
      exact .here (Reason.applies_of_readFlag hread)
    · simp only [hread] at hissue
      cases hissue
  | .document, j, _, issue, hissue => by
    rcases j with _ | _ | _ | _ | _ | _
    case object => cases hissue
    all_goals
      obtain rfl := List.mem_singleton.1 hissue
      exact .here nofun
  | .literal tag, j, _, issue, hissue => by
    rw [Shape.issues] at hissue
    split at hissue
    · cases hissue
    · next htag =>
      obtain rfl := List.mem_singleton.1 hissue
      exact .here (mt Tag.isWritten_iff.2 htag)
  | .nullable inner, j, h, issue, hissue => by
    have hinner : inner.isUnambiguous = true := h
    rw [Shape.issues] at hissue
    split at hissue
    · cases hissue
    · exact Shape.faulty_of_mem_issues hinner issue hissue
  | .list item, j, h, issue, hissue => by
    have hitem : item.isUnambiguous = true := h
    rcases j with _ | _ | _ | _ | items | _
    case array =>
      rw [Shape.issues, List.mem_flatMap] at hissue
      obtain ⟨⟨x, i⟩, hx, hissue⟩ := hissue
      obtain ⟨inner, hinner, rfl⟩ := List.mem_map.1 hissue
      exact .of_item (List.mk_mem_zipIdx_iff_getElem?.1 hx)
        (Shape.faulty_of_mem_issues hitem inner hinner)
    all_goals
      obtain rfl := List.mem_singleton.1 hissue
      exact .here nofun
  | .record title fields, j, h, issue, hissue => by
    have hfields : fields.isUnambiguous = true := h
    rcases j with _ | _ | _ | _ | _ | entries
    case object => exact Fields.faulty_of_mem_issues hfields issue hissue
    all_goals
      obtain rfl := List.mem_singleton.1 hissue
      rw [Issue.path_here, Shape.untag_nil]
      exact .here nofun
  | .variants key branches, j, h, issue, hissue => by
    have hbranches : branches.isUnambiguous key = true := h
    rcases j with _ | _ | _ | _ | _ | entries
    case object =>
      rw [Shape.issues] at hissue
      rcases hfound : entries.lookup key with _ | found
      · simp only [hfound] at hissue
        obtain rfl := List.mem_singleton.1 hissue
        exact .here ⟨entries, rfl, hfound⟩
      simp only [hfound] at hissue
      rcases hselect : branches.select? found with _ | ⟨tag, fields⟩
      · rw [Branches.issues_of_select?_eq_none hselect] at hissue
        obtain rfl := List.mem_singleton.1 hissue
        exact .here ⟨entries, found, rfl, hfound, rfl, Branches.ne_of_select?_eq_none hselect⟩
      · rw [Branches.issues_of_select? hselect] at hissue
        obtain ⟨inner, hinner, rfl⟩ := List.mem_map.1 hissue
        -- the tag is not a step in the object, so the place is one in the selected class
        rw [Issue.path_under, Issue.reason_under, Shape.untag, Branches.untag_of_select? hselect]
        exact Branches.faulty_of_mem_issues hbranches hselect inner hinner
    all_goals
      obtain rfl := List.mem_singleton.1 hissue
      exact .here nofun

theorem Fields.faulty_of_mem_issues : ∀ {fields : Fields} {entries : List (String × Json)},
    fields.isUnambiguous = true → ∀ issue ∈ fields.issues entries,
      (Json.object entries).Faulty (fields.untag issue.path) issue.reason
  | .nil, _, _, _, hissue => by cases hissue
  | .cons spec shape rest, entries, h, issue, hissue => by
    obtain ⟨hkeys, hshape, hrest⟩ := Fields.isUnambiguous_cons.1 h
    rw [Fields.issues, List.mem_append] at hissue
    rcases hissue with hissue | hissue
    · rcases hfind : spec.find? entries with _ | ⟨key, value⟩
      · simp only [hfind] at hissue
        split at hissue
        · cases hissue
        · obtain rfl := List.mem_singleton.1 hissue
          have hwritten : spec.writtenName ∈ spec.keys := spec.writtenName_mem_keys
          rw [Issue.path_under, Issue.path_here, Fields.untag_key_of_mem hwritten, shape.untag_nil]
          exact .of_lacking (FieldSpec.lookup_eq_none_of_find? hfind hwritten)
      · simp only [hfind] at hissue
        obtain ⟨inner, hinner, rfl⟩ := List.mem_map.1 hissue
        rw [Issue.path_under, Fields.untag_key_of_mem (FieldSpec.mem_keys_of_find? hfind)]
        exact .of_entry (FieldSpec.find?_eq_some_iff.1 hfind).1
          (Shape.faulty_of_mem_issues hshape inner hinner)
    · obtain ⟨key, others, hpath, hkey⟩ := Fields.path_of_mem_issues hissue
      have hother : key ∉ spec.keys := fun hmem ↦ hkeys key hmem hkey
      rw [hpath, Fields.untag_key_of_notMem hother, ← hpath]
      exact Fields.faulty_of_mem_issues hrest issue hissue

theorem Branches.faulty_of_mem_issues : ∀ {branches : Branches} {key : String} {found : Json}
    {tag : Tag} {fields : Fields} {entries : List (String × Json)},
    branches.isUnambiguous key = true → branches.select? found = some (tag, fields) →
      ∀ issue ∈ fields.issues entries,
        (Json.object entries).Faulty (fields.untag issue.path) issue.reason
  | .cons first _ rest, key, found, _, _, entries, h, hselect => by
    obtain ⟨-, hfields, hrest⟩ := Branches.isUnambiguous_cons.1 h
    rw [Branches.select?] at hselect
    split at hselect
    · cases hselect
      exact Fields.faulty_of_mem_issues hfields
    · exact Branches.faulty_of_mem_issues hrest hselect

end

/-! ## The order of places -/

mutual

/-- Whether a place comes before another one. The two agree up to some level, and there the first
one goes on to an earlier field of a record or to an earlier item of an array. -/
def Shape.Precedes : Shape → List Step → List Step → Prop
  | .nullable inner, p, q => inner.Precedes p q
  | .list item, p, q =>
    ∃ i k inside inside', p = .index i :: inside ∧ q = .index k :: inside' ∧
      (i < k ∨ i = k ∧ item.Precedes inside inside')
  | .record _ fields, p, q => fields.Precedes p q
  | .variants _ branches, p, q =>
    ∃ tag inside inside', p = .key tag :: inside ∧ q = .key tag :: inside' ∧
      branches.Precedes tag inside inside'
  | .text, _, _ | .flag, _, _ | .document, _, _ | .literal _, _, _ => False

/-- Whether a place in a record comes before another one: inside of the same field, or because it is
in an earlier field. -/
def Fields.Precedes : Fields → List Step → List Step → Prop
  | .nil, _, _ => False
  | .cons spec shape rest, p, q =>
    (∃ key ∈ spec.keys, ∃ inside inside', p = .key key :: inside ∧ q = .key key :: inside' ∧
      shape.Precedes inside inside') ∨
    (∃ key ∈ spec.keys, ∃ key' ∈ rest.keys, ∃ inside inside', p = .key key :: inside ∧
      q = .key key' :: inside') ∨
    rest.Precedes p q

/-- Whether a place in an object with a tag comes before another one. -/
def Branches.Precedes (tag : String) : Branches → List Step → List Step → Prop
  | .nil, _, _ => False
  | .cons first fields rest, p, q =>
    if first.value = tag then fields.Precedes p q else rest.Precedes tag p q

end

/-- Only places that start with names of fields come before one another in a record. -/
theorem Fields.Precedes.exists_keys {p q : List Step} : ∀ {fields : Fields}, fields.Precedes p q →
    ∃ key ∈ fields.keys, ∃ key' ∈ fields.keys, ∃ inside inside',
      p = .key key :: inside ∧ q = .key key' :: inside'
  | .cons spec shape rest, h => by
    rw [keys]
    rcases h with ⟨key, hkey, inside, inside', hp, hq, -⟩ |
      ⟨key, hkey, key', hkey', inside, inside', hp, hq⟩ | h
    · have hmem := List.mem_append_left rest.keys hkey
      exact ⟨key, hmem, key, hmem, inside, inside', hp, hq⟩
    · exact ⟨key, List.mem_append_left _ hkey, key', List.mem_append_right _ hkey', inside, inside',
        hp, hq⟩
    · obtain ⟨key, hkey, key', hkey', hplaces⟩ := exists_keys h
      exact ⟨key, List.mem_append_right _ hkey, key', List.mem_append_right _ hkey', hplaces⟩

theorem Branches.precedes_of_select? {branches : Branches} {found : Json} {tag : Tag}
    {fields : Fields} {p q : List Step} (h : branches.select? found = some (tag, fields)) :
    branches.Precedes tag.value p q ↔ fields.Precedes p q := by
  refine select?_induction h (fun rest _ ↦ ?_) fun first others rest htag ih ↦ ?_
  · rw [Precedes, if_pos rfl]
  · rw [Precedes, if_neg (value_ne_of_not_isWritten h htag), ih]

theorem pairwise_snd_zipIdx (xs : List Json) : xs.zipIdx.Pairwise fun x y ↦ x.2 < y.2 := by
  rw [← List.pairwise_map (f := Prod.snd) (R := (· < ·)), List.zipIdx_map_snd]
  exact List.pairwise_lt_range'

mutual

/-- Issues come in the order of their places. -/
theorem Shape.pairwise_precedes_issues : ∀ {shape : Shape} {j : Json}, shape.isUnambiguous = true →
    (shape.issues j).Pairwise fun first second ↦ shape.Precedes first.path second.path
  | .text, j, _ => by rcases j with _ | _ | _ | _ | _ | _ <;> simp [Shape.issues]
  | .flag, j, _ => by
    rw [Shape.issues]
    split
    · exact .nil
    · exact List.pairwise_singleton _ _
  | .document, j, _ => by rcases j with _ | _ | _ | _ | _ | _ <;> simp [Shape.issues]
  | .literal tag, j, _ => by
    rw [Shape.issues]
    split
    · exact .nil
    · exact List.pairwise_singleton _ _
  | .nullable inner, j, h => by
    have hinner : inner.isUnambiguous = true := h
    rw [Shape.issues]
    split
    · exact .nil
    · exact Shape.pairwise_precedes_issues hinner
  | .list item, j, h => by
    have hitem : item.isUnambiguous = true := h
    rcases j with _ | _ | _ | _ | items | _
    case array =>
      rw [Shape.issues, List.pairwise_flatMap]
      refine ⟨fun ⟨x, i⟩ _ ↦ ?_, (pairwise_snd_zipIdx items).imp ?_⟩
      · rw [List.pairwise_map]
        exact (Shape.pairwise_precedes_issues hitem).imp fun hinside ↦
          ⟨i, i, _, _, rfl, rfl, .inr ⟨rfl, hinside⟩⟩
      · intro x y hlt first hfirst second hsecond
        obtain ⟨first, -, rfl⟩ := List.mem_map.1 hfirst
        obtain ⟨second, -, rfl⟩ := List.mem_map.1 hsecond
        exact ⟨x.2, y.2, _, _, rfl, rfl, .inl hlt⟩
    all_goals exact List.pairwise_singleton _ _
  | .record title fields, j, h => by
    have hfields : fields.isUnambiguous = true := h
    rcases j with _ | _ | _ | _ | _ | entries
    case object => exact Fields.pairwise_precedes_issues hfields
    all_goals exact List.pairwise_singleton _ _
  | .variants key branches, j, h => by
    have hbranches : branches.isUnambiguous key = true := h
    rcases j with _ | _ | _ | _ | _ | entries
    case object =>
      rw [Shape.issues]
      rcases hfound : entries.lookup key with _ | found
      · exact List.pairwise_singleton _ _
      simp only
      rcases hselect : branches.select? found with _ | ⟨tag, fields⟩
      · rw [Branches.issues_of_select?_eq_none hselect]
        exact List.pairwise_singleton _ _
      · rw [Branches.issues_of_select? hselect, List.pairwise_map]
        refine (Branches.pairwise_precedes_issues hbranches hselect).imp fun hinside ↦ ?_
        exact ⟨tag.value, _, _, rfl, rfl, (Branches.precedes_of_select? hselect).2 hinside⟩
    all_goals exact List.pairwise_singleton _ _

theorem Fields.pairwise_precedes_issues : ∀ {fields : Fields} {entries : List (String × Json)},
    fields.isUnambiguous = true →
      (fields.issues entries).Pairwise fun first second ↦ fields.Precedes first.path second.path
  | .nil, _, _ => .nil
  | .cons spec shape rest, entries, h => by
    obtain ⟨hkeys, hshape, hrest⟩ := Fields.isUnambiguous_cons.1 h
    have hothers : (rest.issues entries).Pairwise fun first second ↦
        (Fields.cons spec shape rest).Precedes first.path second.path :=
      (Fields.pairwise_precedes_issues hrest).imp fun hlater ↦ .inr (.inr hlater)
    -- what an issue of this field has in front of one of the others
    have hearlier : ∀ key ∈ spec.keys, ∀ inside, ∀ second ∈ rest.issues entries,
        (Fields.cons spec shape rest).Precedes (.key key :: inside) second.path := by
      intro key hkey inside second hsecond
      obtain ⟨key', inside', hpath, hkey'⟩ := Fields.path_of_mem_issues hsecond
      exact .inr (.inl ⟨key, hkey, key', hkey', inside, inside', rfl, hpath⟩)
    rw [Fields.issues]
    rcases hfind : spec.find? entries with _ | ⟨key, value⟩
    · simp only
      split
      · exact hothers
      · exact List.pairwise_cons.2 ⟨hearlier _ spec.writtenName_mem_keys _, hothers⟩
    · have hkey := FieldSpec.mem_keys_of_find? hfind
      refine List.pairwise_append.2 ⟨?_, hothers, ?_⟩
      · rw [List.pairwise_map]
        exact (Shape.pairwise_precedes_issues hshape).imp fun hinside ↦
          .inl ⟨key, hkey, _, _, rfl, rfl, hinside⟩
      · intro first hfirst
        obtain ⟨first, -, rfl⟩ := List.mem_map.1 hfirst
        exact hearlier key hkey _

theorem Branches.pairwise_precedes_issues : ∀ {branches : Branches} {key : String} {found : Json}
    {tag : Tag} {fields : Fields} {entries : List (String × Json)},
    branches.isUnambiguous key = true → branches.select? found = some (tag, fields) →
      (fields.issues entries).Pairwise fun first second ↦ fields.Precedes first.path second.path
  | .cons first _ rest, key, found, _, _, entries, h, hselect => by
    obtain ⟨-, hfields, hrest⟩ := Branches.isUnambiguous_cons.1 h
    rw [Branches.select?] at hselect
    split at hselect
    · cases hselect
      exact Fields.pairwise_precedes_issues hfields
    · exact Branches.pairwise_precedes_issues hrest hselect

end

/-! ## Places that part -/

/-- Whether neither of two places leads to where the other one does or further. -/
def Parted (p q : List Step) : Prop := ¬ p <+: q ∧ ¬ q <+: p

theorem Parted.symm {p q : List Step} (h : Parted p q) : Parted q p := ⟨h.2, h.1⟩

theorem Parted.of_ne {step other : Step} (h : step ≠ other) (p q : List Step) :
    Parted (step :: p) (other :: q) :=
  ⟨fun hprefix ↦ h (List.cons_prefix_cons.1 hprefix).1,
    fun hprefix ↦ h (List.cons_prefix_cons.1 hprefix).1.symm⟩

theorem Parted.cons {p q : List Step} (h : Parted p q) (step : Step) :
    Parted (step :: p) (step :: q) :=
  ⟨fun hprefix ↦ h.1 (List.cons_prefix_cons.1 hprefix).2,
    fun hprefix ↦ h.2 (List.cons_prefix_cons.1 hprefix).2⟩

mutual

/-- A place that comes before another one parts from it on the way through the document. -/
theorem Shape.Precedes.parted_untag : ∀ {shape : Shape} {p q : List Step},
    shape.isUnambiguous = true → shape.Precedes p q → Parted (shape.untag p) (shape.untag q)
  | .nullable inner, p, q, h, hprecedes => by
    have hinner : inner.isUnambiguous = true := h
    have hparted : Parted (inner.untag p) (inner.untag q) :=
      Shape.Precedes.parted_untag hinner hprecedes
    exact hparted
  | .list item, p, q, h, hprecedes => by
    have hitem : item.isUnambiguous = true := h
    obtain ⟨i, k, inside, inside', rfl, rfl, hlt | ⟨rfl, hinside⟩⟩ := hprecedes
    · exact .of_ne (fun heq ↦ (Nat.ne_of_lt hlt) (Step.index.inj heq)) _ _
    · exact (Shape.Precedes.parted_untag hitem hinside).cons _
  | .record _ fields, p, q, h, hprecedes => Fields.Precedes.parted_untag h hprecedes
  | .variants key branches, p, q, h, hprecedes => by
    have hbranches : branches.isUnambiguous key = true := h
    obtain ⟨tag, inside, inside', rfl, rfl, hinside⟩ := hprecedes
    exact Branches.Precedes.parted_untag hbranches hinside

theorem Fields.Precedes.parted_untag : ∀ {fields : Fields} {p q : List Step},
    fields.isUnambiguous = true → fields.Precedes p q → Parted (fields.untag p) (fields.untag q)
  | .cons spec shape rest, p, q, h, hprecedes => by
    obtain ⟨hkeys, hshape, hrest⟩ := Fields.isUnambiguous_cons.1 h
    rcases hprecedes with ⟨key, hkey, inside, inside', rfl, rfl, hinside⟩ |
      ⟨key, hkey, key', hkey', inside, inside', rfl, rfl⟩ | hlater
    · rw [Fields.untag_key_of_mem hkey, Fields.untag_key_of_mem hkey]
      exact (Shape.Precedes.parted_untag hshape hinside).cons _
    · obtain ⟨others, hothers⟩ := (Fields.cons spec shape rest).exists_untag_key key' inside'
      rw [Fields.untag_key_of_mem hkey, hothers]
      refine .of_ne (fun heq ↦ hkeys key hkey ?_) _ _
      rwa [Step.key.inj heq]
    · have hparted := Fields.Precedes.parted_untag hrest hlater
      obtain ⟨key, hkey, key', hkey', inside, inside', rfl, rfl⟩ := hlater.exists_keys
      rwa [Fields.untag_key_of_notMem fun hmem ↦ hkeys key hmem hkey,
        Fields.untag_key_of_notMem fun hmem ↦ hkeys key' hmem hkey']

theorem Branches.Precedes.parted_untag : ∀ {branches : Branches} {key tag : String}
    {p q : List Step}, branches.isUnambiguous key = true → branches.Precedes tag p q →
      Parted (branches.untag tag p) (branches.untag tag q)
  | .cons first fields rest, key, tag, p, q, h, hprecedes => by
    obtain ⟨-, hfields, hrest⟩ := Branches.isUnambiguous_cons.1 h
    rw [Branches.Precedes] at hprecedes
    rw [Branches.untag, Branches.untag]
    split at hprecedes
    · next htag =>
      rw [if_pos htag, if_pos htag]
      exact Fields.Precedes.parted_untag hfields hprecedes
    · next htag =>
      rw [if_neg htag, if_neg htag]
      exact Branches.Precedes.parted_untag hrest hprecedes

end

/-- Places that part without tags do so with them. -/
theorem Shape.parted_of_parted_untag {shape : Shape} {p q : List Step}
    (h : Parted (shape.untag p) (shape.untag q)) : Parted p q :=
  ⟨fun hprefix ↦ h.1 (Shape.untag_prefix hprefix), fun hprefix ↦ h.2 (Shape.untag_prefix hprefix)⟩

end Schema

namespace RecordClass

/-- **Issues point at the document.** What is refused has issues, in the order of fields and items
at every level. No two of them are in the same place, and neither is one in the place of another or
inside of it, with or without tags. Each place, without its tags, leads to a part of the document to
which the reason applies, or for a missing entry to an object that lacks it. -/
theorem validate_places (c : RecordClass) {data : Json} {failure : Failure}
    (h : c.validate data = .error failure) :
    failure.issues ≠ [] ∧
    failure.issues.Pairwise (fun first second ↦ c.shape.Precedes first.path second.path) ∧
    (failure.issues.map Issue.path).Nodup ∧
    (∀ first ∈ failure.issues, ∀ second ∈ failure.issues,
      first.path <+: second.path → first = second) ∧
    (∀ first ∈ failure.issues, ∀ second ∈ failure.issues,
      c.shape.untag first.path <+: c.shape.untag second.path → first = second) ∧
    ∀ issue ∈ failure.issues, data.Faulty (c.shape.untag issue.path) issue.reason := by
  have hunambiguous := c.isUnambiguous_shape
  obtain ⟨hne, rfl⟩ := Shape.validate_eq_error_iff.1 h
  have hprecedes := Shape.pairwise_precedes_issues (j := data) hunambiguous
  have hparted : (c.shape.issues data).Pairwise fun first second ↦
      Parted (c.shape.untag first.path) (c.shape.untag second.path) :=
    hprecedes.imp (Shape.Precedes.parted_untag hunambiguous)
  have hsame : ∀ first ∈ c.shape.issues data, ∀ second ∈ c.shape.issues data,
      c.shape.untag first.path <+: c.shape.untag second.path → first = second := by
    intro first hfirst second hsecond hprefix
    by_contra hother
    have : Std.Symm fun first second : Issue ↦
        Parted (c.shape.untag first.path) (c.shape.untag second.path) := ⟨fun _ _ ↦ Parted.symm⟩
    exact (hparted.forall hfirst hsecond hother).1 hprefix
  refine ⟨hne, hprecedes, ?_, ?_, hsame, Shape.faulty_of_mem_issues hunambiguous⟩
  · rw [List.Nodup, List.pairwise_map]
    refine hparted.imp fun hpaths heq ↦ ?_
    exact (Shape.parted_of_parted_untag hpaths).1 (heq ▸ List.prefix_rfl)
  · intro first hfirst second hsecond hprefix
    exact hsame first hfirst second hsecond (Shape.untag_prefix hprefix)

/-- A process with a number for its name. Of its elements the first one lacks an end and has no text
for the other one, the second one is of an unknown kind, and the third one is no object. -/
def crookedProcess : Json :=
  .object
    [("flow_elements", .array
      [.object [("target_ref", .null), ("type", .text "sequence_flow"), ("id", .text "onwards")],
        .object [("type", .text "gateway"), ("id", .int 2)], .text "end"]),
      ("name", .int 1)]

/-- What it is refused for. -/
def crookedIssues : List Issue :=
  [⟨[.key "name"], .notText⟩,
    ⟨[.key "flow_elements", .index 0, .key "sequence_flow", .key "source_ref"], .missing⟩,
    ⟨[.key "flow_elements", .index 0, .key "sequence_flow", .key "target_ref"], .notText⟩,
    ⟨[.key "flow_elements", .index 1], .unknownTag "type" "gateway" elementBranches.tags⟩,
    ⟨[.key "flow_elements", .index 2], .notTagged⟩]

/-- The name, which is the first field, comes first, though it is the last entry of the object. The
way to the ends of the first element is one without its tag. -/
theorem validate_places_crookedProcess :
    process.validate crookedProcess = .error ⟨"Process", crookedIssues⟩ ∧
    (∀ issue ∈ crookedIssues.tail, process.shape.Precedes [.key "name"] issue.path) ∧
    crookedProcess.Faulty [.key "name"] .notText ∧
    crookedProcess.Faulty [.key "flow_elements", .index 0, .key "source_ref"] .missing ∧
    crookedProcess.Faulty [.key "flow_elements", .index 0, .key "target_ref"] .notText ∧
    crookedProcess.Faulty [.key "flow_elements", .index 2] .notTagged := by
  have h : process.validate crookedProcess = .error ⟨"Process", crookedIssues⟩ := rfl
  obtain ⟨-, hprecedes, -, -, -, hfaulty⟩ := validate_places process h
  simp only [crookedIssues, List.forall_mem_cons] at hfaulty
  obtain ⟨hname, hsource, htarget, -, hend, -⟩ := hfaulty
  exact ⟨h, (List.pairwise_cons.1 hprecedes).1, hname, hsource, htarget, hend⟩

end RecordClass

end WorkflowArtifacts
