import WorkflowArtifacts.Proofs.Schema.RoundTrip

/-!
# Every accepted document survives writing and reading

For each class of records apart from the settings, a document that was accepted can be written in
any style and read again (`RecordClass.round_trip`). What comes back is the document itself, and
this without exception unless it is a workflow definition. Only the steps of a definition are left
open, so only there can a document be too deep to be written, or hold an infinite number, which is
lost in writing.
-/

namespace WorkflowArtifacts

open Schema

/-! ## Documents with finite numbers -/

namespace Json

mutual

/-- Whether all numbers of a document are finite. -/
def isFinite : Json → Bool
  | .number n => n.isFinite
  | .array xs => isFiniteItems xs
  | .object es => isFiniteEntries es
  | _ => true

/-- Whether all numbers of the items are finite. -/
def isFiniteItems : List Json → Bool
  | [] => true
  | x :: xs => x.isFinite && isFiniteItems xs

/-- Whether all numbers of the entries are finite. -/
def isFiniteEntries : List (String × Json) → Bool
  | [] => true
  | (_, x) :: rest => x.isFinite && isFiniteEntries rest

end

mutual

/-- Exactly the documents with finite numbers stay as they are. -/
theorem finite_eq_self_iff : ∀ {j : Json}, j.finite = j ↔ j.isFinite = true
  | .number n => by
    rw [finite, isFinite]
    split
    · next h => simp [h]
    · next h => simp [h]
  | .array xs => by rw [finite, isFinite, Json.array.injEq, finiteItems_eq_self_iff]
  | .object es => by rw [finite, isFinite, Json.object.injEq, finiteEntries_eq_self_iff]
  | .null | .bool _ | .text _ => by simp [isFinite]

theorem finiteItems_eq_self_iff : ∀ {xs : List Json},
    finiteItems xs = xs ↔ isFiniteItems xs = true
  | [] => by simp [finiteItems, isFiniteItems]
  | x :: xs => by
    rw [finiteItems, isFiniteItems, List.cons.injEq, Bool.and_eq_true, finite_eq_self_iff,
      finiteItems_eq_self_iff]

theorem finiteEntries_eq_self_iff : ∀ {es : List (String × Json)},
    finiteEntries es = es ↔ isFiniteEntries es = true
  | [] => by simp [finiteEntries, isFiniteEntries]
  | (_, x) :: es => by
    rw [finiteEntries, isFiniteEntries, List.cons.injEq, Bool.and_eq_true, Prod.mk.injEq,
      finite_eq_self_iff, finiteEntries_eq_self_iff]
    simp

end

theorem isFiniteItems_eq_true_iff {xs : List Json} :
    isFiniteItems xs = true ↔ ∀ x ∈ xs, x.isFinite = true := by
  induction xs with
  | nil => simp [isFiniteItems]
  | cons x xs ih => simp [isFiniteItems, ih]

end Json

/-! ## Closed shapes -/

namespace Schema

mutual

/-- Whether a shape leaves nothing open. -/
def Shape.isClosed : Shape → Bool
  | .text | .flag | .literal _ => true
  | .document => false
  | .nullable inner => inner.isClosed
  | .list item => item.isClosed
  | .record _ fields => fields.isClosed
  | .variants _ branches => branches.isClosed

/-- Whether the fields of a record leave nothing open. -/
def Fields.isClosed : Fields → Bool
  | .nil => true
  | .cons _ shape rest => shape.isClosed && rest.isClosed

/-- Whether the classes of a union leave nothing open. -/
def Branches.isClosed : Branches → Bool
  | .nil => true
  | .cons _ fields rest => fields.isClosed && rest.isClosed

end

mutual

/-- A document in normal form holds no numbers where its shape is closed. -/
theorem Shape.isFinite_of_isClosed : ∀ {shape : Shape} {j : Json}, shape.isClosed = true →
    shape.isNormal j = true → j.isFinite = true
  | .text, j, _, h => by
    obtain ⟨s, rfl⟩ := Shape.isNormal_text_iff.1 h
    rfl
  | .flag, j, _, h => by
    obtain ⟨b, rfl⟩ := Shape.isNormal_flag_iff.1 h
    rfl
  | .document, _, hc, _ => absurd hc Bool.false_ne_true
  | .literal tag, j, _, h => by
    obtain rfl := Tag.isWritten_iff.1 h
    rfl
  | .nullable inner, j, hc, h => by
    have hinner : inner.isClosed = true := hc
    rcases Shape.isNormal_nullable_iff.1 h with rfl | hj
    · rfl
    · exact Shape.isFinite_of_isClosed hinner hj
  | .list item, j, hc, h => by
    have hitem : item.isClosed = true := hc
    obtain ⟨items, rfl, hitems⟩ := Shape.isNormal_list_iff.1 h
    refine Json.isFiniteItems_eq_true_iff.2 fun x hx ↦ ?_
    exact Shape.isFinite_of_isClosed hitem (hitems x hx)
  | .record _ fields, j, hc, h => by
    have hfields : fields.isClosed = true := hc
    obtain ⟨entries, rfl, hentries⟩ := Shape.isNormal_record_iff.1 h
    exact Fields.isFinite_of_isClosed hfields hentries
  | .variants key branches, j, hc, h => by
    have hbranches : branches.isClosed = true := hc
    obtain ⟨entries, rfl, hentries⟩ := Shape.isNormal_variants_iff.1 h
    exact Branches.isFinite_of_isClosed hbranches hentries

theorem Fields.isFinite_of_isClosed : ∀ {fields : Fields} {entries : List (String × Json)},
    fields.isClosed = true → fields.isNormal entries = true →
      Json.isFiniteEntries entries = true
  | .nil, [], _, _ => rfl
  | .cons _ shape rest, (_, value) :: entries, hc, h => by
    obtain ⟨hshape, hrest⟩ := Bool.and_eq_true_iff.1 hc
    simp only [Fields.isNormal, Bool.and_eq_true] at h
    obtain ⟨⟨-, hvalue⟩, hentries⟩ := h
    rw [Json.isFiniteEntries, Shape.isFinite_of_isClosed hshape hvalue,
      Fields.isFinite_of_isClosed hrest hentries, Bool.and_self]

theorem Branches.isFinite_of_isClosed : ∀ {branches : Branches} {found : Json}
    {entries : List (String × Json)}, branches.isClosed = true →
      branches.isNormal found entries = true → Json.isFiniteEntries entries = true
  | .nil, _, _, _, h => by simp [Branches.isNormal] at h
  | .cons _ fields rest, found, entries, hc, h => by
    obtain ⟨hfields, hrest⟩ := Bool.and_eq_true_iff.1 hc
    rw [Branches.isNormal] at h
    split at h
    · exact Fields.isFinite_of_isClosed hfields h
    · exact Branches.isFinite_of_isClosed hrest h

end

theorem foldl_max_replicate_zero (n : Nat) : (List.replicate n 0).foldl max 0 = 0 := by
  induction n with
  | zero => rfl
  | succ n ih => exact ih

mutual

/-- A closed shape describes a document down to the last level. -/
theorem Shape.openDepth_of_isClosed : ∀ {shape : Shape} {j : Json}, shape.isClosed = true →
    shape.openDepth j = 0
  | .text, _, _ | .flag, _, _ | .literal _, _, _ => rfl
  | .document, _, hc => absurd hc Bool.false_ne_true
  | .nullable inner, j, hc => by
    have hinner : inner.isClosed = true := hc
    rw [Shape.openDepth, Shape.openDepth_of_isClosed hinner, ite_self]
  | .list item, j, hc => by
    have hitem : item.isClosed = true := hc
    have hzero : j.items.map item.openDepth = j.items.map fun _ ↦ 0 :=
      List.map_congr_left fun x _ ↦ Shape.openDepth_of_isClosed hitem
    rw [Shape.openDepth, hzero, List.map_const', foldl_max_replicate_zero]
  | .record _ fields, j, hc => Fields.openDepth_of_isClosed hc
  | .variants _ branches, j, hc => Branches.openDepth_of_isClosed hc

theorem Fields.openDepth_of_isClosed : ∀ {fields : Fields} {j : Json},
    fields.isClosed = true → fields.openDepth j = 0
  | .nil, _, _ => rfl
  | .cons _ _ _, _, hc => by
    obtain ⟨hshape, hrest⟩ := Bool.and_eq_true_iff.1 hc
    rw [Fields.openDepth, Shape.openDepth_of_isClosed hshape, Fields.openDepth_of_isClosed hrest,
      Nat.max_self]

theorem Branches.openDepth_of_isClosed : ∀ {branches : Branches} {found j : Json},
    branches.isClosed = true → branches.openDepth found j = 0
  | .nil, _, _, _ => rfl
  | .cons _ _ _, _, _, hc => by
    obtain ⟨hfields, hrest⟩ := Bool.and_eq_true_iff.1 hc
    rw [Branches.openDepth, Fields.openDepth_of_isClosed hfields,
      Branches.openDepth_of_isClosed hrest, ite_self]

end

end Schema

/-! ## Classes of records -/

namespace RecordClass

/-- Only workflow definitions leave anything open. -/
theorem isClosed_shape {c : RecordClass} (hc : c ≠ .definition) : c.shape.isClosed = true :=
  have h : ∀ c ∈ RecordClass.all, c ≠ .definition → c.shape.isClosed = true := by decide +kernel
  h c c.mem_all hc

/-- An accepted document is accepted again as it is written, whatever the style, and loses only
its infinite numbers. -/
theorem validate_render {c : RecordClass} (hc : c ≠ .settings) (style : Style)
    {data document : Json} (h : c.validate data = .ok document) :
    c.validate (c.render style document) = .ok document.finite := by
  have hcoherent := isCoherent_shape hc
  obtain ⟨hissues, rfl⟩ := Shape.validate_eq_ok_iff.1 h
  have hread : c.shape.issues (c.render style (c.shape.normal data)) = [] ∧
      c.shape.normal (c.render style (c.shape.normal data)) = (c.shape.normal data).finite :=
    Shape.read_render hcoherent (Shape.isNormal_normal hcoherent hissues)
  exact Shape.validate_eq_ok_iff.2 ⟨hread.1, hread.2.symm⟩

/-- An accepted document of any class but the settings can be written in any style, unless it is
too deep where the class leaves its contents open. What is written keeps to the style and is
accepted again, and gives back the document itself exactly if its numbers are finite. Only
workflow definitions can be too deep or hold numbers at all. -/
theorem round_trip {c : RecordClass} (hc : c ≠ .settings) (style : Style) {data document : Json}
    (h : c.validate data = .ok document) :
    (c.shape.openDepth document ≤ depthLimit →
      ∃ written, c.write style document = .ok written ∧
        c.shape.isInStyle style written = true ∧
        c.validate written = .ok document.finite ∧
        (c.validate written = .ok document ↔ document.isFinite = true)) ∧
    (depthLimit < c.shape.openDepth document → c.write style document = .error .tooDeep) ∧
    (c ≠ .definition → c.shape.openDepth document = 0 ∧ document.isFinite = true) := by
  have hcoherent := isCoherent_shape hc
  have hback := validate_render hc style h
  obtain ⟨hissues, rfl⟩ := Shape.validate_eq_ok_iff.1 h
  have hnormal := Shape.isNormal_normal hcoherent hissues
  refine ⟨fun hdepth ↦ ?_, fun hdepth ↦ ?_, fun hclass ↦ ?_⟩
  · refine ⟨_, write_eq_ok_iff.2 ⟨hdepth, rfl⟩, Shape.isInStyle_render hcoherent hnormal, hback, ?_⟩
    rw [hback, Except.ok.injEq, Json.finite_eq_self_iff]
  · rw [write, if_neg (Nat.not_le.2 hdepth)]
  · have hclosed := isClosed_shape hclass
    exact ⟨Shape.openDepth_of_isClosed hclosed, Shape.isFinite_of_isClosed hclosed hnormal⟩

/-- A workflow definition whose only step holds a value. -/
def withStep (value : Json) : Json :=
  .object [("steps", .array [.object [("payload", value)]])]

/-- The absent value stays in a step, though it is left out everywhere else. -/
theorem round_trip_withStep :
    ∃ document written, definition.validate (withStep .null) = .ok document ∧
      definition.write ⟨true, true⟩ document = .ok written ∧ written = withStep .null ∧
      definition.validate written = .ok document := by
  have h : definition.validate (withStep .null) = .ok _ := rfl
  obtain ⟨written, hwritten, -, -, hback⟩ :=
    (round_trip (by decide) ⟨true, true⟩ h).1 (by decide)
  exact ⟨_, written, h, hwritten, (Except.ok.inj hwritten).symm, hback.2 (by decide)⟩

/-- The number zero inside `n` arrays. -/
def nested : Nat → Json
  | 0 => .int 0
  | n + 1 => .array [nested n]

theorem height_nested (n : Nat) : (nested n).height = n + 1 := by
  induction n with
  | zero => rfl
  | succ n ih => simp [nested, Json.height, Json.heightItems, ih]

theorem validate_withStep (value : Json) :
    definition.validate (withStep value) = .ok (definition.shape.normal (withStep value)) := rfl

theorem openDepth_withStep (value : Json) :
    definition.shape.openDepth (definition.shape.normal (withStep value)) = value.height := by
  change max 0 (max 0 (max 0 (max (max 0 (max value.height 0)) 0))) = value.height
  omega

/-- A definition that is too deep is not written in any style, and one with an infinite number
does not come back. -/
theorem not_round_trip :
    (∃ document, definition.validate (withStep (nested 300)) = .ok document ∧
      ∀ style, definition.write style document = .error .tooDeep) ∧
    (∃ document,
      definition.validate (withStep (.number (.decimal ⟨false, 1, 999⟩))) = .ok document ∧
        ∀ style, ∃ written, definition.write style document = .ok written ∧
          definition.validate written ≠ .ok document) := by
  refine ⟨⟨_, validate_withStep _, fun style ↦ ?_⟩, ⟨_, validate_withStep _, fun style ↦ ?_⟩⟩
  · rw [write, openDepth_withStep, height_nested]
    rfl
  · refine ⟨_, write_eq_ok_iff.2 ⟨?_, rfl⟩, ?_⟩
    · rw [openDepth_withStep]
      decide
    · rw [validate_render (by decide) style (validate_withStep _), ne_eq, Except.ok.injEq,
        Json.finite_eq_self_iff]
      decide

end RecordClass

end WorkflowArtifacts
