import WorkflowArtifacts.Identifier

/-!
# Sanitizing against recognising

Sanitizing makes an identifier of any text, and it leaves a text alone exactly if the whole text is
an identifier already.

The second direction is where the tables of capital letters come in. An identifier has no letter
that moves when it is lower-cased, because none of its characters is covered by a run of the table.
Of the runs only their ends are looked at: each lies either among the capital letters from A to Z or
above all characters of identifiers.
-/

namespace WorkflowArtifacts.Identifier

/-! ## Characters -/

theorem isLead_iff (c : Char) : isLead c = true ↔ (97 ≤ c.toNat ∧ c.toNat ≤ 122) ∨ c = '_' := by
  rw [isLead, Bool.or_eq_true, Bool.and_eq_true, decide_eq_true_iff, decide_eq_true_iff,
    beq_iff_eq]
  rfl

theorem isDigit_iff (c : Char) : isDigit c = true ↔ 48 ≤ c.toNat ∧ c.toNat ≤ 57 := by
  rw [isDigit, Bool.and_eq_true, decide_eq_true_iff, decide_eq_true_iff]
  rfl

/-- The characters of identifiers lie below 123, and the capital letters from A to Z are not among
them. -/
theorem toNat_of_isBody {c : Char} (h : isBody c = true) :
    c.toNat < 123 ∧ ¬ (65 ≤ c.toNat ∧ c.toNat ≤ 90) := by
  rw [isBody, Bool.or_eq_true, isLead_iff, isDigit_iff] at h
  rcases h with (h | rfl) | h
  · omega
  · decide
  · omega

theorem isBody_of_isLead {c : Char} (h : isLead c = true) : isBody c = true := by
  rw [isBody, h, Bool.true_or]

theorem isDigit_of_isBody {c : Char} (h : isBody c = true) (hlead : isLead c = false) :
    isDigit c = true := by
  rwa [isBody, hlead, Bool.false_or] at h

theorem isLead_eq_false_of_isDigit {c : Char} (h : isDigit c = true) : isLead c = false := by
  rw [isDigit_iff] at h
  rw [Bool.eq_false_iff, Ne, isLead_iff]
  rintro (hc | rfl)
  · omega
  · exact absurd h (by decide)

theorem isBody_sanitizeChar (c : Char) : isBody (sanitizeChar c) = true := by
  rw [sanitizeChar]
  by_cases h : isBody c = true
  · rw [if_pos h, h]
  · rw [if_neg h]
    rfl

theorem sanitizeChar_of_isBody {c : Char} (h : isBody c = true) : sanitizeChar c = c := by
  rw [sanitizeChar, if_pos h]

/-! ## Lower case -/

theorem loweringRuns_ends : ∀ run ∈ Text.loweringRuns,
    (65 ≤ run.first ∧ run.last ≤ 90) ∨ 123 ≤ run.first := by
  decide +kernel

theorem shiftBy_of_isBody {c : Char} (h : isBody c = true) :
    Text.shiftBy Text.loweringRuns c = c := by
  have hnone : Text.loweringRuns.find? (·.covers c.toNat) = none := by
    rw [List.find?_eq_none]
    intro run hrun hcovers
    obtain ⟨hsmall, hcapital⟩ := toNat_of_isBody h
    rw [Text.CaseRun.covers, Bool.and_eq_true, Bool.and_eq_true, decide_eq_true_iff,
      decide_eq_true_iff] at hcovers
    rcases loweringRuns_ends run hrun with hends | hends <;> omega
  rw [Text.shiftBy, hnone]

theorem lowerChar_of_isBody {c : Char} (h : isBody c = true) : Text.lowerChar c = [c] := by
  have hc : c ≠ 'İ' := by
    rintro rfl
    exact absurd h (by decide)
  rw [Text.lowerChar, if_neg hc, shiftBy_of_isBody h]

theorem lowerAfter_of_isBody (before : List Char) {text : List Char}
    (h : ∀ c ∈ text, isBody c = true) : Text.lowerAfter before text = text := by
  induction text generalizing before with
  | nil => rfl
  | cons c rest ih =>
    have hbody : isBody c = true := h c List.mem_cons_self
    have hc : c ≠ 'Σ' := by
      rintro rfl
      exact absurd hbody (by decide)
    rw [Text.lowerAfter, if_neg hc, lowerChar_of_isBody hbody,
      ih (c :: before) fun d hd ↦ h d (List.mem_cons_of_mem c hd)]
    rfl

/-! ## Whole texts -/

theorem isBody_of_matchesExactly {text : List Char} (h : matchesExactly text = true) :
    ∀ c ∈ text, isBody c = true := by
  cases text with
  | nil => cases h
  | cons c rest =>
    rw [matchesExactly, Bool.and_eq_true, List.all_eq_true] at h
    intro d hd
    rcases List.mem_cons.1 hd with rfl | hd
    · exact isBody_of_isLead h.1
    · exact h.2 d hd

/-- A text of characters of identifiers becomes an identifier by the lead alone. -/
theorem matchesExactly_withLead {text : List Char} (h : ∀ c ∈ text, isBody c = true) :
    matchesExactly (withLead text) = true := by
  cases text with
  | nil => rfl
  | cons c rest =>
    rw [withLead]
    by_cases hdigit : isDigit c = true
    · rw [if_pos hdigit, matchesExactly, Bool.and_eq_true, List.all_eq_true]
      exact ⟨rfl, h⟩
    · have hlead : isLead c = true := by
        cases hlead : isLead c with
        | true => rfl
        | false => exact absurd (isDigit_of_isBody (h c List.mem_cons_self) hlead) hdigit
      rw [if_neg hdigit, matchesExactly, Bool.and_eq_true, List.all_eq_true]
      exact ⟨hlead, fun d hd ↦ h d (List.mem_cons_of_mem c hd)⟩

theorem withLead_of_matchesExactly {text : List Char} (h : matchesExactly text = true) :
    withLead text = text := by
  cases text with
  | nil => cases h
  | cons c rest =>
    rw [matchesExactly, Bool.and_eq_true] at h
    rw [withLead, if_neg]
    intro hdigit
    rw [isLead_eq_false_of_isDigit hdigit] at h
    cases h.1

theorem matchesExactly_sanitizeChars (text : List Char) :
    matchesExactly (sanitizeChars text) = true := by
  refine matchesExactly_withLead fun c hc ↦ ?_
  obtain ⟨d, -, rfl⟩ := List.mem_map.1 hc
  exact isBody_sanitizeChar d

theorem sanitizeChars_of_matchesExactly {text : List Char} (h : matchesExactly text = true) :
    sanitizeChars text = text := by
  have hbody := isBody_of_matchesExactly h
  have hmap : text.map sanitizeChar = text := by
    rw [List.map_congr_left fun c hc ↦ sanitizeChar_of_isBody (hbody c hc), List.map_id']
  rw [sanitizeChars, Text.lower, lowerAfter_of_isBody [] hbody, hmap,
    withLead_of_matchesExactly h]

/-- What sanitizing makes of a text is an identifier, over its whole length. -/
theorem matchesExactly_sanitize (text : String) :
    matchesExactly (sanitize text).toList = true := by
  rw [sanitize, String.toList_ofList]
  exact matchesExactly_sanitizeChars _

/-- Sanitizing leaves exactly those texts alone that are identifiers over their whole length. -/
theorem sanitize_eq_self_iff (text : String) :
    sanitize text = text ↔ matchesExactly text.toList = true := by
  constructor
  · intro h
    rw [← h]
    exact matchesExactly_sanitize text
  · intro h
    rw [sanitize, sanitizeChars_of_matchesExactly h, String.ofList_toList]

end WorkflowArtifacts.Identifier
