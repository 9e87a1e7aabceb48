import Mathlib.Computability.RegularExpressions
import WorkflowArtifacts.Identifier.Values
import WorkflowArtifacts.Proofs.Identifier

/-!
# The grammar of identifiers

Identifiers are the words of a regular expression: a small letter or an underscore, and then any
number of small letters, underscores and digits. `pattern` is that expression, with its characters
listed one by one, so that it can be compared with the tests on characters that sanitizing and
recognising are made of.

## Whole texts and lines

Sanitizing works with the grammar itself: its results are exactly the words of `pattern`, and these
are exactly the texts that it leaves alone. Recognising works with `linePattern`, which allows a
line break after the word. So the two differ on the identifiers with a line break at the end and on
no other text: these are recognised, and sanitizing changes them.
-/

namespace WorkflowArtifacts.Identifier

/-! ## The expressions -/

/-- The characters that an identifier may start with. -/
def leadCharacters : List Char := "abcdefghijklmnopqrstuvwxyz_".toList

/-- The decimal digits. -/
def digits : List Char := "0123456789".toList

/-- The characters that an identifier may go on with. -/
def bodyCharacters : List Char := leadCharacters ++ digits

/-- Any one of some characters. -/
def oneOf (characters : List Char) : RegularExpression Char := (characters.map .char).sum

/-- Identifiers. -/
def pattern : RegularExpression Char := oneOf leadCharacters * (oneOf bodyCharacters).star

/-- Identifiers, with or without a line break at the end. -/
def linePattern : RegularExpression Char := pattern * (1 + .char '\n')

/-! ## Characters -/

theorem isLead_iff_mem (c : Char) : isLead c = true ↔ c ∈ leadCharacters := by
  constructor
  · intro h
    rw [isLead_iff] at h
    rcases h with h | rfl
    · have hall : ∀ n < 123, 97 ≤ n → Char.ofNat n ∈ leadCharacters := by decide
      rw [← Char.ofNat_toNat c]
      exact hall c.toNat (by omega) h.1
    · decide
  · intro h
    have hall : leadCharacters.all isLead = true := by decide
    exact List.all_eq_true.1 hall c h

theorem isDigit_iff_mem (c : Char) : isDigit c = true ↔ c ∈ digits := by
  constructor
  · intro h
    rw [isDigit_iff] at h
    have hall : ∀ n < 58, 48 ≤ n → Char.ofNat n ∈ digits := by decide
    rw [← Char.ofNat_toNat c]
    exact hall c.toNat (by omega) h.1
  · intro h
    have hall : digits.all isDigit = true := by decide
    exact List.all_eq_true.1 hall c h

theorem isBody_iff_mem (c : Char) : isBody c = true ↔ c ∈ bodyCharacters := by
  rw [isBody, Bool.or_eq_true, isLead_iff_mem, isDigit_iff_mem, bodyCharacters, List.mem_append]

/-! ## Words -/

theorem mem_oneOf {characters word : List Char} :
    word ∈ (oneOf characters).matches' ↔ ∃ c ∈ characters, word = [c] := by
  induction characters with
  | nil =>
    constructor
    · rintro ⟨⟩
    · rintro ⟨c, ⟨⟩, -⟩
  | cons c rest ih =>
    have hsum : oneOf (c :: rest) = .char c + oneOf rest := List.sum_cons
    rw [hsum, RegularExpression.matches'_add, Language.mem_add, ih,
      RegularExpression.matches'_char, List.exists_mem_cons_iff]
    rfl

theorem mem_star_oneOf {characters word : List Char} :
    word ∈ (oneOf characters).star.matches' ↔ ∀ c ∈ word, c ∈ characters := by
  rw [RegularExpression.matches'_star, Language.mem_kstar]
  constructor
  · rintro ⟨words, rfl, hwords⟩ c hc
    obtain ⟨part, hpart, hc⟩ := List.mem_flatten.1 hc
    obtain ⟨d, hd, rfl⟩ := mem_oneOf.1 (hwords part hpart)
    rwa [List.mem_singleton.1 hc]
  · intro h
    refine ⟨word.map ([·]), ?_, ?_⟩
    · rw [← List.flatMap_def, List.flatMap_singleton']
    · intro part hpart
      obtain ⟨c, hc, rfl⟩ := List.mem_map.1 hpart
      exact mem_oneOf.2 ⟨c, h c hc, rfl⟩

theorem mem_pattern {word : List Char} :
    word ∈ pattern.matches' ↔ matchesExactly word = true := by
  rw [pattern, RegularExpression.matches'_mul, Language.mem_mul]
  constructor
  · rintro ⟨lead, hlead, body, hbody, rfl⟩
    obtain ⟨c, hc, rfl⟩ := mem_oneOf.1 hlead
    rw [List.singleton_append, matchesExactly, Bool.and_eq_true, List.all_eq_true]
    exact ⟨(isLead_iff_mem c).2 hc, fun d hd ↦ (isBody_iff_mem d).2 (mem_star_oneOf.1 hbody d hd)⟩
  · intro h
    cases word with
    | nil => cases h
    | cons c rest =>
      rw [matchesExactly, Bool.and_eq_true, List.all_eq_true] at h
      refine ⟨[c], mem_oneOf.2 ⟨c, (isLead_iff_mem c).1 h.1, rfl⟩, rest, ?_, rfl⟩
      exact mem_star_oneOf.2 fun d hd ↦ (isBody_iff_mem d).1 (h.2 d hd)

theorem isLead_of_matchesExactly {word : List Char} (h : matchesExactly word = true) {c : Char}
    (hc : word.head? = some c) : isLead c = true := by
  obtain ⟨rest, rfl⟩ := List.head?_eq_some_iff.1 hc
  rw [matchesExactly, Bool.and_eq_true] at h
  exact h.1

/-- No identifier ends in a line break. -/
theorem getLast?_ne_of_matchesExactly {word : List Char} (h : matchesExactly word = true) :
    word.getLast? ≠ some '\n' := by
  intro hlast
  have hbody := isBody_of_matchesExactly h '\n' (List.mem_of_getLast? hlast)
  revert hbody
  decide

/-! ## Lines -/

/-- A line is an identifier if the text is one, with or without a line break at its end. -/
theorem matchesExactly_line_iff {text : List Char} :
    matchesExactly (line text) = true ↔
      matchesExactly text = true ∨ ∃ word, matchesExactly word = true ∧ text = word ++ ['\n'] := by
  rw [line]
  constructor
  · intro h
    split at h
    · next hlast =>
      refine .inr ⟨text.dropLast, h, ?_⟩
      exact (List.dropLast_append_getLast? '\n' hlast).symm
    · exact .inl h
  · rintro (h | ⟨word, h, rfl⟩)
    · rwa [if_neg (getLast?_ne_of_matchesExactly h)]
    · rwa [if_pos List.getLast?_concat, List.dropLast_concat]

theorem mem_linePattern {text : List Char} :
    text ∈ linePattern.matches' ↔ matchesExactly (line text) = true := by
  rw [matchesExactly_line_iff, linePattern, RegularExpression.matches'_mul, Language.mem_mul]
  constructor
  · rintro ⟨word, hword, tail, htail, rfl⟩
    rw [mem_pattern] at hword
    rw [RegularExpression.matches'_add, Language.mem_add, RegularExpression.matches'_epsilon,
      Language.mem_one, RegularExpression.matches'_char] at htail
    rcases htail with rfl | rfl
    · exact .inl (by rwa [List.append_nil])
    · exact .inr ⟨word, hword, rfl⟩
  · rintro (h | ⟨word, h, rfl⟩)
    · exact ⟨text, mem_pattern.2 h, [], .inl rfl, List.append_nil text⟩
    · exact ⟨word, mem_pattern.2 h, ['\n'], .inr rfl, rfl⟩

theorem isValid_iff {text : String} : isValid text = true ↔ text.toList ∈ linePattern.matches' := by
  rw [isValid, mem_linePattern]

/-! ## What sanitizing makes of a text -/

theorem sanitize_eq_self_iff_mem {text : String} :
    sanitize text = text ↔ text.toList ∈ pattern.matches' := by
  rw [sanitize_eq_self_iff, mem_pattern]

/-- **The image and the fixed points of sanitizing.** What sanitizing makes of any text is an
identifier, and each identifier comes about in this way, namely from itself: these are the texts
that sanitizing leaves alone. So what comes out is recognised as an identifier, and sanitizing it
again changes nothing. -/
theorem sanitize_image :
    Set.range sanitize = {text | text.toList ∈ pattern.matches'} ∧
    ∀ raw : String,
      sanitize raw ≠ "" ∧
      (∀ c ∈ (sanitize raw).toList, c ∈ bodyCharacters) ∧
      (∀ c, (sanitize raw).toList.head? = some c → c ∉ digits) ∧
      (sanitize raw).toList.getLast? ≠ some '\n' ∧
      isValidValue (.text (sanitize raw)) = .ok true ∧
      sanitize (sanitize raw) = sanitize raw ∧
      (sanitize raw = raw ↔ raw.toList ∈ pattern.matches') := by
  constructor
  · ext text
    constructor
    · rintro ⟨raw, rfl⟩
      exact mem_pattern.2 (matchesExactly_sanitize raw)
    · intro h
      exact ⟨text, sanitize_eq_self_iff_mem.2 h⟩
  · intro raw
    have hmatches := matchesExactly_sanitize raw
    refine ⟨?_, ?_, ?_, getLast?_ne_of_matchesExactly hmatches, ?_, ?_, sanitize_eq_self_iff_mem⟩
    · intro hempty
      rw [hempty] at hmatches
      cases hmatches
    · intro c hc
      exact (isBody_iff_mem c).1 (isBody_of_matchesExactly hmatches c hc)
    · intro c hhead hdigit
      have hlead := isLead_of_matchesExactly hmatches hhead
      rw [isLead_eq_false_of_isDigit ((isDigit_iff_mem c).2 hdigit)] at hlead
      cases hlead
    · rw [isValidValue_text, isValid, matchesExactly_line_iff.2 (.inl hmatches)]
    · exact (sanitize_eq_self_iff _).2 hmatches

/-- The Kelvin sign is a capital k, and the dotted capital I becomes two characters. -/
example : sanitize "1\u212aİ-ΑΣ" = "_1ki____" := by decide +kernel

/-! ## Where recognising differs -/

/-- A text that sanitizing leaves alone is changed once a line break follows it. -/
theorem sanitize_append_lineBreak_ne (id : String) : sanitize (id ++ "\n") ≠ id ++ "\n" := by
  intro h
  rw [sanitize_eq_self_iff] at h
  refine getLast?_ne_of_matchesExactly h ?_
  rw [String.toList_append]
  exact List.getLast?_concat

theorem isValid_iff_sanitize {text : String} : isValid text = true ↔
    sanitize text = text ∨ ∃ id, sanitize id = id ∧ text = id ++ "\n" := by
  rw [isValid, matchesExactly_line_iff, sanitize_eq_self_iff]
  refine or_congr_right ?_
  constructor
  · rintro ⟨word, hword, htext⟩
    refine ⟨String.ofList word, ?_, ?_⟩
    · rwa [sanitize_eq_self_iff, String.toList_ofList]
    · rw [← String.toList_inj, String.toList_append, String.toList_ofList, htext]
      rfl
  · rintro ⟨id, hid, rfl⟩
    refine ⟨id.toList, (sanitize_eq_self_iff id).1 hid, ?_⟩
    rw [String.toList_append]
    rfl

/-- **Which texts are recognised as identifiers.** All that sanitizing leaves alone are, and so are
the texts that consist of one of these and a line break at the end. Those are the only texts that
are recognised and yet changed by sanitizing. -/
theorem isValid_exact (text : String) :
    (isValidValue (.text text) = .ok true ↔ text.toList ∈ linePattern.matches') ∧
    (sanitize text = text → isValidValue (.text text) = .ok true) ∧
    (isValidValue (.text text) = .ok true ∧ sanitize text ≠ text ↔
      ∃ id, sanitize id = id ∧ text = id ++ "\n") := by
  have hvalue : isValidValue (.text text) = .ok true ↔ isValid text = true := by
    rw [isValidValue_text, Except.ok.injEq]
  rw [hvalue]
  refine ⟨isValid_iff, fun h ↦ isValid_iff_sanitize.2 (.inl h), ?_⟩
  rw [isValid_iff_sanitize]
  constructor
  · rintro ⟨hfixed | hline, hchanged⟩
    · exact absurd hfixed hchanged
    · exact hline
  · rintro ⟨id, hid, rfl⟩
    exact ⟨.inr ⟨id, hid, rfl⟩, sanitize_append_lineBreak_ne id⟩

/-- A line break after an identifier escapes recognising, but not sanitizing. -/
theorem isValid_overlooks_lineBreak :
    ¬ ∀ text, isValidValue (.text text) = .ok true ↔ sanitize text = text := by
  intro h
  have hvalid : isValidValue (.text "a\n") = .ok true := rfl
  exact sanitize_append_lineBreak_ne "a" ((h "a\n").1 hvalid)

end WorkflowArtifacts.Identifier
