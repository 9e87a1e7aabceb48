import WorkflowArtifacts.Logging

/-!
# Levels that are given by name

The level can be given in two ways, by settings and by the environment, and from the environment it
is taken in upper case. Either way a name that stands for no level should give the level of the
normal course of things. But a name is looked up among all names of the logging system, and most of
them stand for something else.

Upper case helps against this by accident: nearly all names that stand for something else have a
small letter, and in upper case there are none (`Text.not_isLower_of_mem_upper`). So from the
environment just two names go wrong (`upperString_mem_taken_iff`), whereas in settings all of them
do, and a level that is not written in capitals is not found there at all.
-/

namespace WorkflowArtifacts

/-! ## Upper case -/

namespace Text

variable {c d : Char}

theorem isLower_iff : c.isLower = true ↔ 0x61 ≤ c.toNat ∧ c.toNat ≤ 0x7A := by
  change (_ && _) = true ↔ _
  rw [Bool.and_eq_true, decide_eq_true_iff, decide_eq_true_iff]
  rfl

/-- No character is a small letter by a code point that is not one, not even if the code point is
that of no character. -/
theorem not_isLower_ofNat {n : Nat} (h : n < 0x61 ∨ 0x7A < n) :
    ¬ (Char.ofNat n).isLower = true := by
  rw [isLower_iff]
  by_cases hn : n.isValidChar
  · have hchar : Char.ofNat n = Char.ofNatAux n hn := dif_pos hn
    have hcode : (Char.ofNat n).toNat = n := by
      rw [hchar]
      rfl
    omega
  · have hchar : Char.ofNat n = Char.ofNat 0 := dif_neg hn
    rw [hchar]
    decide

/-- The runs of capital forms end up beside the small letters. -/
theorem apply_of_covers {run : CaseRun} (hrun : run ∈ raisingRuns) {n : Nat} (h : run.covers n) :
    run.apply n < 0x61 ∨ 0x7A < run.apply n := by
  have hall : ∀ run ∈ raisingRuns, run.last + run.shift < 0x61 ∨ 0x7A < run.first + run.shift := by
    decide +kernel
  have hends := hall run hrun
  simp only [CaseRun.covers, Bool.and_eq_true, decide_eq_true_eq] at h
  rw [CaseRun.apply]
  omega

theorem not_isLower_shiftBy : ¬ (shiftBy raisingRuns c).isLower = true := by
  rw [shiftBy]
  cases hrun : raisingRuns.find? (·.covers c.toNat) with
  | some run =>
    have hcovers : run.covers c.toNat = true := by simpa using List.find?_some hrun
    exact not_isLower_ofNat (apply_of_covers (List.mem_of_find?_eq_some hrun) hcovers)
  | none =>
    -- the first run covers the small letters
    have hnot := List.find?_eq_none.1 hrun ⟨0x61, 0x7A, 1, -32⟩ (by decide)
    rw [isLower_iff]
    simpa [CaseRun.covers, Nat.mod_one] using hnot

theorem not_isLower_of_mem_upperChar (h : d ∈ upperChar c) : ¬ d.isLower = true := by
  rw [upperChar] at h
  cases hlookup : raisingExpansions.lookup c.toNat with
  | some codePoints =>
    rw [hlookup] at h
    obtain ⟨n, hn, rfl⟩ := List.mem_map.1 h
    have hall : ∀ entry ∈ raisingExpansions, ∀ n ∈ entry.2, n < 0x61 ∨ 0x7A < n := by
      decide +kernel
    obtain ⟨before, after, hentry, -⟩ := List.lookup_eq_some_iff.1 hlookup
    refine not_isLower_ofNat (hall (c.toNat, codePoints) ?_ n hn)
    exact hentry ▸ List.mem_append_right before List.mem_cons_self
  | none =>
    rw [hlookup] at h
    rw [List.mem_singleton.1 h]
    exact not_isLower_shiftBy

/-- There are no small letters in upper case. -/
theorem not_isLower_of_mem_upper {text : List Char} (h : c ∈ upper text) : ¬ c.isLower = true := by
  obtain ⟨d, -, hc⟩ := List.mem_flatMap.1 h
  exact not_isLower_of_mem_upperChar hc

end Text

/-! ## Names -/

namespace Logging

/-- The level of a name, which is that of the normal course of things where there is none. -/
def levelOf (name : String) : Nat := (levels.lookup name).getD normalLevel

/-- The names that stand for something else than a level. -/
def taken : List String := texts.map Prod.fst ++ switches ++ unset ++ others

variable {name : String}

theorem mem_taken : name ∈ taken ↔
    name ∈ texts.map Prod.fst ∨ name ∈ switches ∨ name ∈ unset ∨ name ∈ others := by
  rw [taken, List.mem_append, List.mem_append, List.mem_append, or_assoc, or_assoc]

/-- The names of everything else stand for nothing more. -/
theorem meaning_of_mem_others (h : name ∈ others) : meaning name = .other := by
  have hall : ∀ name ∈ others, levels.lookup name = none ∧ texts.lookup name = none ∧
      name ∉ switches ∧ name ∉ unset := by decide +kernel
  obtain ⟨hlevel, htext, hswitch, hunset⟩ := hall name h
  simp [meaning, hlevel, htext, hswitch, hunset, h]

theorem meaning_of_mem_switches (h : name ∈ switches) : meaning name = .switch := by
  have hall : ∀ name ∈ switches, meaning name = .switch := by decide
  exact hall name h

theorem meaning_of_mem_unset (h : name ∈ unset) : meaning name = .nothing := by
  have hall : ∀ name ∈ unset, meaning name = .nothing := by decide
  exact hall name h

/-- No text of the logging system is the name of a level. -/
theorem threshold_of_mem_texts (h : name ∈ texts.map Prod.fst) :
    ∃ fault, (meaning name).threshold = .error fault := by
  have hall : ∀ entry ∈ texts, meaning entry.1 = .text entry.2 ∧ levels.lookup entry.2 = none := by
    decide +kernel
  obtain ⟨entry, hentry, rfl⟩ := List.mem_map.1 h
  obtain ⟨hmeaning, hlevel⟩ := hall entry hentry
  rw [hmeaning, Meaning.threshold, hlevel]
  exact ⟨_, rfl⟩

theorem meaning_of_notMem_taken (h : name ∉ taken) : meaning name = .level (levelOf name) := by
  rw [mem_taken, not_or, not_or, not_or] at h
  obtain ⟨htext, hswitch, hunset, hother⟩ := h
  have hlookup : texts.lookup name = none := by
    refine List.lookup_eq_none_iff.2 fun entry hentry ↦ ?_
    exact bne_iff_ne.2 fun heq ↦ htext (heq ▸ List.mem_map_of_mem hentry)
  rw [meaning, hlookup, levelOf]
  cases levels.lookup name with
  | some level => rfl
  | none => simp [hswitch, hunset, hother]

/-- **What a name comes to**: it gives its level if it stands for nothing else, and no level
otherwise, but for the names without a value, which leave the level in force before. -/
theorem threshold_eq_level_iff {level : Nat} (hlevel : name ∈ unset → level ≠ initialLevel) :
    (meaning name).threshold = .ok (.level level) ↔ name ∉ taken ∧ levelOf name = level := by
  by_cases h : name ∈ taken
  · refine iff_of_false ?_ fun hnot ↦ hnot.1 h
    rcases mem_taken.1 h with htext | hswitch | hunset | hother
    · obtain ⟨fault, hfault⟩ := threshold_of_mem_texts htext
      rw [hfault]
      exact nofun
    · rw [meaning_of_mem_switches hswitch]
      exact nofun
    · rw [meaning_of_mem_unset hunset]
      exact fun heq ↦ hlevel hunset (Threshold.level.inj (Except.ok.inj heq)).symm
    · rw [meaning_of_mem_others hother]
      exact nofun
  · rw [meaning_of_notMem_taken h]
    simp [Meaning.threshold, h]

/-- A name comes to a fault if it stands for a text or for what is no value. -/
theorem exists_fault_iff : (∃ fault, (meaning name).threshold = .error fault) ↔
    name ∈ texts.map Prod.fst ∨ name ∈ others := by
  constructor
  · rintro ⟨fault, hfault⟩
    by_cases h : name ∈ taken
    · rcases mem_taken.1 h with htext | hswitch | hunset | hother
      · exact .inl htext
      · rw [meaning_of_mem_switches hswitch] at hfault
        exact absurd hfault nofun
      · rw [meaning_of_mem_unset hunset] at hfault
        exact absurd hfault nofun
      · exact .inr hother
    · rw [meaning_of_notMem_taken h] at hfault
      exact absurd hfault nofun
  · rintro (htext | hother)
    · exact threshold_of_mem_texts htext
    · rw [meaning_of_mem_others hother]
      exact ⟨_, rfl⟩

/-- Of the names that stand for something else than a level, two are written in capitals. -/
theorem upperString_mem_taken_iff {s : String} : Text.upperString s ∈ taken ↔
    Text.upperString s = "BASIC_FORMAT" ∨ Text.upperString s = "_STYLES" := by
  constructor
  · have hall : ∀ name ∈ taken,
        name.toList.any Char.isLower ∨ name = "BASIC_FORMAT" ∨ name = "_STYLES" := by
      decide +kernel
    intro h
    refine (hall _ h).resolve_left fun hany ↦ ?_
    obtain ⟨c, hc, hlower⟩ := List.any_eq_true.1 hany
    rw [Text.upperString, String.toList_ofList] at hc
    exact Text.not_isLower_of_mem_upper hc hlower
  · have hboth : "BASIC_FORMAT" ∈ taken ∧ "_STYLES" ∈ taken := by decide
    rintro (h | h) <;> rw [h]
    · exact hboth.1
    · exact hboth.2

/-- In capitals, either of them comes to a fault. -/
theorem exists_fault_upperString_iff {s : String} :
    (∃ fault, (meaning (Text.upperString s)).threshold = .error fault) ↔
      Text.upperString s = "BASIC_FORMAT" ∨ Text.upperString s = "_STYLES" := by
  rw [exists_fault_iff]
  constructor
  · intro h
    refine upperString_mem_taken_iff.1 (mem_taken.2 ?_)
    exact h.imp_right fun hother ↦ .inr (.inr hother)
  · have hboth : "BASIC_FORMAT" ∈ texts.map Prod.fst ∧ "_STYLES" ∈ others := by decide
    rintro (h | h) <;> rw [h]
    · exact .inl hboth.1
    · exact .inr hboth.2

/-! ## Both ways -/

variable {environment : Environment} {given : Json} {settings : Settings} {s : String}

theorem configured_of_read (hgiven : Settings.read given = .ok settings) :
    configured environment given = (meaning settings.logLevel).threshold := by
  cases hnull : given.isNull with
  | true =>
    -- the absent value is no document of settings
    obtain rfl := (Json.isNull_iff given).1 hnull
    exact absurd hgiven nofun
  | false => rw [configured, Settings.readOr, hnull, if_neg Bool.false_ne_true, hgiven]; rfl

theorem configured_of_environment (henvironment : environment.get? "KICKSTART_LOG_LEVEL" = some s) :
    configured environment .null = (meaning (Text.upperString s)).threshold := by
  have hname : (Settings.ofEnvironment environment).logLevel = Text.upperString s := by
    rw [Settings.ofEnvironment, henvironment]
    rfl
  rw [← hname]
  rfl

/-- **The level that is given** by a name, in settings or by the environment. It should be that of
the name in capitals. From the environment it is for all names but two, which come to a fault. In
settings it is that of the name as it is written, if the name stands for nothing else; texts,
functions and the like come to a fault. So if the name is written in capitals, both ways come to the
same. -/
theorem configured_either_way (hgiven : Settings.read given = .ok settings)
    (hsettings : settings.logLevel = s)
    (henvironment : environment.get? "KICKSTART_LOG_LEVEL" = some s) :
    let capitals := Text.upperString s
    (configured environment .null = .ok (.level (levelOf capitals)) ↔
      capitals ≠ "BASIC_FORMAT" ∧ capitals ≠ "_STYLES") ∧
    ((∃ fault, configured environment .null = .error fault) ↔
      capitals = "BASIC_FORMAT" ∨ capitals = "_STYLES") ∧
    (configured environment given = .ok (.level (levelOf s)) ↔ s ∉ taken) ∧
    (configured environment given = .ok (.level (levelOf capitals)) ↔
      s ∉ taken ∧ levelOf s = levelOf capitals) ∧
    ((∃ fault, configured environment given = .error fault) ↔
      s ∈ texts.map Prod.fst ∨ s ∈ others) ∧
    (capitals = s → configured environment given = configured environment .null) := by
  intro capitals
  have hlevel : ∀ name ∈ unset,
      levelOf name ≠ initialLevel ∧ levelOf (Text.upperString name) ≠ initialLevel := by
    decide
  rw [configured_of_read hgiven, hsettings, configured_of_environment henvironment]
  refine ⟨?_, exists_fault_upperString_iff, ?_, ?_, exists_fault_iff, fun h ↦ ?_⟩
  · rw [threshold_eq_level_iff fun h ↦ (hlevel _ h).1, upperString_mem_taken_iff, not_or]
    exact and_iff_left rfl
  · rw [threshold_eq_level_iff fun h ↦ (hlevel _ h).1]
    exact and_iff_left rfl
  · exact threshold_eq_level_iff fun h ↦ (hlevel _ h).2
  · exact congrArg (fun name ↦ (meaning name).threshold) h.symm

/-- Settings that give nothing but the level. -/
def settingsOf (name : String) : Json := .object [("log_level", .text name)]

/-- An environment that gives nothing but the level. -/
def environmentOf (name : String) : Environment := ⟨[("KICKSTART_LOG_LEVEL", name)]⟩

theorem read_settingsOf (name : String) : Settings.read (settingsOf name)
    = .ok { logLevel := name, modelAuthor := none, modelVersion := some "1.0" } := rfl

theorem get?_environmentOf (name : String) :
    (environmentOf name).get? "KICKSTART_LOG_LEVEL" = some name := rfl

/-- A level that is not written in capitals is found from the environment, but not in settings. -/
theorem configured_either_way_mixedCase :
    configured (environmentOf "Debug") .null = .ok (.level 10) ∧
    configured (environmentOf "Debug") (settingsOf "Debug") = .ok (.level 20) := by
  obtain ⟨henvironment, -, hsettings, -⟩ :=
    configured_either_way (read_settingsOf "Debug") rfl (get?_environmentOf "Debug")
  have hcapitals : Text.upperString "Debug" = "DEBUG" := by decide
  rw [hcapitals] at henvironment
  exact ⟨henvironment.2 (by decide), hsettings.2 (by decide)⟩

/-- In small letters a level has the name of a function, which comes to a fault in settings. -/
theorem configured_smallLetters :
    configured (environmentOf "debug") (settingsOf "debug") = .error .notLevel ∧
    configured (environmentOf "debug") .null = .ok (.level 10) := by
  have hcapitals : Text.upperString "debug" = "DEBUG" := by decide
  rw [configured_of_read (read_settingsOf "debug"), meaning_of_mem_others (by decide),
    configured_of_environment (get?_environmentOf "debug"), hcapitals]
  exact ⟨rfl, rfl⟩

end Logging

end WorkflowArtifacts
