/-!
# Patterns with gaps

A message may be written as a pattern with named gaps. A gap is filled wherever its mark stands,
from left to right, and what is put into it is not looked at again. Several gaps are filled one
after the other, so what is put into an earlier one may bring in the mark of a later one, which is
then filled as well.
-/

namespace WorkflowArtifacts.Text

/-- Characters with the mark of a gap replaced wherever it stands, after leaving out the first
`skip` of them. A mark has at least one character. -/
def fillFrom (mark content : List Char) : (skip : Nat) → List Char → List Char
  | _, [] => []
  | skip + 1, _ :: rest => fillFrom mark content skip rest
  | 0, c :: rest =>
    if mark.isPrefixOf (c :: rest) then content ++ fillFrom mark content (mark.length - 1) rest
    else c :: fillFrom mark content 0 rest

/-- A pattern with one gap filled. -/
def fillGap (mark content pattern : String) : String :=
  String.ofList (fillFrom mark.toList content.toList 0 pattern.toList)

/-- A pattern with gaps filled one after the other, given by their marks with what they hold. -/
def fillGaps (gaps : List (String × String)) (pattern : String) : String :=
  gaps.foldl (fun text (mark, content) ↦ fillGap mark content text) pattern

/-- Where the first character of a mark does not stand, there is nothing to fill. -/
theorem fillFrom_eq_self {m : Char} {text : List Char} (h : m ∉ text) (mark content : List Char) :
    fillFrom (m :: mark) content 0 text = text := by
  induction text with
  | nil => rfl
  | cons c rest ih =>
    rw [List.mem_cons, not_or] at h
    simp [fillFrom, List.isPrefixOf, h.1, ih h.2]

theorem fillGap_eq_self {mark pattern : String} {m : Char} {rest : List Char}
    (hmark : mark.toList = m :: rest) (h : m ∉ pattern.toList) (content : String) :
    fillGap mark content pattern = pattern := by
  rw [fillGap, hmark, fillFrom_eq_self h, String.ofList_toList]

end WorkflowArtifacts.Text
