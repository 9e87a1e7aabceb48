import WorkflowArtifacts.Text.CaseTable
import WorkflowArtifacts.Text.CasedTable

/-!
# Upper and lower case of whole texts

Full case conversion: a character may become several, and the capital sigma becomes the final or
the medial small sigma depending on the word around it. Conversion works on lists of characters,
so that its effect on each character can be read off; `String` versions wrap it.

## What is special in lower case

Exactly two characters do not simply move to their small form. The dotted capital I becomes a
small i followed by a combining dot. The capital sigma becomes the final sigma when, looking past
case-ignorable characters, a cased character comes before it and none comes after it.
-/

namespace WorkflowArtifacts.Text

/-- The image of a character under the first run that covers it, and the character itself if no
run does. -/
def shiftBy (runs : List CaseRun) (c : Char) : Char :=
  match runs.find? (·.covers c.toNat) with
  | some run => Char.ofNat (run.apply c.toNat)
  | none => c

/-! ## Lower case -/

/-- Whether a character is a cased one that is not looked past. -/
def isCased (c : Char) : Bool := withinRanges casedRanges c.toNat

/-- Whether a character is looked past in the search for a cased one. -/
def isCaseIgnorable (c : Char) : Bool := withinRanges caseIgnorableRanges c.toNat

/-- Whether the first character that is not looked past is a cased one. -/
def seesCased (text : List Char) : Bool :=
  match text.dropWhile isCaseIgnorable with
  | [] => false
  | c :: _ => isCased c

/-- The small form of a capital sigma, given the characters before it, nearest first, and those
after it. -/
def smallSigma (before rest : List Char) : Char :=
  if seesCased before && !seesCased rest then 'ς' else 'σ'

/-- The lower case of a character whose surroundings do not matter. -/
def lowerChar (c : Char) : List Char :=
  if c = 'İ' then ['i', Char.ofNat 0x307] else [shiftBy loweringRuns c]

/-- The lower case of a text of which `before`, nearest character first, has been read. -/
def lowerAfter (before : List Char) : List Char → List Char
  | [] => []
  | c :: rest =>
    (if c = 'Σ' then [smallSigma before rest] else lowerChar c) ++ lowerAfter (c :: before) rest

/-- The lower case of a text. -/
def lower (text : List Char) : List Char := lowerAfter [] text

/-! ## Upper case -/

/-- The upper case of a character. -/
def upperChar (c : Char) : List Char :=
  match raisingExpansions.lookup c.toNat with
  | some codePoints => codePoints.map Char.ofNat
  | none => [shiftBy raisingRuns c]

/-- The upper case of a text. -/
def upper (text : List Char) : List Char := text.flatMap upperChar

/-- The upper case of a string. -/
def upperString (text : String) : String := String.ofList (upper text.toList)

end WorkflowArtifacts.Text
