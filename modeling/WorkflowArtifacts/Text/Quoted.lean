import WorkflowArtifacts.Text.PrintableTable

/-!
# Quoted texts

The form in which a text stands inside a larger value: between quotation marks, with everything
that could be misread replaced by an escape. The marks are apostrophes, unless the text itself
has apostrophes and no double quotation marks.
-/

namespace WorkflowArtifacts.Text

/-- The apostrophe. -/
def apostrophe : Char := Char.ofNat 0x27

/-- The double quotation mark. -/
def doubleMark : Char := Char.ofNat 0x22

/-- The backslash, which opens every escape. -/
def backslash : Char := Char.ofNat 0x5C

/-- The number `n` in small hexadecimal digits, with zeros in front up to `width` digits. -/
def hexadecimal (width n : Nat) : List Char :=
  let digits := Nat.toDigits 16 n
  List.replicate (width - digits.length) '0' ++ digits

/-- The escape of a character by its number: two, four or eight digits, the fewest that hold it. -/
def numericEscape (c : Char) : List Char :=
  let n := c.toNat
  if n < 0x100 then backslash :: 'x' :: hexadecimal 2 n
  else if n < 0x10000 then backslash :: 'u' :: hexadecimal 4 n
  else backslash :: 'U' :: hexadecimal 8 n

/-- A character inside a text between marks `mark`. -/
def quotedChar (mark c : Char) : List Char :=
  if c = mark ∨ c = backslash then [backslash, c]
  else if c = '\n' then [backslash, 'n']
  else if c = '\r' then [backslash, 'r']
  else if c = '\t' then [backslash, 't']
  else if isPrintable c then [c]
  else numericEscape c

/-- The marks that a text is put between. -/
def quotationMark (text : List Char) : Char :=
  if text.contains apostrophe && !text.contains doubleMark then doubleMark else apostrophe

/-- A text between its marks. -/
def quote (text : String) : String :=
  let mark := quotationMark text.toList
  String.ofList (mark :: text.toList.flatMap (quotedChar mark) ++ [mark])

end WorkflowArtifacts.Text
