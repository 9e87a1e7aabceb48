import WorkflowArtifacts.Text.Case

/-!
# Identifiers

The identifiers of generated artifacts. An identifier serves as namespace qualifier and inside
module ids, so it starts with a small letter or an underscore and goes on with small letters,
digits and underscores. `sanitize` makes one of any text and `isValid` recognises one.

The two differ in one point: recognition reads a line, so a single line break at the end of a text
does not spoil it, whereas sanitizing replaces that line break too.
-/

namespace WorkflowArtifacts.Identifier

/-- A small letter or an underscore. -/
def isLead (c : Char) : Bool := ('a' ≤ c && c ≤ 'z') || c == '_'

/-- A decimal digit. -/
def isDigit (c : Char) : Bool := '0' ≤ c && c ≤ '9'

/-- A character that an identifier may go on with. -/
def isBody (c : Char) : Bool := isLead c || isDigit c

/-! ## Recognising -/

/-- A whole text is an identifier, nothing before or after it. -/
def matchesExactly : List Char → Bool
  | [] => false
  | c :: rest => isLead c && rest.all isBody

/-- The line a text holds: the text without the one line break it may end in. -/
def line (text : List Char) : List Char :=
  if text.getLast? = some '\n' then text.dropLast else text

/-- Whether a text is an identifier, possibly with a line break at its end. -/
def isValid (text : String) : Bool := matchesExactly (line text.toList)

/-! ## Making one of any text -/

/-- A character as it may stand in an identifier. -/
def sanitizeChar (c : Char) : Char := if isBody c then c else '_'

/-- An underscore where an identifier could not start. -/
def withLead : List Char → List Char
  | [] => ['_']
  | c :: rest => if isDigit c then '_' :: c :: rest else c :: rest

/-- The identifier for a text: its lower case with an underscore for every character that has no
place in an identifier, and one in front of a leading digit or in place of nothing. -/
def sanitizeChars (text : List Char) : List Char := withLead ((Text.lower text).map sanitizeChar)

/-- The identifier for a string. -/
def sanitize (text : String) : String := String.ofList (sanitizeChars text.toList)

end WorkflowArtifacts.Identifier
