/-!
# JSON documents

The values that workflow definitions, settings and artifacts are read from and written to.

Two decisions matter to everything above. Integers and decimals are different numbers, because
an integer may be arbitrarily large and is written back digit for digit, while a decimal is read
by its value. Objects keep the order of their entries, because the text of an object inside a
message shows that order; whether order matters for equality is decided in `Json.Equivalence`.
-/

namespace WorkflowArtifacts

/-- A finite decimal, `± digits · 10 ^ exponent`. The sign is separate so that a negative zero
keeps it. -/
structure Decimal where
  /-- Whether the number carries a minus sign. -/
  negative : Bool
  /-- The significant digits, read as a natural number. -/
  digits : Nat
  /-- The power of ten that the digits are multiplied by. -/
  exponent : Int
  deriving DecidableEq, Repr, Inhabited

/-- A number as written: without or with a fraction or exponent, or not as a number at all. -/
inductive Number where
  /-- A whole number of any size. -/
  | integer (value : Int)
  /-- A number written with a fraction or an exponent, whole or not. -/
  | decimal (value : Decimal)
  /-- What is no number, though it stands in the place of one. -/
  | undefined
  deriving DecidableEq, Repr, Inhabited

/-- A JSON document. -/
inductive Json where
  /-- The absent value. -/
  | null
  /-- A truth value. -/
  | bool (value : Bool)
  /-- A number. -/
  | number (value : Number)
  /-- A string. -/
  | text (value : String)
  /-- An array. -/
  | array (items : List Json)
  /-- An object with its entries in written order. -/
  | object (entries : List (String × Json))
  deriving Inhabited

namespace Json

/-- The integer `n`. -/
def int (n : Int) : Json := .number (.integer n)

/-- A string, or the absent value. -/
def ofText? : Option String → Json
  | none => .null
  | some s => .text s

/-- A truth value, or the absent value. -/
def ofBool? : Option Bool → Json
  | none => .null
  | some b => .bool b

/-- An array of strings. -/
def ofTexts (texts : List String) : Json := .array (texts.map .text)

/-- Whether this is the absent value. -/
def isNull : Json → Bool
  | .null => true
  | _ => false

/-- The string, if this is one. -/
def text? : Json → Option String
  | .text s => some s
  | _ => none

/-- The truth value, if this is one. -/
def bool? : Json → Option Bool
  | .bool b => some b
  | _ => none

/-- The items of an array; nothing else has any. -/
def items : Json → List Json
  | .array items => items
  | _ => []

/-- The entries of an object; nothing else has any. -/
def entries : Json → List (String × Json)
  | .object entries => entries
  | _ => []

/-- The value under `key`, if this is an object that has the key. -/
def get? (j : Json) (key : String) : Option Json := j.entries.lookup key

/-- The value under `key`, and the absent value where there is none. -/
def get (j : Json) (key : String) : Json := (j.get? key).getD .null

mutual

/-- How many levels a document has: one for a value that holds no others. -/
def height : Json → Nat
  | .array xs => heightItems xs + 1
  | .object es => heightEntries es + 1
  | _ => 1

/-- How many levels the highest of the items has. -/
def heightItems : List Json → Nat
  | [] => 0
  | x :: xs => max x.height (heightItems xs)

/-- How many levels the highest value of the entries has. -/
def heightEntries : List (String × Json) → Nat
  | [] => 0
  | (_, x) :: rest => max x.height (heightEntries rest)

end

@[simp] theorem isNull_null : Json.null.isNull = true := rfl

@[simp] theorem isNull_text (s : String) : (Json.text s).isNull = false := rfl

theorem isNull_iff (j : Json) : j.isNull = true ↔ j = .null := by
  cases j <;> simp [isNull]

@[simp] theorem isNull_ofText? (s : Option String) : (ofText? s).isNull = s.isNone := by
  cases s <;> rfl

@[simp] theorem text?_ofText? (s : Option String) : (ofText? s).text? = s := by
  cases s <;> rfl

@[simp] theorem bool?_ofBool? (b : Option Bool) : (ofBool? b).bool? = b := by
  cases b <;> rfl

end Json

end WorkflowArtifacts
