import WorkflowArtifacts.Json.Finite
import WorkflowArtifacts.Text.Quoted

/-!
# The text of a value inside a message

Ids and form keys are put into names, conditions and messages as text. A string stands for itself
there; every other value is spelled out, and strings inside it are quoted. The absent value and
the truth values have capitalised names.

Decimals are written positionally while their first digit stands between the fourth place after
the point and the sixteenth before it, and with an exponent of at least two digits otherwise. What
is too large and what is no number have names.
-/

namespace WorkflowArtifacts

namespace Decimal

/-- The digits of a natural number without the zeros at its end. -/
def significantDigits (n : Nat) : List Char :=
  ((Nat.toDigits 10 n).reverse.dropWhile (· == '0')).reverse

/-- The digits of a number whose point stands `place` digits after the start: with a zero in front
if nothing precedes the point, and behind if nothing follows it. -/
def positional (digits : List Char) (place : Int) : List Char :=
  let whole :=
    if place ≤ 0 then ['0']
    else digits.take place.toNat ++ List.replicate (place.toNat - digits.length) '0'
  let fraction :=
    if place ≤ 0 then List.replicate (-place).toNat '0' ++ digits else digits.drop place.toNat
  whole ++ '.' :: (if fraction.isEmpty then ['0'] else fraction)

/-- The digits of a number in exponent notation: one digit, the others after a point if there are
any, then the exponent with its sign and at least two digits. -/
def scientific (digits : List Char) (exponent : Int) : List Char :=
  let magnitude := Nat.toDigits 10 exponent.natAbs
  let padded := List.replicate (2 - magnitude.length) '0' ++ magnitude
  let fraction := if digits.length ≤ 1 then [] else '.' :: digits.drop 1
  digits.take 1 ++ fraction ++ 'e' :: (if exponent < 0 then '-' else '+') :: padded

/-- The text of a decimal. -/
def display (d : Decimal) : String :=
  let digits := significantDigits d.digits
  let unsigned :=
    if digits.isEmpty then ['0', '.', '0']
    else if !d.isFinite then ['i', 'n', 'f']
    else
      let place : Int := (Nat.toDigits 10 d.digits).length + d.exponent
      if -4 ≤ place - 1 ∧ place - 1 < 16 then positional digits place
      else scientific digits (place - 1)
  String.ofList (if d.negative then '-' :: unsigned else unsigned)

end Decimal

/-- The text of a number. -/
def Number.display : Number → String
  | .integer n => toString n
  | .decimal d => d.display
  | .undefined => "nan"

namespace Json

/-- The text of a truth value. -/
def displayBool (b : Bool) : String := if b then "True" else "False"

mutual

/-- The text of a value that stands inside another one. -/
def inner : Json → String
  | .null => "None"
  | .bool b => displayBool b
  | .number n => n.display
  | .text s => Text.quote s
  | .array xs => "[" ++ ", ".intercalate (innerItems xs) ++ "]"
  | .object es => "\x7b" ++ ", ".intercalate (innerEntries es) ++ "\x7d"

/-- The texts of the items of an array. -/
def innerItems : List Json → List String
  | [] => []
  | x :: xs => inner x :: innerItems xs

/-- The texts of the entries of an object. -/
def innerEntries : List (String × Json) → List String
  | [] => []
  | (key, x) :: rest => (Text.quote key ++ ": " ++ inner x) :: innerEntries rest

end

/-- The text of a value inside a message or a name: a string as it is, anything else spelled
out. -/
def display : Json → String
  | .text s => s
  | j => inner j

/-- The word for a value's kind in messages about values of the wrong kind. -/
def nature : Json → String
  | .null => "NoneType"
  | .bool _ => "bool"
  | .number (.integer _) => "int"
  | .number (.decimal _) | .number .undefined => "float"
  | .text _ => "str"
  | .array _ => "list"
  | .object _ => "dict"

@[simp] theorem display_text (s : String) : (Json.text s).display = s := rfl

end Json

end WorkflowArtifacts
