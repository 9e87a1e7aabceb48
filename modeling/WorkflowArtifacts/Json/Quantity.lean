import WorkflowArtifacts.Json.Basic

/-!
# The quantity that a number stands for

An integer stands for itself. A decimal stands for the nearest binary number of 53 significant
digits, so two decimals that differ in writing may stand for one quantity, and a decimal may stand
for another quantity than the integer that is written with the same digits: `1e22` is the integer
of that size, `1e23` is a little less than it.

Nearest means: with a tie going to the even mantissa, with no digit below the place `2 ^ -1074`,
and with `2 ^ 1024` standing for everything that is too large. All of this is exact arithmetic on
natural numbers.
-/

namespace WorkflowArtifacts

/-- The quantity `mantissa · 2 ^ exponent`. -/
structure Quantity where
  /-- The whole number that is scaled. -/
  mantissa : Int
  /-- The power of two that it is scaled by. -/
  exponent : Int
  deriving DecidableEq, Repr

namespace Quantity

/-- A whole number as a quantity. -/
def ofInt (n : Int) : Quantity := ⟨n, 0⟩

/-- The quantity with the other sign. -/
def neg (q : Quantity) : Quantity := ⟨-q.mantissa, q.exponent⟩

/-- Whether two quantities are equal: brought to the smaller of the two exponents, their mantissas
agree. -/
def same (a b : Quantity) : Bool :=
  let low := min a.exponent b.exponent
  a.mantissa * Int.pow 2 (a.exponent - low).toNat
    == b.mantissa * Int.pow 2 (b.exponent - low).toNat

/-- The whole number that a quantity equals, if it equals one. -/
def whole? (q : Quantity) : Option Int :=
  if 0 ≤ q.exponent then some (q.mantissa * Int.pow 2 q.exponent.toNat)
  else
    let scale := Int.pow 2 (-q.exponent).toNat
    if q.mantissa % scale = 0 then some (q.mantissa / scale) else none

theorem same_self (q : Quantity) : q.same q = true := by simp [same]

theorem same_ofInt (m n : Int) : (ofInt m).same (ofInt n) = decide (m = n) := by
  change (m * 1 == n * 1) = decide (m = n)
  rw [Int.mul_one, Int.mul_one]
  rfl

@[simp] theorem whole?_ofInt (n : Int) : (ofInt n).whole? = some n := by
  change some (n * 1) = some n
  rw [Int.mul_one]

/-! ## The nearest quantity -/

/-- The whole number nearest to `num / den`, the even one of two that are equally near. -/
def roundedQuotient (num den : Nat) : Nat :=
  let below := num / den
  let rest := 2 * (num % den)
  if rest < den ∨ rest = den ∧ below % 2 = 0 then below else below + 1

/-- A quotient that is whole is not changed by rounding. -/
theorem roundedQuotient_mul (n : Nat) {den : Nat} (h : 0 < den) :
    roundedQuotient (n * den) den = n := by
  simp [roundedQuotient, Nat.mul_div_cancel n h, h]

/-- Rounding is off by half at most. -/
theorem roundedQuotient_near (num : Nat) {den : Nat} (h : 0 < den) :
    2 * num ≤ 2 * (roundedQuotient num den * den) + den ∧
      2 * (roundedQuotient num den * den) ≤ 2 * num + den := by
  have split : num / den * den + num % den = num := by
    rw [Nat.mul_comm]; exact Nat.div_add_mod num den
  have small : num % den < den := Nat.mod_lt num h
  simp only [roundedQuotient]
  split
  · omega
  · rw [Nat.add_mul, Nat.one_mul]; omega

/-- What stands for everything that is too large. -/
def infinite : Quantity := ⟨1, 1024⟩

/-- The exponent of the greatest power of two that is not above `num / den`. -/
def leadingPlace (num den : Nat) : Int :=
  let place : Int := (num.log2 : Int) - den.log2
  if den * Nat.pow 2 place.toNat ≤ num * Nat.pow 2 (-place).toNat then place else place - 1

/-- The quantity of 53 binary digits that is nearest to `num / den`. -/
def nearest (num den : Nat) : Quantity :=
  if num = 0 then ofInt 0
  else
    let last := max (leadingPlace num den - 52) (-1074)
    let mantissa :=
      roundedQuotient (num * Nat.pow 2 (-last).toNat) (den * Nat.pow 2 last.toNat)
    if leadingPlace mantissa 1 + last < 1024 then ⟨mantissa, last⟩ else infinite

end Quantity

namespace Decimal

/-- The quantity that a decimal without its sign stands for. One that is far out of range is not
calculated. -/
def size (d : Decimal) : Quantity :=
  let place : Int := (Nat.toDigits 10 d.digits).length + d.exponent
  if d.digits = 0 ∨ place < -400 then .ofInt 0
  else if 400 < place then .infinite
  else .nearest (d.digits * Nat.pow 10 d.exponent.toNat) (Nat.pow 10 (-d.exponent).toNat)

/-- The quantity that a decimal stands for. -/
def quantity (d : Decimal) : Quantity := if d.negative then d.size.neg else d.size

/-- Whether a decimal is not too large to stand for a quantity of its own. -/
def isFinite (d : Decimal) : Bool := d.size != .infinite

end Decimal

/-- The quantity that a number stands for, if it stands for one. -/
def Number.quantity? : Number → Option Quantity
  | .integer n => some (.ofInt n)
  | .decimal d => some d.quantity
  | .undefined => none

end WorkflowArtifacts
