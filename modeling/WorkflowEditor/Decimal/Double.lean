/-!
# Finite floating-point numbers of 64 bits

A finite double is a sign, a significand and a power of two.  Arithmetic is
exact on natural numbers and rounded once, to the nearest double, a half going
to the even neighbour.  Infinities and not-a-number are no values of this type:
rounding returns `none` beyond the largest finite double.
-/

namespace WorkflowEditor

/-- The finite double `± significand · 2 ^ exponent`.  `Double.ofRatio` builds
the representative with `2 ^ 52 ≤ significand`, or else the least exponent. -/
structure Double where
  negative : Bool
  significand : Nat
  exponent : Int
  deriving DecidableEq, Repr, Inhabited

namespace Double

/-- The exponent of the smallest positive double. -/
def leastExponent : Int := -1074

/-- The exponent of the largest finite double. -/
def greatestExponent : Int := 971

/-- The number of values of a significand, `2 ^ 53`. -/
def significandBound : Nat := 9007199254740992

/-- The natural number nearest to a ratio, a half going to the even neighbour. -/
def roundHalfEven (numerator denominator : Nat) : Nat :=
  let quotient := numerator / denominator
  let remainder := numerator % denominator
  if 2 * remainder < denominator then quotient
  else if denominator < 2 * remainder then quotient + 1
  else quotient + quotient % 2

/-- The ratio times a power of two, as a numerator and a denominator. -/
def scaleRatio (numerator denominator : Nat) (power : Int) : Nat × Nat :=
  if 0 ≤ power then (numerator * Nat.pow 2 power.toNat, denominator)
  else (numerator, denominator * Nat.pow 2 (-power).toNat)

/-- The greatest power of two that does not exceed a positive ratio. -/
def floorLog2 (numerator denominator : Nat) : Int :=
  let estimate : Int := (numerator.log2 : Int) - (denominator.log2 : Int)
  let scaled := scaleRatio numerator denominator (-estimate)
  if scaled.2 ≤ scaled.1 then estimate else estimate - 1

/-- The double nearest to `± numerator / denominator`, or `none` when that is
beyond the largest finite double. -/
def ofRatio (negative : Bool) (numerator denominator : Nat) : Option Double :=
  if numerator = 0 then
    some ⟨negative, 0, leastExponent⟩
  else
    let exponent := max leastExponent (floorLog2 numerator denominator - 52)
    let scaled := scaleRatio numerator denominator (-exponent)
    let significand := roundHalfEven scaled.1 scaled.2
    if significand = significandBound then
      if exponent + 1 ≤ greatestExponent then
        some ⟨negative, significandBound / 2, exponent + 1⟩
      else none
    else if exponent ≤ greatestExponent then
      some ⟨negative, significand, exponent⟩
    else none

/-- The zero of the given sign. -/
def zero (negative : Bool) : Double := ⟨negative, 0, leastExponent⟩

def isZero (value : Double) : Bool := value.significand == 0

/-- The double of opposite sign. -/
def negate (value : Double) : Double := { value with negative := !value.negative }

/-- The absolute value as a ratio of natural numbers. -/
def ratio (value : Double) : Nat × Nat :=
  scaleRatio value.significand 1 value.exponent

/-- The double nearest to a natural number. -/
def ofNat? (value : Nat) : Option Double := ofRatio false value 1

/-- The double nearest to `10 ^ power`. -/
def powerOfTen? (power : Nat) : Option Double := ofNat? (Nat.pow 10 power)

/-- The rounded product. -/
def product? (left right : Double) : Option Double :=
  ofRatio (left.negative != right.negative)
    (left.ratio.1 * right.ratio.1) (left.ratio.2 * right.ratio.2)

/-- The rounded quotient by a divisor that is not zero. -/
def quotient? (left right : Double) : Option Double :=
  ofRatio (left.negative != right.negative)
    (left.ratio.1 * right.ratio.2) (left.ratio.2 * right.ratio.1)

/-- Whether two doubles are the same number; the two zeros are. -/
def sameNumber (left right : Double) : Bool :=
  left == right || (left.isZero && right.isZero)

@[simp] theorem negate_negate (value : Double) : value.negate.negate = value := by
  simp [negate]

@[simp] theorem sameNumber_self (value : Double) : value.sameNumber value = true := by
  simp [sameNumber]

end Double

end WorkflowEditor
