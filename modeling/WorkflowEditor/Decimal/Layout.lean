import WorkflowEditor.Decimal.Shortest

/-!
# Number text

How a double is written: which powers of ten are positional, and how the power
is written in scientific form.
-/

namespace WorkflowEditor

/-- The choices in the text of a double. -/
structure NumberLayout where
  /-- The least power of ten that is written positionally. -/
  leastPositional : Int
  /-- The greatest power of ten that is written positionally. -/
  greatestPositional : Int
  /-- Whether a power of ten that is not negative is written with a plus. -/
  plusSign : Bool
  deriving DecidableEq, Repr

namespace NumberLayout

/-- JSON text: positional between `1e-5` and `1e15`, and a sign before every
power of ten. -/
def json : NumberLayout := ⟨-5, 15, true⟩

/-- YAML messages: as JSON text, without the plus. -/
def yaml : NumberLayout := ⟨-5, 15, false⟩

/-- Digits with a point after the power of ten, and at least one digit on either
side of it. -/
def positional (decimal : ScientificDecimal) : List Char :=
  if decimal.exponent < 0 then
    ['0', '.'] ++ List.replicate (-decimal.exponent - 1).toNat '0' ++ decimal.digits
  else
    let before := decimal.exponent.toNat + 1
    let whole := decimal.digits.take before
    let padded := whole ++ List.replicate (before - whole.length) '0'
    let fraction := decimal.digits.drop before
    padded ++ ['.'] ++ if fraction.isEmpty then ['0'] else fraction

/-- One digit, the other digits after a point, and the power of ten. -/
def scientific (layout : NumberLayout) (decimal : ScientificDecimal) : List Char :=
  let fraction := decimal.digits.drop 1
  let power :=
    if decimal.exponent < 0 then '-' :: Nat.toDigits 10 (-decimal.exponent).toNat
    else if layout.plusSign then '+' :: Nat.toDigits 10 decimal.exponent.toNat
    else Nat.toDigits 10 decimal.exponent.toNat
  decimal.digits.take 1 ++ (if fraction.isEmpty then [] else '.' :: fraction) ++ 'e' :: power

/-- The text of a double. -/
def render (layout : NumberLayout) (value : Double) : String :=
  let decimal := value.shortest
  let isPositional :=
    layout.leastPositional ≤ decimal.exponent ∧ decimal.exponent ≤ layout.greatestPositional
  let magnitude :=
    if isPositional then positional decimal else layout.scientific decimal
  String.ofList (if value.negative then '-' :: magnitude else magnitude)

end NumberLayout

end WorkflowEditor
