import WorkflowEditor.Decimal.Double

/-!
# The fewest digits that read back

A double is the nearest one to every number of a small interval.  The shortest
decimal of a double is the decimal with the fewest digits inside that interval;
of two it is the nearer one, and of two equally near the one with the even last
digit.  Each number of digits is tried in turn in exact arithmetic: a grid of
decimals meets the interval only if one of the value's two neighbours does.
-/

namespace WorkflowEditor

/-- A decimal in scientific form: its digits, of which the first stands before
the point, and the power of ten. -/
structure ScientificDecimal where
  digits : List Char
  exponent : Int
  deriving DecidableEq, Repr, Inhabited

namespace Double

/-- The interval of numbers that round to a positive double, in units of
`2 ^ (exponent - 2)`: its lower end, the value and its upper end. -/
def roundingInterval (value : Double) : Nat × Nat × Nat :=
  let middle := 4 * value.significand
  let atBinade :=
    value.significand = significandBound / 2 ∧ leastExponent < value.exponent
  (if atBinade then middle - 1 else middle - 2, middle, middle + 2)

/-- The power of ten of the first digit of a positive ratio. -/
def floorLog10 (numerator denominator : Nat) : Int :=
  ((Nat.toDigits 10 (numerator * Nat.pow 10 400 / denominator)).length : Int) - 401

/-- The decimal `candidate · 10 ^ power`, without zeros at its end. -/
def decimalOf (candidate : Nat) (power : Int) : ScientificDecimal :=
  let digits := Nat.toDigits 10 candidate
  let trimmed := (digits.reverse.dropWhile (· == '0')).reverse
  ⟨if trimmed.isEmpty then ['0'] else trimmed, power + digits.length - 1⟩

/-- The decimal on the grid of step `10 ^ power` that rounds to the double, if
there is one. -/
def decimalOnGrid? (value : Double) (power : Int) : Option ScientificDecimal :=
  let ends := value.roundingInterval
  -- the value is `ends.2.1 · unit.1 / unit.2` grid steps
  let binary := scaleRatio 1 1 (value.exponent - 2)
  let unit : Nat × Nat :=
    if 0 ≤ power then (binary.1, binary.2 * Nat.pow 10 power.toNat)
    else (binary.1 * Nat.pow 10 (-power).toNat, binary.2)
  let closed := value.significand % 2 = 0
  let roundsBack (candidate : Nat) : Bool :=
    let position := candidate * unit.2
    if closed then ends.1 * unit.1 ≤ position && position ≤ ends.2.2 * unit.1
    else ends.1 * unit.1 < position && position < ends.2.2 * unit.1
  let below := ends.2.1 * unit.1 / unit.2
  let distanceBelow := ends.2.1 * unit.1 - below * unit.2
  let distanceAbove := (below + 1) * unit.2 - ends.2.1 * unit.1
  let candidate? : Option Nat :=
    match roundsBack below && 0 < below, roundsBack (below + 1) with
    | true, true =>
        if distanceBelow < distanceAbove then some below
        else if distanceAbove < distanceBelow then some (below + 1)
        else some (below + below % 2)
    | true, false => some below
    | false, true => some (below + 1)
    | false, false => none
  candidate?.map fun candidate => decimalOf candidate power

/-- The shortest decimal of the absolute value. -/
def shortest (value : Double) : ScientificDecimal :=
  if value.isZero then ⟨['0'], 0⟩
  else
    let leading := floorLog10 value.ratio.1 value.ratio.2
    let grids := (List.range 17).map fun (fewer : Nat) => leading - (fewer : Int)
    (grids.findSome? value.decimalOnGrid?).getD ⟨['0'], 0⟩

end Double

end WorkflowEditor
