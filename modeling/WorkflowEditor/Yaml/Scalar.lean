import WorkflowEditor.Decimal.Layout
import WorkflowEditor.Yaml.Token

/-!
# The values of plain scalars

A plain scalar is null, a boolean, an integer or a float if it is written like
one, and text otherwise.  Integers may be decimal, hexadecimal, octal or binary;
decimal digits behind a zero are text.  A tag may ask for one of these kinds.
-/

namespace WorkflowEditor

namespace Yaml

/-- A floating-point number of YAML. -/
inductive FloatValue where
  | finite (value : Double)
  | infinite (negative : Bool)
  | notANumber
  deriving DecidableEq, Repr, Inhabited

/-- The value of a scalar. -/
inductive ScalarValue where
  | null
  | bool (value : Bool)
  | integer (value : Int)
  | float (value : FloatValue)
  | text (value : String)
  deriving DecidableEq, Repr, Inhabited

/-- A kind of scalar that a tag asks for. -/
inductive ScalarKind where
  | bool
  | integer
  | float
  | null
  deriving DecidableEq, Repr

/-- Why a scalar has no value. -/
inductive ScalarFault where
  /-- The scalar is not written like the kind that its tag asks for. -/
  | notOfKind (text : String) (kind : ScalarKind)
  /-- The integer is outside the range of 64 bits. -/
  | integerTooLarge (value : Int)
  deriving DecidableEq, Repr

/-- The wording of a kind. -/
def ScalarKind.describe : ScalarKind → String
  | .bool => "a boolean"
  | .integer => "an integer"
  | .float => "a float"
  | .null => "null"

namespace Scalar

/-- Whether the text writes null. -/
def isNull (chars : List Char) : Bool :=
  ["null", "Null", "NULL", "~"].contains (String.ofList chars)

/-- The boolean that the text writes. -/
def bool? (chars : List Char) : Option Bool :=
  let text := String.ofList chars
  if ["true", "True", "TRUE"].contains text then some true
  else if ["false", "False", "FALSE"].contains text then some false
  else none

/-! ## Integers -/

/-- The text without a plus or minus in front. -/
def withoutSign : List Char → List Char
  | '+' :: rest | '-' :: rest => rest
  | chars => chars

/-- Whether the text writes decimal digits behind a zero. -/
def isZeroPadded (chars : List Char) : Bool :=
  match withoutSign chars with
  | '0' :: next :: rest => (next :: rest).all Char.isDigit
  | _ => false

/-- The number that digits of a base write. -/
def digits? (base : Nat) (chars : List Char) : Option Nat :=
  if chars.isEmpty then none
  else
    chars.foldlM (fun value char =>
      (Scan.hexValue? char).bind fun digit =>
        if digit < base then some (value * base + digit) else none) 0

/-- The base that a letter behind a zero announces. -/
def baseOf? : Char → Option Nat
  | 'x' => some 16
  | 'o' => some 8
  | 'b' => some 2
  | _ => none

/-- The magnitude of a number without a sign, if it is at most the bound. -/
def magnitude? (bound : Nat) (chars : List Char) : Option Nat :=
  let written? :=
    match chars with
    | '0' :: letter :: rest =>
        match baseOf? letter with
        | some base => digits? base rest
        | none => digits? 10 chars
    | _ => digits? 10 chars
  written?.filter (· ≤ bound)

/-- The integer that the text writes, if it is neither above one bound nor below
the negative of the other. -/
def integerWithin? (greatest least : Nat) (chars : List Char) : Option Int :=
  if isZeroPadded chars then none
  else
    match chars with
    | '-' :: rest => (magnitude? least rest).map fun value => -(value : Int)
    | '+' :: rest => (magnitude? greatest rest).map Int.ofNat
    | _ => (magnitude? greatest chars).map Int.ofNat

/-- The integer of at most 128 bits that the text writes. -/
def integer? (chars : List Char) : Option Int :=
  integerWithin? (Nat.pow 2 128 - 1) (Nat.pow 2 127) chars

/-- Whether an integer is in the range of 64 bits. -/
def fits (value : Int) : Bool :=
  -9223372036854775808 ≤ value && value ≤ 18446744073709551615

/-! ## Floats -/

/-- The exponent behind its letter. -/
def exponent? (chars : List Char) : Option Int :=
  let digits := withoutSign chars
  (digits? 10 digits).map fun value =>
    if chars.head? = some '-' then -(value : Int) else value

/-- The double that a significand and a power of ten write, rounded once. -/
def ofDecimal? (negative : Bool) (significand : Nat) (power : Int) : Option Double :=
  let length : Int := (Nat.toDigits 10 significand).length
  if significand = 0 || length + power < -400 then some (.zero negative)
  else if 400 < length + power then none
  else if 0 ≤ power then Double.ofRatio negative (significand * Nat.pow 10 power.toNat) 1
  else Double.ofRatio negative significand (Nat.pow 10 (-power).toNat)

/-- The finite double that the text without a plus writes: digits, perhaps with a
point among them, and perhaps an exponent. -/
def double? (chars : List Char) : Option Double :=
  let negative := chars.head? = some '-'
  let body := if negative then chars.drop 1 else chars
  let whole := body.takeWhile Char.isDigit
  let afterWhole := body.dropWhile Char.isDigit
  let (fraction, tail) :=
    match afterWhole with
    | '.' :: rest => (rest.takeWhile Char.isDigit, rest.dropWhile Char.isDigit)
    | _ => ([], afterWhole)
  if whole.isEmpty && fraction.isEmpty then none
  else
    let exponent? :=
      match tail with
      | [] => some 0
      | letter :: rest => if letter = 'e' || letter = 'E' then exponent? rest else none
    exponent?.bind fun exponent =>
      ofDecimal? negative (Nat.ofDigitChars 10 (whole ++ fraction) 0)
        (exponent - fraction.length)

/-- The float that the text writes. -/
def float? (chars : List Char) : Option FloatValue :=
  let unsigned? :=
    match chars with
    | '+' :: rest => if startsWith (fun c => c == '+' || c == '-') rest then none else some rest
    | _ => some chars
  unsigned?.bind fun unsigned =>
    let text := String.ofList unsigned
    let whole := String.ofList chars
    if [".inf", ".Inf", ".INF"].contains text then some (.infinite false)
    else if ["-.inf", "-.Inf", "-.INF"].contains whole then some (.infinite true)
    else if [".nan", ".NaN", ".NAN"].contains whole then some .notANumber
    else (double? unsigned).map .finite

/-! ## Scalars -/

/-- The integer, unless it is outside the range of 64 bits. -/
def checked (value : Int) : Except ScalarFault ScalarValue :=
  if fits value then .ok (.integer value) else .error (.integerTooLarge value)

/-- The value of a plain scalar without a tag. -/
def resolve (chars : List Char) : Except ScalarFault ScalarValue :=
  if chars.isEmpty || isNull chars then .ok .null
  else
    match bool? chars, integer? chars with
    | some value, _ => .ok (.bool value)
    | none, some value => checked value
    | none, none =>
        match if isZeroPadded chars then none else float? chars with
        | some value => .ok (.float value)
        | none => .ok (.text (String.ofList chars))

/-- The value of a scalar whose tag asks for a kind. -/
def ofKind (kind : ScalarKind) (chars : List Char) : Except ScalarFault ScalarValue :=
  let value? : Option ScalarValue :=
    match kind with
    | .bool => (bool? chars).map .bool
    | .integer => (integer? chars).map .integer
    | .float => (float? chars).map .float
    | .null => if isNull chars then some .null else none
  match value? with
  | some (.integer value) => checked value
  | some value => .ok value
  | none => .error (.notOfKind (String.ofList chars) kind)

/-- The kind of scalar that a tag asks for. -/
def kindOfTag? (tag : Tag) : Option ScalarKind :=
  if tag.chars = "tag:yaml.org,2002:bool".toList then some .bool
  else if tag.chars = "tag:yaml.org,2002:int".toList then some .integer
  else if tag.chars = "tag:yaml.org,2002:float".toList then some .float
  else if tag.chars = "tag:yaml.org,2002:null".toList then some .null
  else none

/-- Whether a tag is local to the document. -/
def isLocal (tag : Tag) : Bool := tag.chars.head? == some '!'

/-- The value of a scalar with its tag. -/
def value (tag? : Option Tag) (style : ScalarStyle) (chars : List Char) :
    Except ScalarFault ScalarValue :=
  match tag?, tag?.bind kindOfTag? with
  | some _, some kind => ofKind kind chars
  | some tag, none =>
      if isLocal tag && style == .plain then resolve chars
      else .ok (.text (String.ofList chars))
  | none, _ => if style == .plain then resolve chars else .ok (.text (String.ofList chars))

end Scalar

end Yaml

end WorkflowEditor
