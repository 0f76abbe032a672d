import WorkflowEditor.Decimal.Layout
import WorkflowEditor.Text.Quoted

/-!
# Why a value does not decode

An error names what was found and what the place expects.  Errors are causes;
`DecodeError.message` is their one wording.
-/

namespace WorkflowEditor

/-- What was found at a place. -/
inductive Found where
  | null
  | bool (value : Bool)
  | integer (value : Int)
  | double (value : Double)
  | text (value : String)
  | sequence
  | map
  | unitVariant
  deriving DecidableEq, Repr

/-- What a place expects. -/
inductive Expected where
  | text
  | boolean
  | index
  | unit
  | sequence
  | record (name : String)
  | taggedUnion (name : String)
  | variantName
  | variant
  | singleEntry
  | carryingVariant
  | recordItems (name : String) (count : Nat)
  | fewerItems
  | items (count : Nat)
  deriving DecidableEq, Repr

/-- Why a value does not decode. -/
inductive DecodeError where
  | invalidType (found : Found) (expected : Expected)
  | invalidValue (found : Found) (expected : Expected)
  | invalidLength (length : Nat) (expected : Expected)
  | missingField (name : String)
  | duplicateField (name : String)
  | unknownVariant (name : String) (allowed : List String)
  deriving DecidableEq, Repr

/-- The wording of what was found. -/
def Found.describe : Found → String
  | .null => "null"
  | .bool value => s!"boolean `{value}`"
  | .integer value => s!"integer `{value}`"
  | .double value => "floating point `" ++ NumberLayout.json.render value ++ "`"
  | .text value => "string " ++ Text.quoted value
  | .sequence => "sequence"
  | .map => "map"
  | .unitVariant => "unit variant"

/-- A count of elements. -/
def elementCount (count : Nat) : String :=
  if count = 1 then "1 element" else s!"{count} elements"

/-- The wording of what is expected. -/
def Expected.describe : Expected → String
  | .text => "a string"
  | .boolean => "a boolean"
  | .index => "usize"
  | .unit => "unit"
  | .sequence => "a sequence"
  | .record name => name
  | .taggedUnion name => "internally tagged enum " ++ name
  | .variantName => "variant identifier"
  | .variant => "string or map"
  | .singleEntry => "map with a single key"
  | .carryingVariant => "newtype variant"
  | .recordItems name count => name ++ " with " ++ elementCount count
  | .fewerItems => "fewer elements in array"
  | .items count => elementCount count ++ " in sequence"

/-- The wording of a choice of names. -/
def oneOf : List String → String
  | [] => "there are no variants"
  | [only] => s!"expected `{only}`"
  | [first, second] => s!"expected `{first}` or `{second}`"
  | names => "expected one of " ++ ", ".intercalate (names.map fun name => s!"`{name}`")

/-- The wording of an error. -/
def DecodeError.message : DecodeError → String
  | .invalidType found expected =>
      s!"invalid type: {found.describe}, expected {expected.describe}"
  | .invalidValue found expected =>
      s!"invalid value: {found.describe}, expected {expected.describe}"
  | .invalidLength length expected =>
      s!"invalid length {length}, expected {expected.describe}"
  | .missingField name => s!"missing field `{name}`"
  | .duplicateField name => s!"duplicate field `{name}`"
  | .unknownVariant name allowed => s!"unknown variant `{name}`, {oneOf allowed}"

end WorkflowEditor
