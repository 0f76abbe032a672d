import WorkflowEditor.Json.Basic
import WorkflowEditor.Yaml.Scalar

/-!
# YAML values

A YAML value is a scalar, a sequence, a mapping whose keys may be any values, or
a value under a local tag.  Two keys are the same if they are equal values, where
the two zeros are one number, not-a-number is itself, and the entries of a mapping
have no order.
-/

namespace WorkflowEditor

namespace Yaml

/-- A YAML value. -/
inductive Tree where
  | scalar (value : ScalarValue)
  | sequence (items : List Tree)
  | mapping (entries : List (Tree × Tree))
  | tagged (tag : String) (content : Tree)
  deriving Repr, Inhabited

/-- Whether two floats are one number. -/
def FloatValue.same : FloatValue → FloatValue → Bool
  | .finite left, .finite right => left.sameNumber right
  | .infinite left, .infinite right => left == right
  | .notANumber, .notANumber => true
  | _, _ => false

/-- Whether two scalars are one value. -/
def ScalarValue.same : ScalarValue → ScalarValue → Bool
  | .float left, .float right => left.same right
  | left, right => left == right

/-- A tag without the exclamation mark in front, unless it is nothing else. -/
def plainTag (tag : String) : String :=
  match tag.toList with
  | '!' :: char :: rest => String.ofList (char :: rest)
  | _ => tag

namespace Tree

mutual

/-- Whether two trees are one value. -/
def same : Tree → Tree → Bool
  | .scalar left, .scalar right => left.same right
  | .sequence left, .sequence right => sameItems left right
  | .mapping left, .mapping right =>
      left.length == right.length && entriesWithin left right
  | .tagged leftTag left, .tagged rightTag right =>
      plainTag leftTag == plainTag rightTag && same left right
  | _, _ => false

/-- Whether two lists hold one value at each place. -/
def sameItems : List Tree → List Tree → Bool
  | [], [] => true
  | left :: lefts, right :: rights => same left right && sameItems lefts rights
  | _, _ => false

/-- Whether each entry is among the others. -/
def entriesWithin : List (Tree × Tree) → List (Tree × Tree) → Bool
  | [], _ => true
  | (key, value) :: rest, entries =>
      entries.any (fun entry => same key entry.1 && same value entry.2) &&
        entriesWithin rest entries

end

/-- Whether a key is among those of the entries. -/
def hasKey (entries : List (Tree × Tree)) (key : Tree) : Bool :=
  entries.any fun entry => entry.1.same key

end Tree

/-! ## JSON -/

/-- Why a YAML value has no JSON form. -/
inductive ConversionError where
  | keyNotText
  | keyNotFinite
  deriving DecidableEq, Repr

/-- The wording of an error. -/
def ConversionError.message : ConversionError → String
  | .keyNotText => "key must be a string"
  | .keyNotFinite => "float key must be finite (got NaN or +/-inf)"

/-- The JSON value of a scalar; null stands for what is no finite number. -/
def ScalarValue.toJson : ScalarValue → Json
  | .null => .null
  | .bool value => .bool value
  | .integer value => .number (.integer value)
  | .float (.finite value) => .number (.double value)
  | .float (.infinite _) | .float .notANumber => .null
  | .text value => .string value

/-- The name of the member for a key. -/
def ScalarValue.memberName : ScalarValue → Except ConversionError String
  | .null => .error .keyNotText
  | .bool value => .ok (toString value)
  | .integer value => .ok (toString value)
  | .float (.finite value) => .ok (NumberLayout.json.render value)
  | .float (.infinite _) | .float .notANumber => .error .keyNotFinite
  | .text value => .ok value

namespace Tree

/-- The name of the member for a key. -/
def memberName : Tree → Except ConversionError String
  | .scalar value => value.memberName
  | .sequence _ | .mapping _ | .tagged _ _ => .error .keyNotText

mutual

/-- The JSON value of a tree, the members of objects in the order of the entries.
A tag becomes the only member of an object. -/
def toRawJson : Tree → Except ConversionError Json
  | .scalar value => .ok value.toJson
  | .sequence items => (itemsToJson items).map .array
  | .mapping entries => (entriesToJson entries).map .object
  | .tagged tag content => do
      return .object [("!" ++ plainTag tag, ← toRawJson content)]

/-- The JSON values of items. -/
def itemsToJson : List Tree → Except ConversionError (List Json)
  | [] => .ok []
  | item :: rest => do
      let first ← toRawJson item
      return first :: (← itemsToJson rest)

/-- The members for entries. -/
def entriesToJson : List (Tree × Tree) → Except ConversionError (List (String × Json))
  | [] => .ok []
  | (key, value) :: rest => do
      let name ← memberName key
      let value ← toRawJson value
      return (name, value) :: (← entriesToJson rest)

end

/-- The JSON value of a tree; of several entries with one name the last is kept. -/
def toJson (tree : Tree) : Except ConversionError Json := tree.toRawJson.map Json.normalize

theorem exists_of_map_eq_ok {ε α β : Type} {outcome : Except ε α} {change : α → β} {value : β}
    (mapped : outcome.map change = .ok value) :
    ∃ found, outcome = .ok found ∧ value = change found := by
  cases outcome with
  | error error => contradiction
  | ok found =>
      cases mapped
      exact ⟨found, rfl, rfl⟩

theorem wellFormed_of_toJson {tree : Tree} {value : Json} (converted : tree.toJson = .ok value) :
    value.WellFormed := by
  obtain ⟨raw, -, rfl⟩ := exists_of_map_eq_ok converted
  exact Json.wellFormed_normalize raw

end Tree

end Yaml

end WorkflowEditor
