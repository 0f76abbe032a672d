import WorkflowEditor.FieldPath.Basic
import WorkflowEditor.Decode.Decoder

/-!
# Paths as JSON

A path is written as an object with the list of its steps, and a step as an
object that names its kind.
-/

namespace WorkflowEditor

/-- A step as JSON. -/
def Segment.toJson : Segment → Json
  | .key name => .object [("Key", .string name)]
  | .index position => .object [("Index", .ofNat position)]

/-- Read a step. -/
def Segment.decoder : Decoder Segment :=
  .enumeration [
    ("Key", .carrying (.map .key .text)),
    ("Index", .carrying (.map .index .index))]

/-- The steps as JSON. -/
def FieldPath.segmentsJson (path : FieldPath) : Json :=
  .array (path.segments.map Segment.toJson)

/-- A path as JSON. -/
def FieldPath.toJson (path : FieldPath) : Json :=
  .object [("segments", path.segmentsJson)]

/-- Read a list of steps. -/
def FieldPath.segmentsDecoder : Decoder (List Segment) := .list Segment.decoder

/-- Read a path. -/
def FieldPath.decoder : Decoder FieldPath :=
  .record "struct FieldPath"
    (.field "segments" segmentsDecoder .error .done)
    fun (segments, ()) => ⟨segments⟩

end WorkflowEditor
