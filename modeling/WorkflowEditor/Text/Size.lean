/-!
# The size of a text

Places in a text that faults name count bytes; a character takes as many bytes as
its UTF-8 encoding.
-/

namespace WorkflowEditor.Text

/-- The number of bytes of some characters. -/
def byteSize : List Char → Nat
  | [] => 0
  | char :: rest => char.utf8Size + byteSize rest

@[simp] theorem byteSize_append (left right : List Char) :
    byteSize (left ++ right) = byteSize left + byteSize right := by
  induction left with
  | nil => simp [byteSize]
  | cons char rest ih => simp [byteSize, ih, Nat.add_assoc]

end WorkflowEditor.Text
