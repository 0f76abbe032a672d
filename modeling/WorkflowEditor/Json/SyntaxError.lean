/-!
# Places in a text and faults of JSON text

A fault is found at a number of bytes from the start of the text.  Messages give
the line, counted from one, and the number of bytes since the last line break.
-/

namespace WorkflowEditor

/-- A line, counted from one, and the number of bytes before the place on it. -/
structure TextPosition where
  line : Nat
  column : Nat
  deriving DecidableEq, Repr

namespace TextPosition

/-- Walk to the place `offset` bytes from the start: `passed` bytes lie behind,
and `lineStart` of them before the line. -/
def walk (offset : Nat) : List Char → (passed line lineStart : Nat) → TextPosition
  | [], _, line, lineStart => ⟨line, offset - lineStart⟩
  | char :: rest, passed, line, lineStart =>
      if offset ≤ passed then ⟨line, offset - lineStart⟩
      else if char = '\n' then walk offset rest (passed + 1) (line + 1) (passed + 1)
      else walk offset rest (passed + char.utf8Size) line lineStart

/-- The place that many bytes from the start of the text. -/
def ofOffset (text : String) (offset : Nat) : TextPosition :=
  walk offset text.toList 0 1 0

/-- The suffix of a message that names the place. -/
def suffix (position : TextPosition) : String :=
  s!" at line {position.line} column {position.column}"

@[simp] theorem ofOffset_zero (text : String) : ofOffset text 0 = ⟨1, 0⟩ := by
  unfold ofOffset
  cases text.toList <;> simp [walk]

end TextPosition

namespace Json

/-- What is wrong with a JSON text. -/
inductive Fault where
  | endInArray
  | endInObject
  | endInString
  | endInValue
  | colonExpected
  | arrayCommaOrEndExpected
  | objectCommaOrEndExpected
  | wordExpected
  | valueExpected
  | invalidEscape
  | invalidNumber
  | numberOutOfRange
  | loneSurrogate
  | unfinishedSurrogatePair
  | controlCharacter
  | keyNotString
  | trailingComma
  | trailingCharacters
  | nestingTooDeep
  deriving DecidableEq, Repr

/-- The wording of a fault. -/
def Fault.message : Fault → String
  | .endInArray => "EOF while parsing a list"
  | .endInObject => "EOF while parsing an object"
  | .endInString => "EOF while parsing a string"
  | .endInValue => "EOF while parsing a value"
  | .colonExpected => "expected `:`"
  | .arrayCommaOrEndExpected => "expected `,` or `]`"
  | .objectCommaOrEndExpected => "expected `,` or `\x7d`"
  | .wordExpected => "expected ident"
  | .valueExpected => "expected value"
  | .invalidEscape => "invalid escape"
  | .invalidNumber => "invalid number"
  | .numberOutOfRange => "number out of range"
  | .loneSurrogate => "lone leading surrogate in hex escape"
  | .unfinishedSurrogatePair => "unexpected end of hex escape"
  | .controlCharacter => "control character (\\u0000-\\u001F) found while parsing a string"
  | .keyNotString => "key must be a string"
  | .trailingComma => "trailing comma"
  | .trailingCharacters => "trailing characters"
  | .nestingTooDeep => "recursion limit exceeded"

/-- A fault and the number of bytes before the place where it shows. -/
structure SyntaxError where
  fault : Fault
  offset : Nat
  deriving DecidableEq, Repr

/-- The place of the error in the text that was read. -/
def SyntaxError.position (error : SyntaxError) (text : String) : TextPosition :=
  .ofOffset text error.offset

/-- The wording of the error, with its place in the text that was read. -/
def SyntaxError.message (error : SyntaxError) (text : String) : String :=
  error.fault.message ++ (error.position text).suffix

end Json

end WorkflowEditor
