import WorkflowEditor.Text.Size
import WorkflowEditor.Yaml.Failure

/-!
# Walking over YAML text

A scan walks over the characters of a text and marks where it is.  Line breaks
are carriage return, line feed, both together, next line, and the line and
paragraph separators; all but the last two are read as a line feed.
-/

namespace WorkflowEditor

namespace Yaml

/-- What is left of a text, and the place where it starts. -/
structure Cursor where
  rest : List Char
  mark : Mark
  deriving DecidableEq, Repr, Inhabited

/-- Whether the characters start with a line break. -/
def isBreak : Char → Bool
  | '\r' | '\n' | '\u0085' | '\u2028' | '\u2029' => true
  | _ => false

/-- Whether the character is a space or a tab. -/
def isBlank : Char → Bool
  | ' ' | '\t' => true
  | _ => false

/-- Whether the character is a letter, a digit, a dash or an underscore of ASCII. -/
def isWordChar (char : Char) : Bool :=
  char.isAlphanum || char == '_' || char == '-'

/-- Whether the next character is there and passes the test. -/
def startsWith (test : Char → Bool) : List Char → Bool
  | [] => false
  | char :: _ => test char

/-- Whether a line break or the end comes next. -/
def atBreakOrEnd (chars : List Char) : Bool := chars.isEmpty || startsWith isBreak chars

/-- Whether a blank, a line break or the end comes next. -/
def atBlankOrEnd (chars : List Char) : Bool := atBreakOrEnd chars || startsWith isBlank chars

/-- The cursor behind the next character. -/
def Cursor.next (cursor : Cursor) : Cursor :=
  match cursor.rest with
  | [] => cursor
  | _ :: rest =>
      ⟨rest, ⟨cursor.mark.index + 1, cursor.mark.line, cursor.mark.column + 1⟩⟩

/-- The cursor behind the next line break. -/
def Cursor.nextLine (cursor : Cursor) : Cursor :=
  match cursor.rest with
  | '\r' :: '\n' :: rest => ⟨rest, ⟨cursor.mark.index + 2, cursor.mark.line + 1, 0⟩⟩
  | char :: rest =>
      if isBreak char then ⟨rest, ⟨cursor.mark.index + 1, cursor.mark.line + 1, 0⟩⟩ else cursor
  | [] => cursor

/-- What the next line break is read as; nothing if there is none. -/
def lineBreak : List Char → List Char
  | '\u2028' :: _ => ['\u2028']
  | '\u2029' :: _ => ['\u2029']
  | char :: _ => if isBreak char then ['\n'] else []
  | [] => []

/-- A walk that reads something, or finds that the text is not YAML. -/
abbrev Scan := StateT Cursor (Except SyntaxError)

namespace Scan

/-- The characters that are left. -/
def rest : Scan (List Char) := do return (← get).rest

/-- The place that was reached. -/
def mark : Scan Mark := do return (← get).mark

/-- The next character. -/
def peek? : Scan (Option Char) := do return (← get).rest.head?

/-- Pass over the next character. -/
def advance : Scan Unit := modify Cursor.next

/-- Pass over the next line break. -/
def advanceLine : Scan Unit := modify Cursor.nextLine

/-- Read the next line break. -/
def readLine : Scan (List Char) := do
  let found := lineBreak (← rest)
  advanceLine
  return found

/-- Stop with a problem at the place that was reached. -/
def fail {α : Type} (problem : Problem) (inside : Activity) (start : Mark) : Scan α := do
  throw (.misplaced problem (← mark) (some (inside, start)))

/-- Pass over `count` characters. -/
def skip : (count : Nat) → Scan Unit
  | 0 => return
  | count + 1 => do
      advance
      skip count

/-- Read the characters that pass the test, on one line. -/
def readWhile (test : Char → Bool) : Scan (List Char) := do
  let found := (← rest).takeWhile fun char => test char && !isBreak char
  skip found.length
  return found

/-- Pass over blanks. -/
def skipBlanks : Scan Unit := discard (readWhile isBlank)

/-- Pass over the rest of the line if it is a comment. -/
def skipComment : Scan Unit := do
  if (← peek?) = some '#' then discard (readWhile fun _ => true)

/-- Pass over blanks and a comment up to the end of the line, and over its break. -/
def skipLineEnd (inside : Activity) (start : Mark) : Scan Unit := do
  skipBlanks
  skipComment
  if !atBreakOrEnd (← rest) then fail .directiveTailUnexpected inside start
  advanceLine

/-- Whether the cursor is at three equal characters that make a line of their own
or start one. -/
def atDocumentMark (char : Char) : Scan Bool := do
  let cursor ← get
  return cursor.mark.column == 0 && cursor.rest.take 3 == [char, char, char] &&
    atBlankOrEnd (cursor.rest.drop 3)

/-- Whether the cursor is at the start or the end mark of a document. -/
def atDocumentBoundary : Scan Bool := do
  return (← atDocumentMark '-') || (← atDocumentMark '.')

end Scan

/-! ## Characters -/

/-- Whether a YAML text may hold the character. -/
def isAllowed (char : Char) : Bool :=
  let code := char.toNat
  code == 0x9 || code == 0xA || code == 0xD || (0x20 ≤ code && code ≤ 0x7E) || code == 0x85 ||
    (0xA0 ≤ code && code ≤ 0xD7FF) || (0xE000 ≤ code && code ≤ 0xFFFD) || 0x10000 ≤ code

/-- The number of bytes before the first character that no YAML text holds. -/
def forbiddenOffset? (chars : List Char) : Option Nat :=
  let allowed := chars.takeWhile isAllowed
  if allowed.length < chars.length then some (Text.byteSize allowed) else none

end Yaml

end WorkflowEditor
