import WorkflowEditor.Json.Basic
import WorkflowEditor.Json.SyntaxError
import WorkflowEditor.Text.Size

/-!
# Reading JSON text

A reader walks over the characters of a text and keeps count of the bytes behind
it.  It stops at the first fault; the cursor stays where the fault was found,
because what is still open may be closed before the fault is reported.
-/

namespace WorkflowEditor

namespace Json

/-- What is left of a text, the number of bytes before it, and how many levels
of nesting may still be opened, the closed end included. -/
structure Cursor where
  rest : List Char
  offset : Nat
  depth : Nat
  deriving DecidableEq, Repr

/-- The least number of nested levels that is refused. -/
def nestingLimit : Nat := 128

/-- The start of a text. -/
def Cursor.start (text : String) : Cursor := ⟨text.toList, 0, nestingLimit⟩

/-- The cursor behind the next character. -/
def Cursor.next (cursor : Cursor) : Cursor :=
  match cursor.rest with
  | [] => cursor
  | char :: rest => { cursor with rest, offset := cursor.offset + char.utf8Size }

/-- The cursor behind the next `count` characters. -/
def Cursor.skip (cursor : Cursor) : (count : Nat) → Cursor
  | 0 => cursor
  | count + 1 => cursor.next.skip count

/-- A computation that reads from a cursor and may stop with an error. -/
abbrev Reader (ε : Type) := ExceptT ε (StateM Cursor)

namespace Reader

variable {ε α : Type}

/-- The next character, which is left where it is. -/
def peek? : Reader ε (Option Char) := do return (← get).rest.head?

/-- Pass over the next character. -/
def advance : Reader ε Unit := modify Cursor.next

/-- Pass over the blanks of JSON: space, tab, line feed and carriage return. -/
def skipBlanks : Reader ε Unit :=
  modify fun cursor =>
    cursor.skip (cursor.rest.takeWhile fun char =>
      char == ' ' || char == '\n' || char == '\t' || char == '\r').length

/-- Pass over blanks and look at the character behind them. -/
def peekPastBlanks? : Reader ε (Option Char) := do
  skipBlanks
  peek?

/-- A fault at the bytes that were read. -/
def failHere (fault : Fault) : Reader SyntaxError α := do
  throw ⟨fault, (← get).offset⟩

/-- A fault at the byte that is to be read next. -/
def failNext (fault : Fault) : Reader SyntaxError α := do
  let cursor ← get
  throw ⟨fault, if cursor.rest.isEmpty then cursor.offset else cursor.offset + 1⟩

/-- A fault `count` bytes further on. -/
def failAfter (count : Nat) (fault : Fault) : Reader SyntaxError α := do
  throw ⟨fault, (← get).offset + count⟩

/-- Open a level of nesting, unless there are too many. -/
def openLevel : Reader SyntaxError Unit := do
  if (← get).depth ≤ 1 then failNext .nestingTooDeep
  modify fun cursor => { cursor with depth := cursor.depth - 1 }
  advance

/-- Note that a level of nesting was closed. -/
def leaveLevel : Reader ε Unit :=
  modify fun cursor => { cursor with depth := cursor.depth + 1 }

/-- Read with another type of errors. -/
def mapError {ε' : Type} (change : ε → ε') (reader : Reader ε α) : Reader ε' α :=
  fun cursor =>
    match reader cursor with
    | (.ok value, after) => (.ok value, after)
    | (.error error, after) => (.error (change error), after)

/-! ## Words and strings -/

/-- Read the characters of a word. -/
def word : List Char → Reader SyntaxError Unit
  | [] => return
  | expected :: rest => do
      match ← peek? with
      | none => failHere .endInValue
      | some found =>
          if found = expected then
            advance
            word rest
          else failAfter 1 .wordExpected

/-- The value of a hexadecimal digit. -/
def hexValue? (char : Char) : Option Nat :=
  if '0' ≤ char && char ≤ '9' then some (char.toNat - 48)
  else if 'a' ≤ char && char ≤ 'f' then some (char.toNat - 87)
  else if 'A' ≤ char && char ≤ 'F' then some (char.toNat - 55)
  else none

/-- The value of four hexadecimal digits. -/
def fourHexDigits? (chars : List Char) : Option Nat :=
  match chars.map hexValue? with
  | [some first, some second, some third, some fourth] =>
      some (((first * 16 + second) * 16 + third) * 16 + fourth)
  | _ => none

/-- Read the four digits of a numeric escape. -/
def hexEscape : Reader SyntaxError Nat := do
  let digits := (← get).rest.take 4
  if Text.byteSize digits < 4 then
    modify fun cursor => cursor.skip cursor.rest.length
    failHere .endInString
  match fourHexDigits? digits with
  | none => failAfter 4 .invalidEscape
  | some value =>
      modify (Cursor.skip · 4)
      return value

/-- Read one character that has to follow the first half of a surrogate pair. -/
def expectPairChar (expected : Char) : Reader SyntaxError Unit := do
  match ← peek? with
  | none => failHere .endInString
  | some found =>
      if found = expected then advance else failAfter 1 .unfinishedSurrogatePair

/-- Read a numeric escape, of which two make a character above U+FFFF. -/
def unicodeEscape : Reader SyntaxError Char := do
  let first ← hexEscape
  if 0xDC00 ≤ first && first ≤ 0xDFFF then failHere .loneSurrogate
  if first < 0xD800 || 0xDBFF < first then return Char.ofNat first
  expectPairChar '\\'
  expectPairChar 'u'
  let second ← hexEscape
  if second < 0xDC00 || 0xDFFF < second then failHere .loneSurrogate
  return Char.ofNat ((first - 0xD800) * 0x400 + (second - 0xDC00) + 0x10000)

/-- The character that a backslash and one letter stand for. -/
def shortEscape? : Char → Option Char
  | '"' => some '"'
  | '\\' => some '\\'
  | '/' => some '/'
  | 'b' => some '\x08'
  | 'f' => some '\x0c'
  | 'n' => some '\n'
  | 'r' => some '\r'
  | 't' => some '\t'
  | _ => none

/-- Read what follows a backslash. -/
def escape : Reader SyntaxError Char := do
  match ← peek? with
  | none => failHere .endInString
  | some 'u' =>
      advance
      unicodeEscape
  | some letter =>
      match shortEscape? letter with
      | some char =>
          advance
          return char
      | none => failAfter 1 .invalidEscape

/-- Read a string behind its opening quote; `done` holds its last characters
first, and `fuel` exceeds the number of characters left. -/
def stringRest : (fuel : Nat) → (done : List Char) → Reader SyntaxError String
  | 0, _ => failHere .endInString
  | fuel + 1, done => do
      match ← peek? with
      | none => failHere .endInString
      | some '"' =>
          advance
          return String.ofList done.reverse
      | some '\\' =>
          advance
          let char ← escape
          stringRest fuel (char :: done)
      | some char =>
          if char.toNat < 0x20 then failAfter 1 .controlCharacter
          advance
          stringRest fuel (char :: done)

/-- Read a string from its opening quote. -/
def string : Reader SyntaxError String := do
  advance
  stringRest ((← get).rest.length + 1) []

/-! ## Numbers -/

/-- The greatest integer that a number keeps exactly. -/
def greatestNatural : Nat := 18446744073709551615

/-- The value of a decimal digit. -/
def digitValue (char : Char) : Nat := char.toNat - 48

/-- Add digits to a significand as long as it stays exact; also give the number
of digits added. -/
def accumulate (significand : Nat) : List Char → Nat × Nat
  | [] => (significand, 0)
  | digit :: rest =>
      let next := significand * 10 + digitValue digit
      if greatestNatural < next then (significand, 0)
      else
        let result := accumulate next rest
        (result.1, result.2 + 1)

/-- Pass over decimal digits. -/
def digits : Reader ε (List Char) := do
  let found := (← get).rest.takeWhile Char.isDigit
  modify (Cursor.skip · found.length)
  return found

/-- The number of digits after which an exponent no longer fits 31 bits. -/
def overflowingDigits? (exponent : Nat) : List Char → Option Nat
  | [] => none
  | digit :: rest =>
      let next := exponent * 10 + digitValue digit
      if 2147483647 < next then some 1 else (overflowingDigits? next rest).map (· + 1)

/-- Scale a double by a power of ten, in steps of at most 308; `none` when the
result is too large. -/
def scaleByTen? (value : Double) (power : Int) : (steps : Nat) → Option Double
  | 0 => some value
  | steps + 1 =>
      if power.natAbs ≤ 308 then
        (Double.powerOfTen? power.natAbs).bind fun scale =>
          if 0 ≤ power then value.product? scale else value.quotient? scale
      else if value.isZero then some value
      else if 0 ≤ power then none
      else
        ((Double.powerOfTen? 308).bind value.quotient?).bind fun smaller =>
          scaleByTen? smaller (power + 308) steps

/-- The double for a significand and a power of ten, rounded after the reading
of the significand and after the scaling. -/
def scaled (negative : Bool) (significand : Nat) (power : Int) :
    Reader SyntaxError JsonNumber := do
  match (Double.ofNat? significand).bind (scaleByTen? · power 4) with
  | none => failHere .numberOutOfRange
  | some value => return .double (if negative then value.negate else value)

/-- Read an exponent from its letter. -/
def exponent (negative : Bool) (significand : Nat) (power : Int) :
    Reader SyntaxError JsonNumber := do
  advance
  let sign ← peek?
  if sign = some '+' || sign = some '-' then advance
  let downward := sign = some '-'
  match ← peek? with
  | none => failHere .endInValue
  | some first => if !first.isDigit then failAfter 1 .invalidNumber
  let start ← get
  let found ← digits
  match overflowingDigits? 0 found with
  | some count =>
      if significand ≠ 0 ∧ ¬downward then
        throw ⟨.numberOutOfRange, start.offset + count⟩
      return .double (.zero negative)
  | none =>
      let amount : Int := (accumulate 0 found).1
      scaled negative significand (if downward then power - amount else power + amount)

/-- Read what may follow the digits before the exponent. -/
def exponentOrEnd (negative : Bool) (significand : Nat) (power : Int) :
    Reader SyntaxError JsonNumber := do
  match ← peek? with
  | some 'e' | some 'E' => exponent negative significand power
  | _ => scaled negative significand power

/-- Read a fraction from its point. -/
def fraction (negative : Bool) (significand : Nat) (power : Int) :
    Reader SyntaxError JsonNumber := do
  advance
  let found ← digits
  if found.isEmpty then
    match ← peek? with
    | some _ => failNext .invalidNumber
    | none => failNext .endInValue
  let result := accumulate significand found
  exponentOrEnd negative result.1 (power - result.2)

/-- The number for an integer that is exact so far. -/
def wholeNumber (negative : Bool) (significand : Nat) : Reader SyntaxError JsonNumber :=
  if !negative then return .integer significand
  else if significand = 0 || 9223372036854775808 < significand then
    scaled true significand 0
  else return .integer (-significand)

/-- Read what may follow the digits of a whole number. -/
def afterInteger (negative : Bool) (significand dropped : Nat) :
    Reader SyntaxError JsonNumber := do
  match ← peek? with
  | some '.' => fraction negative significand dropped
  | some 'e' | some 'E' => exponent negative significand dropped
  | _ =>
      if dropped = 0 then wholeNumber negative significand
      else scaled negative significand dropped

/-- Read a number, behind its minus if it has one. -/
def unsignedNumber (negative : Bool) : Reader SyntaxError JsonNumber := do
  match ← peek? with
  | none => failHere .endInValue
  | some '0' =>
      advance
      match ← peek? with
      | some next => if next.isDigit then failNext .invalidNumber
      | none => pure ()
      afterInteger negative 0 0
  | some first =>
      if !first.isDigit then failAfter 1 .invalidNumber
      let found ← digits
      let result := accumulate 0 found
      afterInteger negative result.1 (found.length - result.2)

/-- Read a number that starts with a minus or a digit. -/
def number : Reader SyntaxError JsonNumber := do
  if (← peek?) = some '-' then
    advance
    unsignedNumber true
  else unsignedNumber false

/-! ## Between the parts of a value -/

/-- Whether another item follows in an array; `first` when none was read yet. -/
def hasItem (first : Bool) : Reader SyntaxError Bool := do
  match ← peekPastBlanks? with
  | none => failNext .endInArray
  | some ']' => return false
  | some char =>
      if first then return true
      if char ≠ ',' then failNext .arrayCommaOrEndExpected
      advance
      match ← peekPastBlanks? with
      | some ']' => failNext .trailingComma
      | some _ => return true
      | none => failNext .endInValue

/-- Whether another member follows in an object; `first` when none was read
yet.  The cursor is then at the quote of its key. -/
def hasMember (first : Bool) : Reader SyntaxError Bool := do
  match ← peekPastBlanks? with
  | none => failNext .endInObject
  | some '\x7d' => return false
  | some char =>
      if first then
        if char = '"' then return true
        failNext .keyNotString
      if char ≠ ',' then failNext .objectCommaOrEndExpected
      advance
      match ← peekPastBlanks? with
      | some '"' => return true
      | some '\x7d' => failNext .trailingComma
      | some _ => failNext .keyNotString
      | none => failNext .endInValue

/-- Read the colon behind a key. -/
def colon : Reader SyntaxError Unit := do
  match ← peekPastBlanks? with
  | some ':' => advance
  | some _ => failNext .colonExpected
  | none => failNext .endInObject

/-- Read the end of an array. -/
def closeArray : Reader SyntaxError Unit := do
  match ← peekPastBlanks? with
  | some ']' => advance
  | some ',' =>
      advance
      match ← peekPastBlanks? with
      | some ']' => failNext .trailingComma
      | _ => failNext .trailingCharacters
  | some _ => failNext .trailingCharacters
  | none => failNext .endInArray

/-- Read the end of an object. -/
def closeObject : Reader SyntaxError Unit := do
  match ← peekPastBlanks? with
  | some '\x7d' => advance
  | some ',' => failNext .trailingComma
  | some _ => failNext .trailingCharacters
  | none => failNext .endInObject

/-- Nothing but blanks may follow. -/
def endOfText : Reader SyntaxError Unit := do
  match ← peekPastBlanks? with
  | some _ => failNext .trailingCharacters
  | none => return

end Reader

end Json

end WorkflowEditor
