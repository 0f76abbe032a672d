import WorkflowEditor.Json.Reader

/-!
# Parsing JSON text

`Json.parse` reads a whole text as one value.  The tree is first read with the
members of each object as they stand in the text, and then put into normal form,
in which the last of several members with one key is kept.  `Reader.skipValue`
passes over a value that nobody asked for; it checks less than the parser does.
-/

namespace WorkflowEditor

namespace Json

namespace Reader

mutual

/-- Read a value, with the members of objects in the order of the text; `fuel`
exceeds twice the number of characters left. -/
def value : (fuel : Nat) → Reader SyntaxError Json
  | 0 => failHere .nestingTooDeep
  | fuel + 1 => do
      match ← peekPastBlanks? with
      | none => failNext .endInValue
      | some 'n' =>
          word ['n', 'u', 'l', 'l']
          return .null
      | some 't' =>
          word ['t', 'r', 'u', 'e']
          return .bool true
      | some 'f' =>
          word ['f', 'a', 'l', 's', 'e']
          return .bool false
      | some '"' => return .string (← string)
      | some '[' =>
          openLevel
          let found ← items fuel true []
          closeArray
          leaveLevel
          return .array found
      | some '\x7b' =>
          openLevel
          let found ← members fuel true []
          closeObject
          leaveLevel
          return .object found
      | some char =>
          if char = '-' || char.isDigit then return .number (← number)
          failNext .valueExpected

/-- Read the items of an array up to its end; `done` holds the last item first. -/
def items : (fuel : Nat) → (first : Bool) → (done : List Json) → Reader SyntaxError (List Json)
  | 0, _, _ => failHere .nestingTooDeep
  | fuel + 1, first, done => do
      if ← hasItem first then
        let item ← value fuel
        items fuel false (item :: done)
      else return done.reverse

/-- Read the members of an object up to its end; `done` holds the last member
first. -/
def members : (fuel : Nat) → (first : Bool) → (done : List (String × Json)) →
    Reader SyntaxError (List (String × Json))
  | 0, _, _ => failHere .nestingTooDeep
  | fuel + 1, first, done => do
      if ← hasMember first then
        let key ← string
        colon
        let found ← value fuel
        members fuel false ((key, found) :: done)
      else return done.reverse

end

/-- Read a value, with the members of objects in the order of the text. -/
def tree : Reader SyntaxError Json := do
  value (2 * (← get).rest.length + 2)

/-! ## Passing over a value -/

/-- Pass over what follows a backslash. -/
def skipEscape : Reader SyntaxError Unit := do
  match ← peek? with
  | none => failHere .endInString
  | some 'u' =>
      advance
      discard hexEscape
  | some letter =>
      if (shortEscape? letter).isNone then failAfter 1 .invalidEscape
      advance

/-- Pass over a string behind its opening quote; `fuel` exceeds the number of
characters left. -/
def skipStringRest : (fuel : Nat) → Reader SyntaxError Unit
  | 0 => failHere .endInString
  | fuel + 1 => do
      match ← peek? with
      | none => failHere .endInString
      | some '"' => advance
      | some '\\' =>
          advance
          skipEscape
          skipStringRest fuel
      | some char =>
          if char.toNat < 0x20 then failHere .controlCharacter
          advance
          skipStringRest fuel

/-- Pass over a string from its opening quote. -/
def skipString : Reader SyntaxError Unit := do
  advance
  skipStringRest ((← get).rest.length + 1)

/-- The digit that has to come next is missing. -/
def failAtDigit : Reader SyntaxError Unit := do
  match ← peek? with
  | none => failHere .invalidNumber
  | some _ => failAfter 1 .invalidNumber

/-- Pass over an exponent from its letter. -/
def skipExponent : Reader SyntaxError Unit := do
  advance
  let sign ← peek?
  if sign = some '+' || sign = some '-' then advance
  if (← digits).isEmpty then failAtDigit

/-- Pass over a number, behind its minus if it has one. -/
def skipUnsignedNumber : Reader SyntaxError Unit := do
  if (← peek?) = some '0' then
    advance
    match ← peek? with
    | some next => if next.isDigit then failNext .invalidNumber
    | none => pure ()
  else if (← digits).isEmpty then failAtDigit
  if (← peek?) = some '.' then
    advance
    if (← digits).isEmpty then failNext .invalidNumber
  let letter ← peek?
  if letter = some 'e' || letter = some 'E' then skipExponent

mutual

/-- Pass over a value; `fuel` exceeds twice the number of characters left. -/
def skipValueWith : (fuel : Nat) → Reader SyntaxError Unit
  | 0 => failHere .nestingTooDeep
  | fuel + 1 => do
      match ← peekPastBlanks? with
      | none => failNext .endInValue
      | some 'n' => word ['n', 'u', 'l', 'l']
      | some 't' => word ['t', 'r', 'u', 'e']
      | some 'f' => word ['f', 'a', 'l', 's', 'e']
      | some '"' => skipString
      | some '-' =>
          advance
          skipUnsignedNumber
      | some '[' =>
          advance
          match ← peekPastBlanks? with
          | some ']' => advance
          | some _ => skipItems fuel
          | none => failNext .endInArray
      | some '\x7b' =>
          advance
          if (← peekPastBlanks?) = some '\x7d' then advance else skipMembers fuel
      | some char =>
          if char.isDigit then skipUnsignedNumber else failNext .valueExpected

/-- Pass over the items of an array and its end, from the start of an item. -/
def skipItems : (fuel : Nat) → Reader SyntaxError Unit
  | 0 => failHere .nestingTooDeep
  | fuel + 1 => do
      skipValueWith fuel
      match ← peekPastBlanks? with
      | some ',' =>
          advance
          skipItems fuel
      | some ']' => advance
      | some _ => failNext .arrayCommaOrEndExpected
      | none => failNext .endInArray

/-- Pass over the members of an object and its end. -/
def skipMembers : (fuel : Nat) → Reader SyntaxError Unit
  | 0 => failHere .nestingTooDeep
  | fuel + 1 => do
      match ← peekPastBlanks? with
      | some '"' => skipString
      | some _ => failNext .keyNotString
      | none => failNext .endInObject
      colon
      skipValueWith fuel
      match ← peekPastBlanks? with
      | some ',' =>
          advance
          skipMembers fuel
      | some '\x7d' => advance
      | some _ => failNext .objectCommaOrEndExpected
      | none => failNext .endInObject

end

/-- Pass over a value. -/
def skipValue : Reader SyntaxError Unit := do
  skipValueWith (3 * (← get).rest.length + 3)

/-- Read a whole text as one value, with the members of objects in the order of
the text. -/
def document : Reader SyntaxError Json := do
  let found ← tree
  endOfText
  return found

end Reader

/-- The value that a whole text writes, with the members of objects in the order of
the text. -/
def parseTree (text : String) : Except SyntaxError Json :=
  (Reader.document (.start text)).1

/-- Read a whole text as one value. -/
def parse (text : String) : Except SyntaxError Json :=
  (parseTree text).map normalize

/-- A text is read character by character, however it was put together. -/
theorem parse_ofList (chars : List Char) :
    parse (String.ofList chars) =
      (Reader.document ⟨chars, 0, nestingLimit⟩).1.map normalize := by
  rw [parse, parseTree, Cursor.start, String.toList_ofList]

/-- Values that were read are well-formed. -/
theorem wellFormed_of_parse {text : String} {value : Json} (read : parse text = .ok value) :
    WellFormed value := by
  unfold parse at read
  cases tree : parseTree text with
  | error error => simp [tree, Except.map] at read
  | ok found =>
      simp only [tree, Except.map, Except.ok.injEq] at read
      exact read ▸ wellFormed_normalize found

end Json

end WorkflowEditor
