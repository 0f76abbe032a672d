import WorkflowEditor.Yaml.Scan

/-!
# Tokens: directives, anchors and tags

The tokens of YAML text, and the reading of those that are no scalars.
-/

namespace WorkflowEditor

namespace Yaml

/-- The text of a tag.  Escapes may make bytes that are no text; such a tag is
unreadable. -/
structure Tag where
  chars : List Char
  readable : Bool
  deriving DecidableEq, Repr, Inhabited

namespace Tag

/-- A tag of plain characters. -/
def ofChars (chars : List Char) : Tag := ⟨chars, true⟩

/-- One tag behind another. -/
def append (left right : Tag) : Tag :=
  ⟨left.chars ++ right.chars, left.readable && right.readable⟩

end Tag

/-- How a scalar is written. -/
inductive ScalarStyle where
  | plain
  | quoted
  | block
  deriving DecidableEq, Repr, Inhabited

/-- A token. -/
inductive TokenKind where
  | streamStart
  | streamEnd
  | versionDirective (major minor : Nat)
  | tagDirective (handle : List Char) (replacement : Tag)
  | documentStart
  | documentEnd
  | blockSequenceStart
  | blockMappingStart
  | blockEnd
  | flowSequenceStart
  | flowSequenceEnd
  | flowMappingStart
  | flowMappingEnd
  | blockEntry
  | flowEntry
  | key
  | value
  | alias (name : List Char)
  | anchor (name : List Char)
  | tag (handle : List Char) (rest : Tag)
  | scalar (style : ScalarStyle) (text : List Char)
  deriving DecidableEq, Repr, Inhabited

/-- A token and the places where it starts and ends. -/
structure Token where
  kind : TokenKind
  start : Mark
  finish : Mark
  deriving DecidableEq, Repr, Inhabited

namespace Scan

/-- Read a token of which only the kind is known behind it. -/
def token (read : Mark → Scan TokenKind) : Scan Token := do
  let start ← mark
  let kind ← read start
  return ⟨kind, start, ← mark⟩

/-! ## Tags -/

/-- Whether a tag may hold the character; a verbatim tag may hold more. -/
def isTagChar (verbatim : Bool) (char : Char) : Bool :=
  isWordChar char || ";/?:@&=+$.%!~*'()".toList.contains char ||
    (verbatim && (char == ',' || char == '[' || char == ']'))

/-- The value of a hexadecimal digit. -/
def hexValue? (char : Char) : Option Nat :=
  if '0' ≤ char && char ≤ '9' then some (char.toNat - 48)
  else if 'a' ≤ char && char ≤ 'f' then some (char.toNat - 87)
  else if 'A' ≤ char && char ≤ 'F' then some (char.toNat - 55)
  else none

/-- Read one escaped byte of a tag. -/
def tagOctet (inside : Activity) (start : Mark) : Scan Nat := do
  match ← rest with
  | '%' :: high :: low :: _ =>
      match hexValue? high, hexValue? low with
      | some high, some low =>
          skip 3
          return high * 16 + low
      | _, _ => fail .tagEscapeInvalid inside start
  | _ => fail .tagEscapeInvalid inside start

/-- Read the escaped bytes that follow the first one of a character. -/
def tagTrailingOctets (inside : Activity) (start : Mark) : (count : Nat) → Scan (List Nat)
  | 0 => return []
  | count + 1 => do
      let cursor ← get
      let octet ← tagOctet inside start
      if octet / 64 ≠ 2 then
        throw (.misplaced .tagTrailingOctetInvalid cursor.mark (some (inside, start)))
      return (octet % 64) :: (← tagTrailingOctets inside start count)

/-- The character of a code, if the code needs as many bytes as it was written
with. -/
def charOfCode (code least : Nat) : Tag :=
  if least ≤ code && code.isValidChar then .ofChars [Char.ofNat code] else ⟨['\uFFFD'], false⟩

/-- Read the escaped bytes of one character of a tag. -/
def tagEscape (inside : Activity) (start : Mark) : Scan Tag := do
  let cursor ← get
  let first ← tagOctet inside start
  let join (leading : Nat) (trailing : List Nat) : Nat :=
    trailing.foldl (fun code bits => code * 64 + bits) leading
  if first < 0x80 then return charOfCode first 0
  else if first / 32 = 6 then
    return charOfCode (join (first % 32) (← tagTrailingOctets inside start 1)) 0x80
  else if first / 16 = 14 then
    return charOfCode (join (first % 16) (← tagTrailingOctets inside start 2)) 0x800
  else if first / 8 = 30 then
    return charOfCode (join (first % 8) (← tagTrailingOctets inside start 3)) 0x10000
  else throw (.misplaced .tagOctetInvalid cursor.mark (some (inside, start)))

/-- Read the characters of a tag behind those that were read already; `fuel`
exceeds the number of characters left. -/
def tagUriWith (verbatim : Bool) (inside : Activity) (start : Mark) :
    (fuel : Nat) → (done : Tag) → (count : Nat) → Scan (Tag × Nat)
  | 0, done, count => return (done, count)
  | fuel + 1, done, count => do
      match ← peek? with
      | none => return (done, count)
      | some char =>
          if !isTagChar verbatim char then return (done, count)
          else if char = '%' then
            let found ← tagEscape inside start
            tagUriWith verbatim inside start fuel (done.append found) (count + 1)
          else
            advance
            tagUriWith verbatim inside start fuel (done.append (.ofChars [char])) (count + 1)

/-- Read the characters of a tag; `head` was read as a handle but is part of the
tag, and its exclamation mark is dropped. -/
def tagUri (verbatim directive : Bool) (head : List Char) (start : Mark) : Scan Tag := do
  let inside : Activity := if directive then .tagDirectiveUri else .tagUri
  let (found, count) ←
    tagUriWith verbatim inside start ((← rest).length + 1) (.ofChars (head.drop 1)) 0
  if head.length + count = 0 then fail .tagUriMissing inside start
  return found

/-- Read the handle of a tag. -/
def tagHandle (directive : Bool) (start : Mark) : Scan (List Char) := do
  if (← peek?) ≠ some '!' then
    fail .tagMarkMissing (if directive then .tagDirectiveHandle else .tag) start
  advance
  let name ← readWhile isWordChar
  if (← peek?) = some '!' then
    advance
    return '!' :: name ++ ['!']
  if directive && !name.isEmpty then fail .tagMarkMissing .tagDirectiveMark start
  return '!' :: name

/-- Read a tag. -/
def tag (inFlow : Bool) : Scan Token :=
  token fun start => do
    let kind ←
      match ← rest with
      | _ :: '<' :: _ => do
          skip 2
          let found ← tagUri true false [] start
          if (← peek?) ≠ some '>' then fail .tagEndMissing .tag start
          advance
          pure (TokenKind.tag [] found)
      | _ => do
          let handle ← tagHandle false start
          if 1 < handle.length && handle.getLast? == some '!' then
            pure (TokenKind.tag handle (← tagUri false false [] start))
          else
            let found ← tagUri false false handle start
            if found.chars.isEmpty then pure (TokenKind.tag [] (.ofChars ['!']))
            else pure (TokenKind.tag ['!'] found)
    let following ← rest
    if !(inFlow && startsWith (· == ',') following) && !atBlankOrEnd following then
      fail .tagBreakMissing .tag start
    return kind

/-! ## Anchors -/

/-- Read an anchor or an alias. -/
def anchor (isAlias : Bool) : Scan Token :=
  token fun start => do
    advance
    let name ← readWhile isWordChar
    let following ← rest
    let ends := atBlankOrEnd following || startsWith ("?:,]\x7d%@`".toList.contains ·) following
    if name.isEmpty || !ends then
      fail .anchorNameMissing (if isAlias then .alias else .anchor) start
    return if isAlias then .alias name else .anchor name

/-! ## Directives -/

/-- Read a number of a version. -/
def versionNumber (start : Mark) : Scan Nat := do
  let written := (← rest).takeWhile Char.isDigit
  if 9 < written.length then
    skip 9
    fail .versionTooLong .versionDirective start
  if written.isEmpty then fail .versionMissing .versionDirective start
  skip written.length
  return Nat.ofDigitChars 10 written 0

/-- Read the version that a directive gives. -/
def versionDirective (start : Mark) : Scan TokenKind := do
  skipBlanks
  let major ← versionNumber start
  if (← peek?) ≠ some '.' then fail .versionPointMissing .versionDirective start
  advance
  return .versionDirective major (← versionNumber start)

/-- Read the handle that a directive declares and what it stands for. -/
def tagDirective (start : Mark) : Scan TokenKind := do
  skipBlanks
  let handle ← tagHandle true start
  if !startsWith isBlank (← rest) then fail .directiveBlankMissing .tagDirective start
  skipBlanks
  let replacement ← tagUri true true [] start
  if !atBlankOrEnd (← rest) then fail .directiveBreakMissing .tagDirective start
  return .tagDirective handle replacement

/-- Read a directive and the rest of its line. -/
def directive : Scan Token := do
  let start ← mark
  advance
  let name ← readWhile isWordChar
  if name.isEmpty then fail .directiveNameMissing .directive start
  if !atBlankOrEnd (← rest) then fail .directiveNameUnexpected .directive start
  let kind ←
    if name = "YAML".toList then versionDirective start
    else if name = "TAG".toList then tagDirective start
    else fail .unknownDirective .directive start
  let finish ← mark
  skipLineEnd .directive start
  return ⟨kind, start, finish⟩

end Scan

end Yaml

end WorkflowEditor
