import WorkflowEditor.Yaml.Token

/-!
# Tokens: scalars

Block, quoted and plain scalars.  Inside quoted and plain scalars a single line
break is folded into a space, and of several the first one is dropped; a break
that is no line feed is kept.
-/

namespace WorkflowEditor

namespace Yaml

namespace Scan

/-- Blanks and line breaks between the words of a scalar: the blanks on the first
line, and, once there was a line break, the first break and the others. -/
structure Gap where
  blanks : List Char
  broken : Bool
  first : List Char
  others : List Char
  deriving DecidableEq, Repr, Inhabited

namespace Gap

/-- Nothing between two words. -/
def none : Gap := ⟨[], false, [], []⟩

/-- Whether there is nothing between two words. -/
def isEmpty (gap : Gap) : Bool := gap.blanks.isEmpty && !gap.broken

/-- What the gap amounts to. -/
def text (gap : Gap) : List Char :=
  if !gap.broken then gap.blanks
  else if gap.first = ['\n'] then
    if gap.others.isEmpty then [' '] else gap.others
  else gap.first ++ gap.others

end Gap

/-- Read blanks and line breaks.  `check` is run before each blank, and `fuel`
exceeds the number of characters left. -/
def gapWith (check : Gap → Scan Unit) : (fuel : Nat) → Gap → Scan Gap
  | 0, gap => return gap
  | fuel + 1, gap => do
      match ← peek? with
      | none => return gap
      | some char =>
          if isBlank char then
            check gap
            advance
            gapWith check fuel
              (if gap.broken then gap else { gap with blanks := gap.blanks ++ [char] })
          else if isBreak char then
            let found ← readLine
            gapWith check fuel
              (if gap.broken then { gap with others := gap.others ++ found }
                else { blanks := [], broken := true, first := found, others := gap.others })
          else return gap

/-- Read blanks and line breaks. -/
def gap (check : Gap → Scan Unit) (before : Gap) : Scan Gap := do
  gapWith check ((← rest).length + 1) before

/-! ## Quoted scalars -/

/-- The character that a letter behind a backslash stands for. -/
def escapedChar? : Char → Option Char
  | '0' => some '\x00'
  | 'a' => some '\x07'
  | 'b' => some '\x08'
  | 't' | '\t' => some '\t'
  | 'n' => some '\n'
  | 'v' => some '\x0b'
  | 'f' => some '\x0c'
  | 'r' => some '\r'
  | 'e' => some '\x1b'
  | ' ' => some ' '
  | '"' => some '"'
  | '/' => some '/'
  | '\\' => some '\\'
  | 'N' => some '\u0085'
  | '_' => some '\u00a0'
  | 'L' => some '\u2028'
  | 'P' => some '\u2029'
  | _ => none

/-- The number of hexadecimal digits that a letter behind a backslash announces. -/
def codeLength? : Char → Option Nat
  | 'x' => some 2
  | 'u' => some 4
  | 'U' => some 8
  | _ => none

/-- The code that hexadecimal digits write. -/
def codeOfDigits? : List Char → (code : Nat) → Option Nat
  | [], code => some code
  | char :: rest, code => (hexValue? char).bind fun value => codeOfDigits? rest (code * 16 + value)

/-- Read an escape from its backslash. -/
def escape (start : Mark) : Scan Char := do
  match ← rest with
  | _ :: letter :: following =>
      match escapedChar? letter, codeLength? letter with
      | some char, _ =>
          skip 2
          return char
      | none, some length =>
          skip 2
          let written := following.take length
          match codeOfDigits? written 0 with
          | some code =>
              if written.length < length then fail .hexDigitsMissing .quotedScalarEscape start
              if !code.isValidChar then fail .invalidCodePoint .quotedScalarEscape start
              skip length
              return Char.ofNat code
          | none => fail .hexDigitsMissing .quotedScalarEscape start
      | none, none => fail .unknownEscape .quotedScalarEscape start
  | _ => fail .unknownEscape .quotedScalarEscape start

/-- Read the characters of a quoted scalar up to a blank, a line break, the end
or the closing quote; also tell whether it stopped behind an escaped line break.
`fuel` exceeds the number of characters left. -/
def quotedWord (single : Bool) (start : Mark) : (fuel : Nat) → (done : List Char) →
    Scan (List Char × Bool)
  | 0, done => return (done, false)
  | fuel + 1, done => do
      let following ← rest
      match following with
      | [] => return (done, false)
      | char :: after =>
          if isBreak char || isBlank char then return (done, false)
          else if single then
            if char ≠ '\'' then
              advance
              quotedWord single start fuel (done ++ [char])
            else if startsWith (· == '\'') after then
              skip 2
              quotedWord single start fuel (done ++ ['\''])
            else return (done, false)
          else if char = '"' then return (done, false)
          else if char = '\\' then
            if startsWith isBreak after then
              advance
              advanceLine
              return (done, true)
            else
              let found ← escape start
              quotedWord single start fuel (done ++ [found])
          else
            advance
            quotedWord single start fuel (done ++ [char])

/-- Read a quoted scalar behind its opening quote up to its closing one; `fuel`
exceeds the number of characters left. -/
def quotedRest (single : Bool) (start : Mark) : (fuel : Nat) → (done : List Char) →
    Scan (List Char)
  | 0, done => return done
  | fuel + 1, done => do
      if ← atDocumentBoundary then fail .documentMarkInScalar .quotedScalar start
      if (← rest).isEmpty then fail .endInScalar .quotedScalar start
      let (done, joined) ← quotedWord single start ((← rest).length + 1) done
      if (← peek?) = some (if single then '\'' else '"') then
        advance
        return done
      let found ← gap (fun _ => pure ()) { Gap.none with broken := joined }
      quotedRest single start fuel (done ++ found.text)

/-- Read a quoted scalar. -/
def quotedScalar (single : Bool) : Scan Token :=
  token fun start => do
    advance
    return .scalar .quoted (← quotedRest single start ((← rest).length + 2) [])

/-! ## Plain scalars -/

/-- Whether the character ends a plain scalar inside a flow collection. -/
def isFlowIndicator : Char → Bool
  | ',' | '[' | ']' | '\x7b' | '\x7d' => true
  | _ => false

/-- Read the characters of a plain scalar up to a blank, a line break, the end or
what ends the scalar; `fuel` exceeds the number of characters left. -/
def plainWord (inFlow : Bool) (start : Mark) : (fuel : Nat) → (done : List Char) →
    Scan (List Char)
  | 0, done => return done
  | fuel + 1, done => do
      match ← rest with
      | [] => return done
      | char :: after =>
          if isBreak char || isBlank char then return done
          if inFlow && char == ':' &&
              startsWith (fun next => next == '?' || isFlowIndicator next) after then
            fail .colonInPlainScalar .plainScalar start
          if (char == ':' && atBlankOrEnd after) || (inFlow && isFlowIndicator char) then
            return done
          advance
          plainWord inFlow start fuel (done ++ [char])

/-- Read a plain scalar from where a word may start.  The result is its text, the
place where it ends, and whether a line break was passed behind it; `fuel` exceeds
the number of characters left. -/
def plainRest (inFlow : Bool) (indent : Int) (start : Mark) :
    (fuel : Nat) → (done : List Char) → (finish : Mark) → (before : Gap) →
    Scan (List Char × Mark × Bool)
  | 0, done, finish, before => return (done, finish, before.broken)
  | fuel + 1, done, finish, before => do
      if (← atDocumentBoundary) || (← peek?) = some '#' then
        return (done, finish, before.broken)
      let word ← plainWord inFlow start ((← rest).length + 1) []
      let joined := if word.isEmpty then done else done ++ before.text ++ word
      let finish ← if word.isEmpty then pure finish else mark
      let before := if word.isEmpty then before else Gap.none
      let following ← rest
      if !(startsWith isBlank following || startsWith isBreak following) then
        return (joined, finish, before.broken)
      let check (gap : Gap) : Scan Unit := do
        if gap.broken && ((← mark).column : Int) < indent && (← peek?) = some '\t' then
          fail .tabBeforeIndentation .plainScalar start
      let found ← gap check before
      if !inFlow && ((← mark).column : Int) < indent then
        return (joined, finish, found.broken)
      plainRest inFlow indent start fuel joined finish found

/-- Read a plain scalar; also tell whether a line break was passed behind it. -/
def plainScalar (inFlow : Bool) (indent : Int) : Scan (Token × Bool) := do
  let start ← mark
  let (text, finish, broken) ←
    plainRest inFlow (indent + 1) start ((← rest).length + 1) [] start Gap.none
  return (⟨.scalar .plain text, start, finish⟩, broken)

/-! ## Block scalars -/

/-- What happens to the line breaks at the end of a block scalar. -/
inductive Chomping where
  | strip
  | clip
  | keep
  deriving DecidableEq, Repr

/-- Read how the breaks at the end are treated, if that comes next. -/
def chomping? : Scan (Option Chomping) := do
  match ← peek? with
  | some '+' =>
      advance
      return some .keep
  | some '-' =>
      advance
      return some .strip
  | _ => return none

/-- Read the width of the indentation, if that comes next. -/
def indentation? (start : Mark) : Scan (Option Nat) := do
  match ← peek? with
  | some char =>
      if !char.isDigit then return none
      if char = '0' then fail .indentationZero .blockScalar start
      advance
      return some (char.toNat - 48)
  | none => return none

/-- Read the indicators of a block scalar, in either order. -/
def blockIndicators (start : Mark) : Scan (Chomping × Option Nat) := do
  match ← chomping? with
  | some chomping => return (chomping, ← indentation? start)
  | none =>
      let indentation ← indentation? start
      if indentation.isNone then return (.clip, none)
      return ((← chomping?).getD .clip, indentation)

/-- Read empty lines and the indentation behind them.  The indentation of the
scalar is 0 while it is not known.  The result holds the breaks, the widest
indentation, and the place behind the last break; `fuel` exceeds the number of
characters left. -/
def blockBreaksWith (indent : Nat) (start : Mark) : (fuel : Nat) → (breaks : List Char) →
    (widest : Nat) → (finish : Mark) → Scan (List Char × Nat × Mark)
  | 0, breaks, widest, finish => return (breaks, widest, finish)
  | fuel + 1, breaks, widest, finish => do
      let column := (← mark).column
      let spaces := ((← rest).takeWhile (· == ' ')).length
      skip (if indent = 0 then spaces else min spaces (indent - column))
      let column := (← mark).column
      let widest := max widest column
      if (indent = 0 || column < indent) && (← peek?) = some '\t' then
        fail .tabInIndentation .blockScalar start
      if !startsWith isBreak (← rest) then return (breaks, widest, finish)
      let found ← readLine
      blockBreaksWith indent start fuel (breaks ++ found) widest (← mark)

/-- Read empty lines and the indentation behind them, and find the indentation of
the scalar if it is not known: it exceeds `outer`, that of the block around. -/
def blockBreaks (outer : Int) (indent : Nat) (start : Mark) : Scan (List Char × Nat × Mark) := do
  let (breaks, widest, finish) ←
    blockBreaksWith indent start ((← rest).length + 1) [] 0 (← mark)
  let found := if indent = 0 then max (max widest (outer + 1).toNat) 1 else indent
  return (breaks, found, finish)

/-- Read the lines of a block scalar.  `done` is the text so far, `leading` the
last break, `trailing` the breaks of empty lines behind it, and `wasBlank` tells
whether the last line started with a blank; `fuel` exceeds the number of
characters left. -/
def blockLines (literal : Bool) (outer : Int) (indent : Nat) (start : Mark) :
    (fuel : Nat) → (done leading trailing : List Char) → (wasBlank : Bool) → (finish : Mark) →
    Scan (List Char × List Char × List Char × Mark)
  | 0, done, leading, trailing, _, finish => return (done, leading, trailing, finish)
  | fuel + 1, done, leading, trailing, wasBlank, finish => do
      if (← mark).column ≠ indent || (← rest).isEmpty then
        return (done, leading, trailing, finish)
      let blank := startsWith isBlank (← rest)
      let between :=
        if !literal && leading == ['\n'] && !wasBlank && !blank then
          if trailing.isEmpty then [' '] else []
        else leading
      let line ← readWhile fun _ => true
      let done := done ++ between ++ trailing ++ line
      let leading ← readLine
      let (trailing, _, finish) ← blockBreaks outer indent start
      blockLines literal outer indent start fuel done leading trailing blank finish

/-- Read a block scalar inside a block of the indentation `outer`. -/
def blockScalar (literal : Bool) (outer : Int) : Scan Token := do
  let start ← mark
  advance
  let (chomping, increment?) ← blockIndicators start
  skipLineEnd .blockScalar start
  let given := increment?.elim 0 fun increment => (max outer 0).toNat + increment
  let (trailing, indent, finish) ← blockBreaks outer given start
  let (text, leading, trailing, finish) ←
    blockLines literal outer indent start ((← rest).length + 1) [] [] trailing false finish
  let tail :=
    match chomping with
    | .strip => []
    | .clip => leading
    | .keep => leading ++ trailing
  return ⟨.scalar .block (text ++ tail), start, finish⟩

end Scan

end Yaml

end WorkflowEditor
