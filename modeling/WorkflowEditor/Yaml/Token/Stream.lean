import WorkflowEditor.Yaml.Token.Scalar

/-!
# The tokens of a text

Indentation opens and closes block collections, and a colon may turn the token
before it into a key after the fact.  Such a simple key has to end on its line
and within 1024 characters, so a token is given out only when no colon can reach
it any more.  `tokens` lists the tokens that are given out, and the fault that
ends them, if the text is not YAML.

A character that no YAML text holds is reported before any other fault, as the text
is searched for one before it is read.  This is what a reader does that takes in
16 KiB at a time, as long as the text is no longer than that; of a longer text such a
reader would report a fault that shows before the piece with the character is
taken in.
-/

namespace WorkflowEditor

namespace Yaml

/-- A token that a colon may turn into a key. -/
structure SimpleKey where
  /-- The key is the first token of a line in a block, so a colon has to follow. -/
  required : Bool
  /-- The number of tokens before it. -/
  number : Nat
  start : Mark
  deriving DecidableEq, Repr, Inhabited

/-- The state of reading tokens. -/
structure TokenState where
  cursor : Cursor
  /-- Tokens that were read and not given out. -/
  queue : List Token
  /-- The number of tokens that were given out. -/
  given : Nat
  /-- The indentation of the block around, or -1. -/
  indent : Int
  /-- The indentations of the blocks further out, the innermost first. -/
  outer : List Int
  /-- Whether a simple key may start here. -/
  keyAllowed : Bool
  /-- The possible key of the innermost flow collection, or of the block. -/
  key? : Option SimpleKey
  /-- The possible keys of the collections further out, the innermost first; their
  number is the depth of flow collections. -/
  outerKeys : List (Option SimpleKey)
  /-- Whether the end of the text was read. -/
  ended : Bool
  deriving Repr, Inhabited

/-- A step of reading tokens. -/
abbrev TokenReader := StateT TokenState (Except SyntaxError)

namespace TokenReader

/-- Walk over the text. -/
def scan {α : Type} (walk : Scan α) : TokenReader α := do
  let state ← get
  match walk state.cursor with
  | .ok (found, cursor) =>
      set { state with cursor }
      return found
  | .error error => throw error

/-- The place that was reached. -/
def mark : TokenReader Mark := do return (← get).cursor.mark

/-- Whether the place is inside a flow collection. -/
def inFlow : TokenReader Bool := do return !(← get).outerKeys.isEmpty

/-- Stop with a problem at the place that was reached. -/
def fail {α : Type} (problem : Problem) : TokenReader α := do
  throw (.misplaced problem (← mark) none)

/-- Put a token at the end of the queue. -/
def enqueue (token : Token) : TokenReader Unit :=
  modify fun state => { state with queue := state.queue ++ [token] }

/-- Put a token in front of the one with that number. -/
def insertAt (number : Nat) (token : Token) : TokenReader Unit :=
  modify fun state =>
    let place := number - state.given
    { state with queue := state.queue.take place ++ token :: state.queue.drop place }

/-- Allow or forbid a simple key. -/
def allowKey (allowed : Bool) : TokenReader Unit :=
  modify fun state => { state with keyAllowed := allowed }

/-! ## Simple keys -/

/-- A key that has to be one did not find its colon. -/
def failAtKey {α : Type} (key : SimpleKey) : TokenReader α := do
  throw (.misplaced .keyColonMissing (← mark) (some (.simpleKey, key.start)))

/-- Whether a simple key cannot reach the place any more. -/
def isStale (place : Mark) (key : SimpleKey) : Bool :=
  key.start.line < place.line || key.start.index + 1024 < place.index

/-- Give up the keys of a list that cannot reach the place, the outermost first. -/
def dropStale : List (Option SimpleKey) → TokenReader (List (Option SimpleKey))
  | [] => return []
  | key? :: further => do
      let further ← dropStale further
      match key? with
      | none => return none :: further
      | some key =>
          if isStale (← mark) key then
            if key.required then failAtKey key
            return none :: further
          else return some key :: further

/-- Give up the keys that cannot reach the place any more. -/
def dropStaleKeys : TokenReader Unit := do
  let state ← get
  match ← dropStale (state.key? :: state.outerKeys) with
  | key? :: outerKeys => modify fun state => { state with key?, outerKeys }
  | [] => return

/-- Give up the possible key of the innermost collection. -/
def removeKey : TokenReader Unit := do
  match (← get).key? with
  | some key =>
      if key.required then failAtKey key
      modify fun state => { state with key? := none }
  | none => return

/-- The next token may become a key. -/
def saveKey : TokenReader Unit := do
  let state ← get
  if state.keyAllowed then
    let required := state.outerKeys.isEmpty && state.indent == (state.cursor.mark.column : Int)
    removeKey
    modify fun state =>
      { state with
        key? := some ⟨required, state.given + state.queue.length, state.cursor.mark⟩ }

/-! ## Indentation -/

/-- Open a block collection if the column exceeds the indentation; its token goes
in front of the token with the number, if one is given. -/
def rollIndent (column : Nat) (number? : Option Nat) (kind : TokenKind) (place : Mark) :
    TokenReader Unit := do
  let state ← get
  if state.outerKeys.isEmpty && state.indent < (column : Int) then
    set { state with outer := state.indent :: state.outer, indent := column }
    match number? with
    | some number => insertAt number ⟨kind, place, place⟩
    | none => enqueue ⟨kind, place, place⟩

/-- Close the block collections that are indented further than a column; the
outer indentations come one after the other. -/
def closeBlocks (column : Int) : List Int → TokenReader Unit
  | [] => return
  | next :: further => do
      let state ← get
      if column < state.indent then
        enqueue ⟨.blockEnd, state.cursor.mark, state.cursor.mark⟩
        modify fun state => { state with indent := next, outer := further }
        closeBlocks column further

/-- Close the block collections that are indented further than a column. -/
def unrollIndent (column : Int) : TokenReader Unit := do
  let state ← get
  if state.outerKeys.isEmpty then closeBlocks column state.outer

/-! ## Tokens -/

/-- Read a token of `length` characters. -/
def indicator (kind : TokenKind) (length : Nat) : TokenReader Unit := do
  enqueue (← scan (Scan.token fun _ => do
    Scan.skip length
    return kind))

/-- Pass over blanks, comments and line breaks; `fuel` exceeds the number of
characters left. -/
def skipToToken : (fuel : Nat) → TokenReader Unit
  | 0 => return
  | fuel + 1 => do
      let state ← get
      if state.cursor.mark.index = 0 && startsWith (· == '\uFEFF') state.cursor.rest then
        scan Scan.advance
      let tabs := !state.outerKeys.isEmpty || !state.keyAllowed
      discard (scan (Scan.readWhile fun char => char == ' ' || (tabs && char == '\t')))
      scan Scan.skipComment
      if startsWith isBreak (← get).cursor.rest then
        scan Scan.advanceLine
        if !(← inFlow) then allowKey true
        skipToToken fuel

/-- Read the end of the text. -/
def streamEnd : TokenReader Unit := do
  modify fun state =>
    let place := state.cursor.mark
    if place.column = 0 then state
    else
      { state with
        cursor := { state.cursor with mark := ⟨place.index, place.line + 1, 0⟩ } }
  unrollIndent (-1)
  removeKey
  allowKey false
  let place ← mark
  enqueue ⟨.streamEnd, place, place⟩
  modify fun state => { state with ended := true }

/-- Read a directive. -/
def directive : TokenReader Unit := do
  unrollIndent (-1)
  removeKey
  allowKey false
  enqueue (← scan Scan.directive)

/-- Read the mark that starts or ends a document. -/
def documentMark (kind : TokenKind) : TokenReader Unit := do
  unrollIndent (-1)
  removeKey
  allowKey false
  indicator kind 3

/-- Read the start of a flow collection. -/
def flowStart (kind : TokenKind) : TokenReader Unit := do
  saveKey
  modify fun state => { state with key? := none, outerKeys := state.key? :: state.outerKeys }
  allowKey true
  indicator kind 1

/-- Read the end of a flow collection. -/
def flowEnd (kind : TokenKind) : TokenReader Unit := do
  removeKey
  modify fun state =>
    match state.outerKeys with
    | [] => state
    | key? :: outerKeys => { state with key?, outerKeys }
  allowKey false
  indicator kind 1

/-- Read the comma of a flow collection. -/
def flowEntry : TokenReader Unit := do
  removeKey
  allowKey true
  indicator .flowEntry 1

/-- Read the dash of a block sequence. -/
def blockEntry : TokenReader Unit := do
  if !(← inFlow) then
    if !(← get).keyAllowed then fail .blockEntryNotAllowed
    let place ← mark
    rollIndent place.column none .blockSequenceStart place
  removeKey
  allowKey true
  indicator .blockEntry 1

/-- Read the question mark before a key. -/
def key : TokenReader Unit := do
  if !(← inFlow) then
    if !(← get).keyAllowed then fail .keyNotAllowed
    let place ← mark
    rollIndent place.column none .blockMappingStart place
  removeKey
  allowKey (!(← inFlow))
  indicator .key 1

/-- Read the colon before a value; a possible key before it becomes one. -/
def value : TokenReader Unit := do
  match (← get).key? with
  | some found =>
      insertAt found.number ⟨.key, found.start, found.start⟩
      rollIndent found.start.column (some found.number) .blockMappingStart found.start
      modify fun state => { state with key? := none }
      allowKey false
  | none =>
      if !(← inFlow) then
        if !(← get).keyAllowed then fail .valueNotAllowed
        let place ← mark
        rollIndent place.column none .blockMappingStart place
      allowKey (!(← inFlow))
  indicator .value 1

/-- Read a token that may become a key. -/
def keyToken (read : Scan Token) : TokenReader Unit := do
  saveKey
  allowKey false
  enqueue (← scan read)

/-- Read a block scalar. -/
def blockScalar (literal : Bool) : TokenReader Unit := do
  removeKey
  allowKey true
  enqueue (← scan (Scan.blockScalar literal (← get).indent))

/-- Read a plain scalar. -/
def plainScalar : TokenReader Unit := do
  saveKey
  allowKey false
  let (token, broken) ← scan (Scan.plainScalar (← inFlow) (← get).indent)
  enqueue token
  if broken then allowKey true

/-- Whether a plain scalar may start with the character before what follows. -/
def startsPlain (flow : Bool) (char : Char) (following : List Char) : Bool :=
  if char == '-' then !startsWith isBlank following
  else if char == '?' || char == ':' then !flow && !atBlankOrEnd following
  else !isBlank char && !",[]\x7b\x7d#&*!|>'\"%@`".toList.contains char

/-- Read the next token from its first character. -/
def tokenFrom (char : Char) (following : List Char) : TokenReader Unit := do
  let flow ← inFlow
  let boundary := atBlankOrEnd following
  match char with
  | '[' => flowStart .flowSequenceStart
  | '\x7b' => flowStart .flowMappingStart
  | ']' => flowEnd .flowSequenceEnd
  | '\x7d' => flowEnd .flowMappingEnd
  | ',' => flowEntry
  | '*' => keyToken (Scan.anchor true)
  | '&' => keyToken (Scan.anchor false)
  | '!' => keyToken (Scan.tag flow)
  | '\'' => keyToken (Scan.quotedScalar true)
  | '"' => keyToken (Scan.quotedScalar false)
  | _ =>
      if char = '-' && boundary then blockEntry
      else if char = '?' && (flow || boundary) then key
      else if char = ':' && (flow || boundary) then value
      else if char = '|' && !flow then blockScalar true
      else if char = '>' && !flow then blockScalar false
      else if startsPlain flow char following then plainScalar
      else
        let place ← mark
        throw (.misplaced .noTokenStart place (some (.nextToken, place)))

/-- Read the next token, and those that its indentation calls for. -/
def fetch : TokenReader Unit := do
  skipToToken ((← get).cursor.rest.length + 1)
  dropStaleKeys
  unrollIndent ((← mark).column : Int)
  let cursor := (← get).cursor
  match cursor.rest with
  | [] => streamEnd
  | char :: following =>
      if cursor.mark.column = 0 && char = '%' then directive
      else if ← scan (Scan.atDocumentMark '-') then documentMark .documentStart
      else if ← scan (Scan.atDocumentMark '.') then documentMark .documentEnd
      else tokenFrom char following

/-- Whether a colon may still turn the first token of the queue into a key. -/
def headIsOpen (state : TokenState) : Bool :=
  (state.key? :: state.outerKeys).any fun key? =>
    key?.any fun key => key.number == state.given

/-- Read tokens until the first one of the queue can be given out; `fuel` exceeds
the number of characters left by two. -/
def fill : (fuel : Nat) → TokenReader Unit
  | 0 => return
  | fuel + 1 => do
      if !(← get).queue.isEmpty then dropStaleKeys
      let state ← get
      if state.queue.isEmpty || headIsOpen state then
        fetch
        fill fuel

/-- Give out the next token, unless the text has ended. -/
def next? : TokenReader (Option Token) := do
  let state ← get
  if state.queue.isEmpty && state.ended then return none
  fill (state.cursor.rest.length + 3)
  let state ← get
  match state.queue with
  | [] => return none
  | token :: queue =>
      set { state with queue, given := state.given + 1 }
      return some token

end TokenReader

/-- The start of reading tokens. -/
def TokenState.start (text : String) : TokenState where
  cursor := ⟨text.toList, .start⟩
  queue := [⟨.streamStart, .start, .start⟩]
  given := 0
  indent := -1
  outer := []
  keyAllowed := true
  key? := none
  outerKeys := []
  ended := false

/-- The tokens that are given out from a state on, and the fault that ends them;
`fuel` exceeds their number. -/
def tokensFrom : (fuel : Nat) → TokenState → List Token × Option SyntaxError
  | 0, _ => ([], none)
  | fuel + 1, state =>
      match TokenReader.next?.run state with
      | .error error => ([], some error)
      | .ok (none, _) => ([], none)
      | .ok (some token, after) =>
          let (tokens, error?) := tokensFrom fuel after
          (token :: tokens, error?)

/-- The tokens of a text, and the fault that ends them. -/
def tokens (text : String) : List Token × Option SyntaxError :=
  match forbiddenOffset? text.toList with
  | some offset => ([], some (.forbiddenCharacter offset))
  | none => tokensFrom (6 * text.length + 8) (.start text)

end Yaml

end WorkflowEditor
