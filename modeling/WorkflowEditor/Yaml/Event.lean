import WorkflowEditor.Yaml.Token.Stream

/-!
# Events

The events of a document: scalars, aliases, and the starts and ends of sequences
and mappings.  They are read from the tokens by a stack of expectations, whose
first one tells what may come next.  A node that is missing where one may be
missing is an empty plain scalar.
-/

namespace WorkflowEditor

namespace Yaml

/-- What a node may carry besides its content. -/
structure NodeProperties where
  anchor? : Option (List Char)
  tag? : Option Tag
  deriving DecidableEq, Repr, Inhabited

/-- An event. -/
inductive Event where
  | scalar (properties : NodeProperties) (style : ScalarStyle) (text : List Char)
  | alias (name : List Char)
  | sequenceStart (properties : NodeProperties)
  | sequenceEnd
  | mappingStart (properties : NodeProperties)
  | mappingEnd
  | documentStart
  | documentEnd
  | streamEnd
  deriving DecidableEq, Repr, Inhabited

/-- The event of a node that is missing. -/
def Event.empty : Event := .scalar ⟨none, none⟩ .plain []

/-- What may come next.  Collections remember where they started. -/
inductive Expectation where
  /-- A document, which may start without a mark only if it is the first one. -/
  | document (first : Bool)
  | documentContent
  | documentEnd
  | blockNode
  | blockItem (start : Mark)
  | indentlessItem
  | blockKey (start : Mark)
  | blockValue (start : Mark)
  | flowItem (start : Mark) (first : Bool)
  | pairKey
  | pairValue
  | pairEnd
  | flowKey (start : Mark) (first : Bool)
  | flowValue
  | flowNoValue
  deriving DecidableEq, Repr, Inhabited

/-- The state of reading events. -/
structure EventState where
  /-- The tokens that are left. -/
  tokens : List Token
  /-- The fault behind the last token. -/
  fault? : Option SyntaxError
  /-- What may come next, and behind it. -/
  expected : List Expectation
  /-- What the handles of tags stand for in the document. -/
  handles : List (List Char × Tag)
  deriving Repr, Inhabited

/-- A step of reading events. -/
abbrev EventReader := StateT EventState (Except SyntaxError)

namespace EventReader

/-- The next token, which is left where it is. -/
def peek : EventReader Token := do
  let state ← get
  match state.tokens, state.fault? with
  | token :: _, _ => return token
  | [], some error => throw error
  | [], none => return ⟨.streamEnd, .start, .start⟩

/-- Pass over the next token. -/
def advance : EventReader Unit :=
  modify fun state => { state with tokens := state.tokens.drop 1 }

/-- Expect something before what is expected so far. -/
def expect (expectation : Expectation) : EventReader Unit :=
  modify fun state => { state with expected := expectation :: state.expected }

/-- Stop with a problem inside something that started earlier. -/
def fail {α : Type} (problem : Problem) (place : Mark) (inside : Activity) (start : Mark) :
    EventReader α :=
  throw (.misplaced problem place (some (inside, start)))

/-- A missing node at a place. -/
def missing (place : Mark) : EventReader (Event × Mark) := return (.empty, place)

/-! ## Nodes -/

/-- Read an anchor if one comes next. -/
def anchor? : EventReader (Option (List Char)) := do
  match (← peek).kind with
  | .anchor name =>
      advance
      return some name
  | _ => return none

/-- Read a tag if one comes next, and where it starts. -/
def tag? : EventReader (Option (List Char × Tag × Mark)) := do
  let token ← peek
  match token.kind with
  | .tag handle rest =>
      advance
      return some (handle, rest, token.start)
  | _ => return none

/-- The whole text of a tag. -/
def resolveTag (start : Mark) : List Char × Tag × Mark → EventReader Tag
  | ([], rest, _) => return rest
  | (handle, rest, place) => do
      match (← get).handles.find? (·.1 == handle) with
      | some (_, replacement) => return replacement.append rest
      | none => fail .undefinedTagHandle place .node start

/-- Read the anchor and the tag of a node, in either order.  The token behind them is
looked at before the handle of the tag is, so a fault there is found first. -/
def properties (start : Mark) : EventReader NodeProperties := do
  let anchor? ← anchor?
  let tag? ← tag?
  let anchor? ← if anchor?.isNone && tag?.isSome then EventReader.anchor? else pure anchor?
  discard peek
  return ⟨anchor?, ← tag?.mapM (resolveTag start)⟩

/-- Read a node.  Only in a block may it be a block collection, and only where
`indentless` allows it a sequence that is not indented. -/
def node (inBlock indentless : Bool) : EventReader (Event × Mark) := do
  let token ← peek
  match token.kind with
  | .alias name =>
      advance
      return (.alias name, token.start)
  | _ =>
      let start := token.start
      let properties ← properties start
      let token ← peek
      match token.kind with
      | .scalar style text =>
          advance
          return (.scalar properties style text, start)
      | .flowSequenceStart =>
          advance
          expect (.flowItem token.start true)
          return (.sequenceStart properties, start)
      | .flowMappingStart =>
          advance
          expect (.flowKey token.start true)
          return (.mappingStart properties, start)
      | kind =>
          if indentless && kind == .blockEntry then
            expect .indentlessItem
            return (.sequenceStart properties, start)
          else if inBlock && kind == .blockSequenceStart then
            advance
            expect (.blockItem token.start)
            return (.sequenceStart properties, start)
          else if inBlock && kind == .blockMappingStart then
            advance
            expect (.blockKey token.start)
            return (.mappingStart properties, start)
          else if properties.anchor?.isSome || properties.tag?.isSome then
            return (.scalar properties .plain [], start)
          else
            fail .nodeMissing token.start (if inBlock then .blockNode else .flowNode) start

/-- Read a node unless one of some tokens comes next, which leaves it missing. -/
def nodeUnless (absent : TokenKind → Bool) (inBlock indentless : Bool) (place : Mark) :
    EventReader (Event × Mark) := do
  if absent (← peek).kind then missing place else node inBlock indentless

/-! ## Documents -/

/-- Pass over the marks of ended documents; `fuel` is the number of tokens left. -/
def skipDocumentEnds : (fuel : Nat) → EventReader Unit
  | 0 => return
  | fuel + 1 => do
      if (← peek).kind == .documentEnd then
        advance
        skipDocumentEnds fuel

/-- Read the directives of a document; `fuel` exceeds the number of tokens left. -/
def directives : (fuel : Nat) → (versionSeen : Bool) → (handles : List (List Char × Tag)) →
    EventReader (List (List Char × Tag))
  | 0, _, handles => return handles
  | fuel + 1, versionSeen, handles => do
      let token ← peek
      match token.kind with
      | .versionDirective major minor =>
          if versionSeen then throw (.misplaced .duplicateVersion token.start none)
          if major ≠ 1 || (minor ≠ 1 && minor ≠ 2) then
            throw (.misplaced .incompatibleVersion token.start none)
          advance
          directives fuel true handles
      | .tagDirective handle replacement =>
          if handles.any (·.1 == handle) then
            throw (.misplaced .duplicateTagDirective token.start none)
          advance
          directives fuel versionSeen (handles ++ [(handle, replacement)])
      | _ => return handles

/-- What the handles stand for that every document has. -/
def defaultHandles : List (List Char × Tag) :=
  [(['!'], .ofChars ['!']), (['!', '!'], .ofChars "tag:yaml.org,2002:".toList)]

/-- Whether a token belongs to the start of a document or ends the stream. -/
def isDocumentStart : TokenKind → Bool
  | .versionDirective _ _ | .tagDirective _ _ | .documentStart | .streamEnd => true
  | _ => false

/-- Read the start of a document, or the end of the stream. -/
def document (first : Bool) : EventReader (Event × Mark) := do
  if !first then skipDocumentEnds (← get).tokens.length
  let token ← peek
  if token.kind == .streamEnd then
    advance
    return (.streamEnd, token.start)
  else if first && !isDocumentStart token.kind then
    modify fun state => { state with handles := defaultHandles }
    expect .documentEnd
    expect .blockNode
    return (.documentStart, token.start)
  else
    let declared ← directives ((← get).tokens.length + 1) false []
    modify fun state => { state with handles := declared ++ defaultHandles }
    let mark ← peek
    if mark.kind ≠ .documentStart then
      throw (.misplaced .documentStartMissing mark.start none)
    advance
    expect .documentEnd
    expect .documentContent
    return (.documentStart, token.start)

/-- Read the end of a document. -/
def documentEnd : EventReader (Event × Mark) := do
  let token ← peek
  if token.kind == .documentEnd then advance
  expect (.document false)
  return (.documentEnd, token.start)

/-- Whether a token leaves the content of a document missing. -/
def isDocumentMark (kind : TokenKind) : Bool :=
  isDocumentStart kind || kind == .documentEnd

/-! ## Collections -/

/-- Whether a token leaves an item of a block sequence missing. -/
def endsBlockItem (kind : TokenKind) : Bool := kind == .blockEntry || kind == .blockEnd

/-- Whether a token leaves a key or value of a block mapping missing. -/
def endsBlockPart (kind : TokenKind) : Bool :=
  kind == .key || kind == .value || kind == .blockEnd

/-- Whether a token leaves an item of a sequence that is not indented missing. -/
def endsIndentlessItem (kind : TokenKind) : Bool := kind == .blockEntry || endsBlockPart kind

/-- Whether a token leaves a value in a flow sequence missing. -/
def endsFlowItem (kind : TokenKind) : Bool := kind == .flowEntry || kind == .flowSequenceEnd

/-- Whether a token leaves a value in a flow mapping missing. -/
def endsFlowPart (kind : TokenKind) : Bool := kind == .flowEntry || kind == .flowMappingEnd

/-- Read an item or the end of a block sequence. -/
def blockItem (start : Mark) : EventReader (Event × Mark) := do
  let token ← peek
  match token.kind with
  | .blockEntry =>
      advance
      expect (.blockItem start)
      nodeUnless endsBlockItem true false token.finish
  | .blockEnd =>
      advance
      return (.sequenceEnd, token.start)
  | _ => fail .dashMissing token.start .blockCollection start

/-- Read an item or the end of a sequence that is not indented. -/
def indentlessItem : EventReader (Event × Mark) := do
  let token ← peek
  if token.kind == .blockEntry then
    advance
    expect .indentlessItem
    nodeUnless endsIndentlessItem true false token.finish
  else return (.sequenceEnd, token.start)

/-- Read a key or the end of a block mapping. -/
def blockKey (start : Mark) : EventReader (Event × Mark) := do
  let token ← peek
  match token.kind with
  | .key =>
      advance
      expect (.blockValue start)
      nodeUnless endsBlockPart true true token.finish
  | .blockEnd =>
      advance
      return (.mappingEnd, token.start)
  | _ => fail .keyMissing token.start .blockMapping start

/-- Read a value of a block mapping. -/
def blockValue (start : Mark) : EventReader (Event × Mark) := do
  let token ← peek
  expect (.blockKey start)
  if token.kind == .value then
    advance
    nodeUnless endsBlockPart true true token.finish
  else missing token.start

/-- Read the comma before every part of a flow collection but the first; nothing
comes before its end. -/
def flowComma (first : Bool) (isEnd : TokenKind → Bool) (problem : Problem)
    (inside : Activity) (start : Mark) : EventReader Unit := do
  let token ← peek
  if !first && !isEnd token.kind then
    if token.kind == .flowEntry then advance
    else fail problem token.start inside start

/-- Read an item or the end of a flow sequence. -/
def flowItem (start : Mark) (first : Bool) : EventReader (Event × Mark) := do
  flowComma first (· == .flowSequenceEnd) .flowSequenceEndMissing .flowSequence start
  let token ← peek
  match token.kind with
  | .flowSequenceEnd =>
      advance
      return (.sequenceEnd, token.start)
  | .key =>
      advance
      expect (.flowItem start false)
      expect .pairKey
      return (.mappingStart ⟨none, none⟩, token.start)
  | _ =>
      expect (.flowItem start false)
      node false false

/-- Read the key of a single pair in a flow sequence; the token that leaves it
missing is passed over. -/
def pairKey : EventReader (Event × Mark) := do
  let token ← peek
  expect .pairValue
  if token.kind == .value || endsFlowItem token.kind then
    advance
    missing token.finish
  else node false false

/-- Read the value of a single pair in a flow sequence. -/
def pairValue : EventReader (Event × Mark) := do
  expect .pairEnd
  if (← peek).kind == .value then
    advance
    nodeUnless endsFlowItem false false (← peek).start
  else missing (← peek).start

/-- Read a key or the end of a flow mapping. -/
def flowKey (start : Mark) (first : Bool) : EventReader (Event × Mark) := do
  flowComma first (· == .flowMappingEnd) .flowMappingEndMissing .flowMapping start
  let token ← peek
  match token.kind with
  | .flowMappingEnd =>
      advance
      return (.mappingEnd, token.start)
  | .key =>
      advance
      expect (.flowKey start false)
      expect .flowValue
      let next ← peek
      nodeUnless (fun kind => kind == .value || endsFlowPart kind) false false next.start
  | _ =>
      expect (.flowKey start false)
      expect .flowNoValue
      node false false

/-- Read a value of a flow mapping. -/
def flowValue : EventReader (Event × Mark) := do
  if (← peek).kind == .value then
    advance
    nodeUnless endsFlowPart false false (← peek).start
  else missing (← peek).start

/-! ## The stream -/

/-- Read what the expectation allows. -/
def meet : Expectation → EventReader (Event × Mark)
  | .document first => document first
  | .documentContent => do
      let token ← peek
      if isDocumentMark token.kind then missing token.start else node true false
  | .documentEnd => documentEnd
  | .blockNode => node true false
  | .blockItem start => blockItem start
  | .indentlessItem => indentlessItem
  | .blockKey start => blockKey start
  | .blockValue start => blockValue start
  | .flowItem start first => flowItem start first
  | .pairKey => pairKey
  | .pairValue => pairValue
  | .pairEnd => do return (.mappingEnd, (← peek).start)
  | .flowKey start first => flowKey start first
  | .flowValue => flowValue
  | .flowNoValue => do missing (← peek).start

/-- Read the next event; after the end of the stream there is none. -/
def next? : EventReader (Option (Event × Mark)) := do
  match (← get).expected with
  | [] => return none
  | expectation :: expected =>
      modify fun state => { state with expected }
      return some (← meet expectation)

end EventReader

/-- The start of reading events.  The first token is the start of the stream; a
fault before it leaves no event. -/
def EventState.start (text : String) : EventState :=
  let (tokens, fault?) := Yaml.tokens text
  ⟨tokens.drop 1, fault?, [.document true], []⟩

/-- The events from a state on, and the fault that ends them; `fuel` exceeds their
number. -/
def eventsFrom : (fuel : Nat) → EventState → List (Event × Mark) × Option SyntaxError
  | 0, _ => ([], none)
  | fuel + 1, state =>
      match EventReader.next?.run state with
      | .error error => ([], some error)
      | .ok (none, _) => ([], none)
      | .ok (some event, after) =>
          let (events, error?) := eventsFrom fuel after
          (event :: events, error?)

/-- The events of a text, and the fault that ends them. -/
def events (text : String) : List (Event × Mark) × Option SyntaxError :=
  let state := EventState.start text
  eventsFrom (3 * state.tokens.length + 8) state

end Yaml

end WorkflowEditor
