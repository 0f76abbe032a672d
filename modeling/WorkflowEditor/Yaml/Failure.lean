/-!
# Faults of YAML text

A fault is a problem at a place, often inside something that started earlier.
Lines and columns count characters; messages count both from one.  The start of
the text is never named.
-/

namespace WorkflowEditor

namespace Yaml

/-- A place in a text: the characters before it, its line and its column, all
counted from zero. -/
structure Mark where
  index : Nat
  line : Nat
  column : Nat
  deriving DecidableEq, Repr, Inhabited

namespace Mark

/-- The start of a text. -/
def start : Mark := ⟨0, 0, 0⟩

/-- Whether the mark is at the start of the first line. -/
def isStart (mark : Mark) : Bool := mark.line == 0 && mark.column == 0

/-- Whether two marks are at one place. -/
def samePlace (left right : Mark) : Bool :=
  left.line == right.line && left.column == right.column

/-- The words for a place. -/
def describe (mark : Mark) : String := s!" at line {mark.line + 1} column {mark.column + 1}"

end Mark

/-- What is wrong at a place. -/
inductive Problem where
  | keyColonMissing
  | blockEntryNotAllowed
  | keyNotAllowed
  | valueNotAllowed
  | noTokenStart
  | unknownDirective
  | directiveTailUnexpected
  | directiveNameMissing
  | directiveNameUnexpected
  | versionPointMissing
  | versionTooLong
  | versionMissing
  | directiveBlankMissing
  | directiveBreakMissing
  | anchorNameMissing
  | tagEndMissing
  | tagBreakMissing
  | tagMarkMissing
  | tagUriMissing
  | tagEscapeInvalid
  | tagOctetInvalid
  | tagTrailingOctetInvalid
  | indentationZero
  | tabInIndentation
  | documentMarkInScalar
  | endInScalar
  | unknownEscape
  | hexDigitsMissing
  | invalidCodePoint
  | colonInPlainScalar
  | tabBeforeIndentation
  | documentStartMissing
  | duplicateVersion
  | incompatibleVersion
  | duplicateTagDirective
  | undefinedTagHandle
  | nodeMissing
  | dashMissing
  | keyMissing
  | flowSequenceEndMissing
  | flowMappingEndMissing
  deriving DecidableEq, Repr

/-- The wording of a problem. -/
def Problem.message : Problem → String
  | .keyColonMissing => "could not find expected ':'"
  | .blockEntryNotAllowed => "block sequence entries are not allowed in this context"
  | .keyNotAllowed => "mapping keys are not allowed in this context"
  | .valueNotAllowed => "mapping values are not allowed in this context"
  | .noTokenStart => "found character that cannot start any token"
  | .unknownDirective => "found unknown directive name"
  | .directiveTailUnexpected => "did not find expected comment or line break"
  | .directiveNameMissing => "could not find expected directive name"
  | .directiveNameUnexpected => "found unexpected non-alphabetical character"
  | .versionPointMissing => "did not find expected digit or '.' character"
  | .versionTooLong => "found extremely long version number"
  | .versionMissing => "did not find expected version number"
  | .directiveBlankMissing => "did not find expected whitespace"
  | .directiveBreakMissing => "did not find expected whitespace or line break"
  | .anchorNameMissing => "did not find expected alphabetic or numeric character"
  | .tagEndMissing => "did not find the expected '>'"
  | .tagBreakMissing => "did not find expected whitespace or line break"
  | .tagMarkMissing => "did not find expected '!'"
  | .tagUriMissing => "did not find expected tag URI"
  | .tagEscapeInvalid => "did not find URI escaped octet"
  | .tagOctetInvalid => "found an incorrect leading UTF-8 octet"
  | .tagTrailingOctetInvalid => "found an incorrect trailing UTF-8 octet"
  | .indentationZero => "found an indentation indicator equal to 0"
  | .tabInIndentation => "found a tab character where an indentation space is expected"
  | .documentMarkInScalar => "found unexpected document indicator"
  | .endInScalar => "found unexpected end of stream"
  | .unknownEscape => "found unknown escape character"
  | .hexDigitsMissing => "did not find expected hexadecimal number"
  | .invalidCodePoint => "found invalid Unicode character escape code"
  | .colonInPlainScalar => "found unexpected ':'"
  | .tabBeforeIndentation => "found a tab character that violates indentation"
  | .documentStartMissing => "did not find expected <document start>"
  | .duplicateVersion => "found duplicate %YAML directive"
  | .incompatibleVersion => "found incompatible YAML document"
  | .duplicateTagDirective => "found duplicate %TAG directive"
  | .undefinedTagHandle => "found undefined tag handle"
  | .nodeMissing => "did not find expected node content"
  | .dashMissing => "did not find expected '-' indicator"
  | .keyMissing => "did not find expected key"
  | .flowSequenceEndMissing => "did not find expected ',' or ']'"
  | .flowMappingEndMissing => "did not find expected ',' or '\x7d'"

/-- What was being read when a problem showed. -/
inductive Activity where
  | simpleKey
  | nextToken
  | directive
  | versionDirective
  | tagDirective
  | tagDirectiveHandle
  | tagDirectiveMark
  | tagDirectiveUri
  | anchor
  | alias
  | tag
  | tagUri
  | blockScalar
  | quotedScalar
  | quotedScalarEscape
  | plainScalar
  | node
  | blockNode
  | flowNode
  | blockCollection
  | blockMapping
  | flowSequence
  | flowMapping
  deriving DecidableEq, Repr

/-- The wording of an activity. -/
def Activity.message : Activity → String
  | .simpleKey => "while scanning a simple key"
  | .nextToken => "while scanning for the next token"
  | .directive => "while scanning a directive"
  | .versionDirective => "while scanning a %YAML directive"
  | .tagDirective => "while scanning a %TAG directive"
  | .tagDirectiveHandle => "while scanning a tag directive"
  | .tagDirectiveMark => "while parsing a tag directive"
  | .tagDirectiveUri => "while parsing a %TAG directive"
  | .anchor => "while scanning an anchor"
  | .alias => "while scanning an alias"
  | .tag => "while scanning a tag"
  | .tagUri => "while parsing a tag"
  | .blockScalar => "while scanning a block scalar"
  | .quotedScalar => "while scanning a quoted scalar"
  | .quotedScalarEscape => "while parsing a quoted scalar"
  | .plainScalar => "while scanning a plain scalar"
  | .node => "while parsing a node"
  | .blockNode => "while parsing a block node"
  | .flowNode => "while parsing a flow node"
  | .blockCollection => "while parsing a block collection"
  | .blockMapping => "while parsing a block mapping"
  | .flowSequence => "while parsing a flow sequence"
  | .flowMapping => "while parsing a flow mapping"

/-- A text that is not YAML. -/
inductive SyntaxError where
  /-- A character that no YAML text holds, and the bytes before it. -/
  | forbiddenCharacter (offset : Nat)
  /-- A problem at a place, and what had started earlier. -/
  | misplaced (problem : Problem) (place : Mark) (inside? : Option (Activity × Mark))
  deriving DecidableEq, Repr

/-- The wording of a fault. -/
def SyntaxError.message : SyntaxError → String
  | .forbiddenCharacter offset =>
      "control characters are not allowed" ++
        if offset = 0 then "" else s!" at position {offset}"
  | .misplaced problem place inside? =>
      problem.message ++ (if place.isStart then "" else place.describe) ++
        inside?.elim "" fun (activity, start) =>
          ", " ++ activity.message ++
            if start.isStart || start.samePlace place then "" else start.describe

end Yaml

end WorkflowEditor
