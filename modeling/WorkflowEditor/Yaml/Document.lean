import WorkflowEditor.Text.Quoted
import WorkflowEditor.Yaml.Event
import WorkflowEditor.Yaml.Tree

/-!
# Reading YAML text

`Yaml.parse` reads a text with one document as a tree.  The events of the document
are read in order, aliases by going back to the node that they name, and the first
error in that order is reported; a fault of the text counts where its events end.
Nesting and the number of aliases are limited.
-/

namespace WorkflowEditor

namespace Yaml

/-! ## Errors -/

/-- A step from a value to a part of it, for messages. -/
inductive PathStep where
  | item (position : Nat)
  | entry (key : List Char)
  | unknown
  deriving DecidableEq, Repr

/-- The path to a value, the last step first. -/
abbrev Path := List PathStep

/-- The words for a path; a dot stands for the whole document. -/
def describePath : Path → String
  | [] => "."
  | .item position :: parent => describePath parent ++ s!"[{position}]"
  | .entry key :: parent => behind parent ++ String.ofList key
  | .unknown :: parent => behind parent ++ "?"
where
  /-- The path to the parent, and a dot behind it unless it is the document. -/
  behind : Path → String
    | [] => ""
    | parent => describePath parent ++ "."

/-- Why a node has no value. -/
inductive NodeFault where
  | scalar (fault : ScalarFault)
  | duplicateKey (key : Tree)
  deriving Repr

/-- Why a text has no value. -/
inductive ParseError where
  | syntaxError (error : SyntaxError)
  | node (fault : NodeFault) (path : Path) (place : Mark)
  | unknownAnchor (place : Mark)
  | nestingTooDeep (place : Mark)
  | repetitionTooLong
  | severalDocuments
  deriving Repr

/-- The wording of a scalar's fault. -/
def ScalarFault.message : ScalarFault → String
  | .notOfKind text kind => "invalid value: string " ++ Text.quoted text ++ ", expected " ++ kind.describe
  | .integerTooLarge value =>
      let width := if value < 0 then "i128" else "u128"
      "invalid type: integer `" ++ toString value ++ "` as " ++ width ++ ", expected any YAML value"

/-- The wording of a number as a key. -/
def FloatValue.describe : FloatValue → String
  | .finite value => NumberLayout.yaml.render value
  | .infinite negative => if negative then "-.inf" else ".inf"
  | .notANumber => ".nan"

/-- The wording of a repeated key. -/
def describeKey : Tree → String
  | .scalar .null => "with null key"
  | .scalar (.bool value) => s!"with key `{value}`"
  | .scalar (.integer value) => s!"with key {value}"
  | .scalar (.float value) => "with key " ++ value.describe
  | .scalar (.text value) => "with key " ++ Text.quoted value
  | .sequence _ | .mapping _ | .tagged _ _ => "in YAML map"

/-- The wording of a node's fault. -/
def NodeFault.message : NodeFault → String
  | .scalar fault => fault.message
  | .duplicateKey key => "duplicate entry " ++ describeKey key

/-- The suffix that names a place, unless it is the start. -/
def placeSuffix (place : Mark) : String := if place.isStart then "" else place.describe

/-- The wording of an error. -/
def ParseError.message : ParseError → String
  | .syntaxError error => error.message
  | .node fault path place =>
      (if path.isEmpty then "" else describePath path ++ ": ") ++ fault.message ++
        placeSuffix place
  | .unknownAnchor place => "unknown anchor" ++ placeSuffix place
  | .nestingTooDeep place => "recursion limit exceeded" ++ placeSuffix place
  | .repetitionTooLong => "repetition limit exceeded"
  | .severalDocuments =>
      "deserializing from YAML containing more than one document is not supported"

/-! ## Documents -/

/-- A node event of a document; an alias holds the number of its anchor. -/
inductive NodeEvent where
  | scalar (tag? : Option Tag) (style : ScalarStyle) (text : List Char)
  | alias (anchor : Nat)
  | sequenceStart (tag? : Option Tag)
  | sequenceEnd
  | mappingStart (tag? : Option Tag)
  | mappingEnd
  deriving DecidableEq, Repr, Inhabited

/-- The first document of a text. -/
structure Document where
  events : List (NodeEvent × Mark)
  /-- The event that each numbered anchor is at. -/
  anchors : List (Nat × Nat)
  /-- The fault that ends the events. -/
  fault? : Option ParseError
  /-- Whether something other than the end of the text follows. -/
  hasMore : Bool
  deriving Repr, Inhabited

/-- What is known of a document while its events are read, the last event first. -/
structure Collected where
  events : List (NodeEvent × Mark)
  anchors : List (Nat × Nat)
  /-- The number of each anchor's name. -/
  names : List (List Char × Nat)

namespace Collected

/-- Take in an event. -/
def add (collected : Collected) (event : NodeEvent) (place : Mark) : Collected :=
  { collected with events := (event, place) :: collected.events }

/-- Give the next event the anchor.  Its number is the number of names before it,
so an anchor that is named again may share its number with the next one; the later
of them counts. -/
def name (collected : Collected) : Option (List Char) → Collected
  | none => collected
  | some anchor =>
      let number := collected.names.length
      { collected with
        names := (anchor, number) :: collected.names.filter (·.1 ≠ anchor)
        anchors := (number, collected.events.length) :: collected.anchors }

/-- The document. -/
def finish (collected : Collected) (fault? : Option ParseError) (hasMore : Bool) : Document :=
  ⟨collected.events.reverse, collected.anchors, fault?, hasMore⟩

end Collected

/-- Collect the events of the first document. -/
def collect (fault? : Option SyntaxError) : List (Event × Mark) → Collected → Document
  | [], collected => collected.finish (fault?.map .syntaxError) false
  | (event, place) :: rest, collected =>
      match event with
      | .documentStart => collect fault? rest collected
      | .documentEnd =>
          let onlyOne := match rest with
            | (.streamEnd, _) :: _ => true
            | _ => false
          collected.finish none (!onlyOne)
      | .streamEnd =>
          (collected.add (.scalar none .plain []) place).finish none false
      | .alias name =>
          match collected.names.find? (·.1 == name) with
          | some (_, number) => collect fault? rest (collected.add (.alias number) place)
          | none => collected.finish (some (.unknownAnchor place)) false
      | .scalar properties style text =>
          collect fault? rest
            ((collected.name properties.anchor?).add (.scalar properties.tag? style text) place)
      | .sequenceStart properties =>
          collect fault? rest
            ((collected.name properties.anchor?).add (.sequenceStart properties.tag?) place)
      | .mappingStart properties =>
          collect fault? rest
            ((collected.name properties.anchor?).add (.mappingStart properties.tag?) place)
      | .sequenceEnd => collect fault? rest (collected.add .sequenceEnd place)
      | .mappingEnd => collect fault? rest (collected.add .mappingEnd place)

/-- The first document of a text; a text without documents holds one empty node. -/
def Document.ofText (text : String) : Document :=
  let (events, fault?) := Yaml.events text
  collect fault? events ⟨[], [], []⟩

/-! ## Trees -/

/-- How far the reading of a document has come. -/
structure Progress where
  position : Nat
  jumps : Nat
  deriving DecidableEq, Repr

/-- A step of reading a document. -/
abbrev TreeReader := ReaderT Document (StateT Progress (Except ParseError))

namespace TreeReader

/-- The event at a position. -/
def eventAt (position : Nat) : TreeReader (NodeEvent × Mark) := do
  let document ← read
  match document.events[position]?, document.fault? with
  | some event, _ => return event
  | none, some error => throw error
  | none, none => return (.sequenceEnd, .start)

/-- The next event, which is left where it is. -/
def peek : TreeReader (NodeEvent × Mark) := do eventAt (← get).position

/-- Pass over the next event. -/
def advance : TreeReader Unit :=
  modify fun progress => { progress with position := progress.position + 1 }

/-- Read the node that an anchor names, and come back. -/
def jump {α : Type} (anchor : Nat) (reader : TreeReader α) : TreeReader α := do
  let document ← read
  modify fun progress => { progress with jumps := progress.jumps + 1 }
  let progress ← get
  if document.events.length * 100 < progress.jumps then throw .repetitionTooLong
  let target := (document.anchors.find? (·.1 == anchor)).elim 0 (·.2)
  set { progress with position := target }
  let found ← reader
  modify fun after => { after with position := progress.position }
  return found

/-- Read items up to the end of the sequence; `fuel` exceeds the number of
events. -/
def items (item : Path → TreeReader Tree) (path : Path) : (fuel : Nat) → (position : Nat) →
    TreeReader (List Tree)
  | 0, _ => return []
  | fuel + 1, position => do
      match (← peek).1 with
      | .sequenceEnd =>
          advance
          return []
      | _ =>
          let first ← item (.item position :: path)
          return first :: (← items item path fuel (position + 1))

/-- The step to the value of the key that comes next. -/
def stepOfKey : NodeEvent → PathStep
  | .scalar _ _ text => .entry text
  | _ => .unknown

/-- Read entries up to the end of the mapping that started at `start`; the keys
have to be distinct.  `fuel` exceeds the number of events. -/
def entries (key : TreeReader Tree) (value : Path → TreeReader Tree) (path : Path)
    (start : Mark) : (fuel : Nat) → (done : List (Tree × Tree)) →
    TreeReader (List (Tree × Tree))
  | 0, done => return done
  | fuel + 1, done => do
      match (← peek).1 with
      | .mappingEnd =>
          advance
          return done
      | next =>
          let found ← key
          if Tree.hasKey done found then throw (.node (.duplicateKey found) path start)
          let content ← value (stepOfKey next :: path)
          entries key value path start fuel (done ++ [(found, content)])

/-- The local tag that makes a tagged value. -/
def localTag? (tag? : Option Tag) : Option String :=
  tag?.bind fun tag =>
    if tag.readable then
      match tag.chars with
      | ['!'] => some "!"
      | '!' :: rest => some (String.ofList rest)
      | _ => none
    else none

/-- Put a value under its local tag, unless that was done already. -/
def withTag (isTagged : Bool) (tag? : Option Tag) (content : Tree) : Tree :=
  if isTagged then content
  else (localTag? tag?).elim content fun tag => .tagged tag content

/-- The tree of a scalar. -/
def scalar (isTagged : Bool) (tag? : Option Tag) (style : ScalarStyle) (text : List Char)
    (path : Path) (place : Mark) : TreeReader Tree := do
  let own? := if isTagged || (localTag? tag?).isSome then none else tag?
  match Scalar.value own? style text with
  | .ok value => return withTag isTagged tag? (.scalar value)
  | .error fault => throw (.node (.scalar fault) path place)

/-- How to read a node from its first event: whether its own tag counts, the path to
it, the event and its place. -/
abbrev NodeReader := (isTagged : Bool) → Path → NodeEvent → Mark → TreeReader Tree

/-- Read a node; an alias stands for the node that it names. -/
def node (read : NodeReader) (isTagged : Bool) (path : Path) : TreeReader Tree := do
  let (event, place) ← peek
  match event with
  | .alias anchor =>
      advance
      jump anchor do
        let (event, place) ← peek
        read false path event place
  | event => read isTagged path event place

/-- Read a node from its first event; `depth` more levels may be opened.  The keys of
a tagged mapping leave their own tags aside. -/
def nodeFrom : (depth : Nat) → NodeReader
  | _, isTagged, path, .scalar tag? style text, place => do
      advance
      scalar isTagged tag? style text path place
  | depth + 1, isTagged, path, .sequenceStart tag?, _ => do
      advance
      let found ← items (node (nodeFrom depth) false) path ((← read).events.length + 1) 0
      return withTag isTagged tag? (.sequence found)
  | depth + 1, isTagged, path, .mappingStart tag?, place => do
      advance
      let keysTagged := isTagged || (localTag? tag?).isSome
      let found ← entries (node (nodeFrom depth) keysTagged path)
        (node (nodeFrom depth) false) path place ((← read).events.length + 1) []
      return withTag isTagged tag? (.mapping found)
  | _, _, _, _, place => throw (.nestingTooDeep place)

end TreeReader

/-- The greatest number of nested collections. -/
def nestingLimit : Nat := 128

/-- The tree of a document. -/
def Document.tree (document : Document) : Except ParseError Tree := do
  let (tree, _) ← (TreeReader.node (TreeReader.nodeFrom nestingLimit) false []).run document |>.run ⟨0, 0⟩
  match document.fault? with
  | some error => throw error
  | none => if document.hasMore then throw .severalDocuments else return tree

/-- The tree that a text writes. -/
def parse (text : String) : Except ParseError Tree := (Document.ofText text).tree

end Yaml

end WorkflowEditor
