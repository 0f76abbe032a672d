import WorkflowEditor.Decode.Error
import WorkflowEditor.Json.Parser

/-!
# Typed decoding

A decoder reads one type, both from a JSON tree and straight from JSON text.
From text it checks while it reads, so an error carries the place that was
reached; the content of a tagged union is collected first and decoded as a tree,
so an error inside it has no place of its own.

Records are given by their fields.  Members are taken in their order: a field
that is named twice or does not decode is an error at once, an unknown member is
passed over, and only at the end of the record are missing fields looked for, in
the order of the fields.  A record may also be written as the array of its
fields, and a tagged union as an array that starts with the tag.
-/

namespace WorkflowEditor

open Json (Cursor Reader SyntaxError Fault)

/-- Where a tree comes from: it is a whole value, or the content that was
collected for a tagged union, with the members in the order of the text. -/
inductive Origin where
  | value
  | buffer
  deriving DecidableEq, Repr

/-- What stops a decoder that reads text. -/
inductive TextFault where
  | syntaxFault (fault : Fault)
  | content (error : DecodeError)
  deriving DecidableEq, Repr

/-- What stops a decoder that reads text, and the number of bytes before the
place where it shows, once that is known. -/
structure TextError where
  fault : TextFault
  offset? : Option Nat
  deriving DecidableEq, Repr

/-- The wording of the error, with its place in the text that was read. -/
def TextError.message (error : TextError) (text : String) : String :=
  let cause :=
    match error.fault with
    | .syntaxFault fault => fault.message
    | .content error => error.message
  cause ++ error.offset?.elim "" fun offset => (TextPosition.ofOffset text offset).suffix

/-- Reading that checks while it reads. -/
abbrev TextReader := Reader TextError

/-- How to read a type from a tree and from text. -/
structure Decoder (α : Type) where
  ofTree : Origin → Json → Except DecodeError α
  ofText : TextReader α

/-- What a tree is, as an error names it. -/
def Json.found : Json → Found
  | .null => .null
  | .bool value => .bool value
  | .number (.integer value) => .integer value
  | .number (.double value) => .double value
  | .string text => .text text
  | .array _ => .sequence
  | .object _ => .map

/-! ## Reading text -/

namespace TextReader

variable {α : Type}

/-- Read by the rules of JSON text alone. -/
def plain (reader : Reader SyntaxError α) : TextReader α :=
  reader.mapError fun error => ⟨.syntaxFault error.fault, some error.offset⟩

/-- Stop with an error whose place is not known yet. -/
def fail (error : DecodeError) : TextReader α :=
  throw ⟨.content error, none⟩

/-- Give an error without a place the place that was reached. -/
def located (reader : TextReader α) : TextReader α := fun cursor =>
  match reader cursor with
  | (.ok value, after) => (.ok value, after)
  | (.error error, after) =>
      (.error { error with offset? := some (error.offset?.getD after.offset) }, after)

/-- Read what an array or object holds and its end, which is looked for even
after an error; of two errors the first one counts. -/
def enclosed (close : Reader SyntaxError Unit) (reader : TextReader α) : TextReader α := do
  plain Reader.openLevel
  let result ← (fun cursor =>
    match reader cursor with
    | (result, after) => (.ok result, after) : TextReader (Except TextError α))
  Reader.leaveLevel
  match result with
  | .ok value =>
      plain close
      return value
  | .error error =>
      (fun cursor => (.error error, (plain close cursor).2) : TextReader α)

/-- Stop because the next value is not what is expected.  A scalar is read
first. -/
def mismatch (expected : Expected) : TextReader α := do
  match ← Reader.peekPastBlanks? with
  | some 'n' =>
      plain (Reader.word ['n', 'u', 'l', 'l'])
      fail (.invalidType .null expected)
  | some 't' =>
      plain (Reader.word ['t', 'r', 'u', 'e'])
      fail (.invalidType (.bool true) expected)
  | some 'f' =>
      plain (Reader.word ['f', 'a', 'l', 's', 'e'])
      fail (.invalidType (.bool false) expected)
  | some '"' => fail (.invalidType (.text (← plain Reader.string)) expected)
  | some '[' => fail (.invalidType .sequence expected)
  | some '\x7b' => fail (.invalidType .map expected)
  | some char =>
      if char = '-' || char.isDigit then
        fail (.invalidType (Json.number (← plain Reader.number)).found expected)
      plain (Reader.failNext .valueExpected)
  | none => plain (Reader.failNext .endInValue)

/-- Read the name of a variant. -/
def variantName : TextReader String :=
  located do
    match ← Reader.peekPastBlanks? with
    | some '"' => plain Reader.string
    | _ => mismatch .variantName

/-- Look up a name among the variants. -/
def variant (variants : List (String × α)) : TextReader α :=
  located do
    let name ← variantName
    match Keyed.find? name variants with
    | some found => return found
    | none => fail (.unknownVariant name (variants.map Prod.fst))

/-- Read items up to the end of the array; `fuel` exceeds the number of
characters left, and `done` holds the last item first. -/
def itemsWith (item : TextReader α) : (fuel : Nat) → (first : Bool) → (done : List α) →
    TextReader (List α)
  | 0, _, _ => plain (Reader.failHere .nestingTooDeep)
  | fuel + 1, first, done => do
      if ← plain (Reader.hasItem first) then
        let found ← item
        itemsWith item fuel false (found :: done)
      else return done.reverse

/-- Read items up to the end of the array. -/
def items (item : TextReader α) (first : Bool) : TextReader (List α) := do
  itemsWith item ((← get).rest.length + 1) first []

end TextReader

namespace Decoder

variable {α β σ ρ : Type}

/-- Decode a whole value. -/
def decode (decoder : Decoder α) (value : Json) : Except DecodeError α :=
  decoder.ofTree .value value

/-- Decode a whole text. -/
def decodeText (decoder : Decoder α) (text : String) : Except TextError α :=
  let reader : TextReader α := do
    let value ← decoder.ofText
    TextReader.plain Reader.endOfText
    return value
  (reader (.start text)).1

/-- Decode and change the result. -/
def map (change : α → β) (decoder : Decoder α) : Decoder β where
  ofTree origin tree := (decoder.ofTree origin tree).map change
  ofText := change <$> decoder.ofText

/-! ## Scalars -/

/-- A string. -/
def text : Decoder String where
  ofTree _ tree :=
    match tree with
    | .string text => .ok text
    | other => .error (.invalidType other.found .text)
  ofText := .located do
    match ← Reader.peekPastBlanks? with
    | some '"' => .plain Reader.string
    | _ => .mismatch .text

/-- A boolean. -/
def flag : Decoder Bool where
  ofTree _ tree :=
    match tree with
    | .bool value => .ok value
    | other => .error (.invalidType other.found .boolean)
  ofText := .located do
    match ← Reader.peekPastBlanks? with
    | some 't' =>
        .plain (Reader.word ['t', 'r', 'u', 'e'])
        return true
    | some 'f' =>
        .plain (Reader.word ['f', 'a', 'l', 's', 'e'])
        return false
    | _ => .mismatch .boolean

/-- The index that a number is. -/
def indexOfNumber : JsonNumber → Except DecodeError Nat
  | .integer value =>
      if 0 ≤ value then .ok value.toNat else .error (.invalidValue (.integer value) .index)
  | .double value => .error (.invalidType (.double value) .index)

/-- A natural number below `2 ^ 64`. -/
def index : Decoder Nat where
  ofTree _ tree :=
    match tree with
    | .number value => indexOfNumber value
    | other => .error (.invalidType other.found .index)
  ofText := .located do
    match ← Reader.peekPastBlanks? with
    | some char =>
        if char = '-' || char.isDigit then
          match indexOfNumber (← .plain Reader.number) with
          | .ok value => return value
          | .error error => .fail error
        else .mismatch .index
    | none => .mismatch .index

/-- Null. -/
def unit : Decoder Unit where
  ofTree origin tree :=
    match tree, origin with
    | .null, _ => .ok ()
    | .object [], .buffer => .ok ()
    | other, _ => .error (.invalidType other.found .unit)
  ofText := .located do
    match ← Reader.peekPastBlanks? with
    | some 'n' => .plain (Reader.word ['n', 'u', 'l', 'l'])
    | _ => .mismatch .unit

/-- Any value. -/
def any : Decoder Json where
  ofTree origin tree :=
    match origin with
    | .value => .ok tree
    | .buffer => .ok tree.normalize
  ofText := Json.normalize <$> .plain Reader.tree

/-! ## Options and lists -/

/-- A value or null. -/
def option (decoder : Decoder α) : Decoder (Option α) where
  ofTree origin tree :=
    match tree with
    | .null => .ok none
    | other => (decoder.ofTree origin other).map some
  ofText := do
    match ← Reader.peekPastBlanks? with
    | some 'n' =>
        .plain (Reader.word ['n', 'u', 'l', 'l'])
        return none
    | _ => return some (← decoder.ofText)

/-- Decode items up to the first that does not decode. -/
def listOfTrees (decoder : Decoder α) (origin : Origin) : List Json → Except DecodeError (List α)
  | [] => .ok []
  | item :: rest => do
      let first ← decoder.ofTree origin item
      return first :: (← listOfTrees decoder origin rest)

/-- An array of values of one type. -/
def list (decoder : Decoder α) : Decoder (List α) where
  ofTree origin tree :=
    match tree with
    | .array items => listOfTrees decoder origin items
    | other => .error (.invalidType other.found .sequence)
  ofText := .located do
    match ← Reader.peekPastBlanks? with
    | some '[' => .enclosed Reader.closeArray (.items decoder.ofText true)
    | _ => .mismatch .sequence

/-! ## Variants -/

/-- A variant of an enumeration: a constant, or one that carries a value. -/
inductive Variant (α : Type) where
  | constant (value : α)
  | carrying (decoder : Decoder α)

/-- Look up a variant by name. -/
def variantOfName (variants : List (String × β)) (name : String) : Except DecodeError β :=
  match Keyed.find? name variants with
  | some found => .ok found
  | none => .error (.unknownVariant name (variants.map Prod.fst))

/-- An enumeration: the name of a constant, or an object whose one member has the
name of the variant and holds what it carries. -/
def enumeration (variants : List (String × Variant α)) : Decoder α where
  ofTree origin tree :=
    match tree with
    | .object [(name, content)] => do
        match ← variantOfName variants name with
        | .constant value =>
            unit.ofTree origin content
            return value
        | .carrying decoder => decoder.ofTree origin content
    | .object _ => .error (.invalidValue .map .singleEntry)
    | .string name => do
        match ← variantOfName variants name with
        | .constant value => return value
        | .carrying _ => .error (.invalidType .unitVariant .carryingVariant)
    | other => .error (.invalidType other.found .variant)
  ofText := do
    match ← Reader.peekPastBlanks? with
    | some '\x7b' =>
        .plain Reader.openLevel
        let found ← TextReader.variant variants
        .plain Reader.colon
        let value ←
          match found with
          | .constant value =>
              unit.ofText
              pure value
          | .carrying decoder => decoder.ofText
        Reader.leaveLevel
        match ← Reader.peekPastBlanks? with
        | some '\x7d' =>
            Reader.advance
            return value
        | some _ => .plain (Reader.failHere .valueExpected)
        | none => .plain (Reader.failHere .endInObject)
    | some '"' =>
        match ← TextReader.variant variants with
        | .constant value => return value
        | .carrying _ => .fail (.invalidType .unitVariant .carryingVariant)
    | some _ => .plain (Reader.failNext .valueExpected)
    | none => .plain (Reader.failNext .endInValue)

/-- An enumeration of constants. -/
def constants (names : List (String × α)) : Decoder α :=
  enumeration (names.map fun entry => (entry.1, .constant entry.2))

/-! ## Records -/

/-- What a field that is not there stands for. -/
inductive Absent (α : Type) where
  /-- The record has to have the field. -/
  | error
  /-- The value stands for a field that no member names; an array of fields has
  to reach it. -/
  | unnamed (value : α)
  /-- The value stands for the field in either form of the record. -/
  | default (value : α)

/-- Where the fields of a record are read from. -/
structure Source (m : Type → Type) where
  read : {β : Type} → Decoder β → m β
  fail : {β : Type} → DecodeError → m β

/-- The fields of a record: `σ` holds what has been read of them, and `α` is
what they amount to. -/
structure Fields (σ α : Type) where
  /-- The number of fields. -/
  count : Nat
  /-- Nothing has been read. -/
  empty : σ
  /-- Read the field of that name, if there is one. -/
  store : {m : Type → Type} → [Monad m] → Source m → (key : String) → σ → Option (m σ)
  /-- The record is complete. -/
  finish : σ → Except DecodeError α
  /-- Read the fields in their order, where `next` reads the item at a position
  if there is one. -/
  ofItems : {m : Type → Type} → [Monad m] →
    (next : {β : Type} → (position : Nat) → Decoder β → m (Option β)) →
    (missing : {β : Type} → (position : Nat) → m β) → (position : Nat) → m α

namespace Fields

/-- No fields. -/
def done : Fields Unit Unit where
  count := 0
  empty := ()
  store _ _ _ := none
  finish _ := .ok ()
  ofItems _ _ _ := pure ()

/-- One field before others. -/
def field (name : String) (decoder : Decoder α) (absent : Absent α) (others : Fields σ ρ) :
    Fields (Option α × σ) (α × ρ) where
  count := others.count + 1
  empty := (none, others.empty)
  store source key slots :=
    if key = name then
      some <|
        match slots.1 with
        | some _ => source.fail (.duplicateField name)
        | none => do return (some (← source.read decoder), slots.2)
    else
      (others.store source key slots.2).map fun stored => do return (slots.1, ← stored)
  finish slots := do
    let value ←
      match slots.1, absent with
      | some value, _ => .ok value
      | none, .error => .error (.missingField name)
      | none, .unnamed value => .ok value
      | none, .default value => .ok value
    return (value, ← others.finish slots.2)
  ofItems next missing position := do
    let value ←
      match ← next position decoder, absent with
      | some value, _ => pure value
      | none, .default value => pure value
      | none, _ => missing position
    return (value, ← others.ofItems next missing (position + 1))

/-- Take in the members of an object in their order. -/
def storeTrees (fields : Fields σ α) (origin : Origin) :
    List (String × Json) → σ → Except DecodeError σ
  | [], slots => .ok slots
  | (key, value) :: rest, slots => do
      let source : Source (Except DecodeError) := {
        read := fun decoder => decoder.ofTree origin value
        fail := .error }
      match fields.store source key slots with
      | some stored => storeTrees fields origin rest (← stored)
      | none => storeTrees fields origin rest slots

/-- Take in the members of an object up to its end; `fuel` exceeds the number of
characters left. -/
def storeText (fields : Fields σ α) : (fuel : Nat) → (first : Bool) → σ → TextReader σ
  | 0, _, _ => .plain (Reader.failHere .nestingTooDeep)
  | fuel + 1, first, slots => do
      if ← .plain (Reader.hasMember first) then
        let key ← .plain Reader.string
        let source : Source TextReader := {
          read := fun decoder => do
            .plain Reader.colon
            decoder.ofText
          fail := .fail }
        match fields.store source key slots with
        | some stored => storeText fields fuel false (← stored)
        | none =>
            .plain Reader.colon
            .plain Reader.skipValue
            storeText fields fuel false slots
      else return slots

end Fields

/-- A record with the fields, from an object or from the array of its fields. -/
def record (name : String) (fields : Fields σ ρ) (build : ρ → α) : Decoder α where
  ofTree origin tree :=
    match tree with
    | .object members => do
        let slots ← fields.storeTrees origin members fields.empty
        return build (← fields.finish slots)
    | .array items => do
        let next : {β : Type} → Nat → Decoder β → Except DecodeError (Option β) :=
          fun position decoder =>
            match items[position]? with
            | some item => (decoder.ofTree origin item).map some
            | none => .ok none
        let missing : {β : Type} → Nat → Except DecodeError β := fun position =>
          .error (.invalidLength position (.recordItems name fields.count))
        let values ← fields.ofItems next missing 0
        if fields.count < items.length then
          .error (.invalidLength items.length
            (match origin with
            | .value => .fewerItems
            | .buffer => .items fields.count))
        else return build values
    | other => .error (.invalidType other.found (.record name))
  ofText := .located do
    match ← Reader.peekPastBlanks? with
    | some '[' =>
        .enclosed Reader.closeArray do
          let next : {β : Type} → Nat → Decoder β → TextReader (Option β) :=
            fun position decoder => do
              if ← .plain (Reader.hasItem (position == 0)) then
                return some (← decoder.ofText)
              else return none
          let missing : {β : Type} → Nat → TextReader β := fun position =>
            .fail (.invalidLength position (.recordItems name fields.count))
          return build (← fields.ofItems next missing 0)
    | some '\x7b' =>
        .enclosed Reader.closeObject do
          let slots ← fields.storeText ((← get).rest.length + 1) true fields.empty
          match fields.finish slots with
          | .ok values => return build values
          | .error error => .fail error
    | _ => .mismatch (.record name)

/-! ## Tagged unions -/

/-- The variant that the tag names, and the other members. -/
def splitTag (tag : String) (variants : List (String × α)) :
    (members : List (String × Json)) → (found : Option α) → (others : List (String × Json)) →
    Except DecodeError (α × List (String × Json))
  | [], some found, others => .ok (found, others.reverse)
  | [], none, _ => .error (.missingField tag)
  | (key, value) :: rest, found, others =>
      if key = tag then
        match found, value with
        | some _, _ => .error (.duplicateField tag)
        | none, .string name => do
            splitTag tag variants rest (some (← variantOfName variants name)) others
        | none, other => .error (.invalidType other.found .variantName)
      else splitTag tag variants rest found ((key, value) :: others)

/-- Read the tag and the other members of an object up to its end; `fuel` exceeds
the number of characters left. -/
def splitTagText (tag : String) (variants : List (String × α)) :
    (fuel : Nat) → (first : Bool) → (found : Option α) → (others : List (String × Json)) →
    TextReader (α × List (String × Json))
  | 0, _, _, _ => .plain (Reader.failHere .nestingTooDeep)
  | fuel + 1, first, found, others => do
      if ← .plain (Reader.hasMember first) then
        let key ← .plain Reader.string
        if key = tag then
          if found.isSome then .fail (.duplicateField tag)
          .plain Reader.colon
          splitTagText tag variants fuel false (some (← .variant variants)) others
        else
          .plain Reader.colon
          let value ← .plain Reader.tree
          splitTagText tag variants fuel false found ((key, value) :: others)
      else
        match found with
        | some variant => return (variant, others.reverse)
        | none => .fail (.missingField tag)

/-- A union whose variants are records, told apart by the member `tag`.  The
other members are collected and decoded as the record of that variant. -/
def tagged (name tag : String) (variants : List (String × Decoder α)) : Decoder α where
  ofTree _ tree :=
    match tree with
    | .object members => do
        let (variant, others) ← splitTag tag variants members none []
        variant.ofTree .buffer (.object others)
    | .array [] => .error (.missingField tag)
    | .array (.string name :: others) => do
        (← variantOfName variants name).ofTree .buffer (.array others)
    | .array (other :: _) => .error (.invalidType other.found .variantName)
    | other => .error (.invalidType other.found (.taggedUnion name))
  ofText := do
    let (variant, content) ← .located do
      match ← Reader.peekPastBlanks? with
      | some '[' =>
          .enclosed Reader.closeArray do
            if ← .plain (Reader.hasItem true) then
              let variant ← .variant variants
              return (variant, Json.array (← .items (.plain Reader.tree) false))
            else .fail (.missingField tag)
      | some '\x7b' =>
          .enclosed Reader.closeObject do
            let (variant, others) ←
              splitTagText tag variants ((← get).rest.length + 1) true none []
            return (variant, Json.object others)
      | _ => .mismatch (.taggedUnion name)
    match variant.ofTree .buffer content with
    | .ok value => return value
    | .error error => .fail error

end Decoder

end WorkflowEditor
