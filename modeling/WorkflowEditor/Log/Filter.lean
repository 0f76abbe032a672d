import WorkflowEditor.Log.Entry
import WorkflowEditor.Text.Blank

/-!
# Log filters

A filter is a list of directives.  A directive lets entries up to a level pass, if
their target starts with the directive's own.  Of the directives that an entry
meets the most specific one decides, and of equally specific ones the last; an
entry that meets none does not pass.
-/

namespace WorkflowEditor

/-- What a directive asks of an entry beside its target: nothing, a field of a name,
or a surrounding that no entry has. -/
inductive LogCondition where
  | always
  | field (name : String)
  | never
  deriving DecidableEq, Repr

/-- How many levels pass, beginning with the weightiest. -/
structure LogThreshold where
  rank : Nat
  deriving DecidableEq, Repr

/-- The entries up to a level. -/
def LogLevel.threshold (level : LogLevel) : LogThreshold := ⟨level.rank⟩

/-- A part of a filter. -/
structure LogDirective where
  target? : Option String
  condition : LogCondition
  threshold : LogThreshold
  deriving DecidableEq, Repr

namespace LogThreshold

/-- The thresholds by their names. -/
def named : List (String × LogThreshold) :=
  [("off", ⟨0⟩), ("error", LogLevel.error.threshold), ("warn", LogLevel.warn.threshold),
    ("info", LogLevel.info.threshold), ("debug", LogLevel.debug.threshold),
    ("trace", LogLevel.trace.threshold)]

/-- The threshold that digits write. -/
def ofDigits? (digits : List Char) : Option LogThreshold :=
  if digits.isEmpty || !digits.all Char.isDigit then none
  else
    let rank := Nat.ofDigitChars 10 digits 0
    if rank ≤ LogLevel.trace.rank then some ⟨rank⟩ else none

/-- The threshold that a text writes, as a name in any case or as a number. -/
def ofText? (text : String) : Option LogThreshold :=
  let number? :=
    match text.toList with
    | '+' :: digits => ofDigits? digits
    | digits => ofDigits? digits
  number?.or (named.lookup text.toLower)

/-- The threshold behind an equals sign; every level passes if nothing is there. -/
def ofSuffix? (text : List Char) : Option LogThreshold :=
  if text.isEmpty then some LogLevel.trace.threshold else ofText? (String.ofList text)

end LogThreshold

namespace LogDirective

/-! ## Reading -/

/-- Whether a directive may start with a character: letters, digits and a few signs,
besides everything beyond ASCII. -/
def mayStart (char : Char) : Bool :=
  char = '[' || char = '-' || char = ':' || char = '_' || char.isAlphanum ||
    128 ≤ char.toNat

/-- The directive of a single word: a threshold for everything, or else a target. -/
def ofWord (word : String) : LogDirective :=
  match LogThreshold.ofText? word with
  | some threshold => ⟨none, .always, threshold⟩
  | none => ⟨some word, .always, LogLevel.trace.threshold⟩

/-- What stands between braces: the name of a field, perhaps with a value. -/
def fieldCondition (field : List Char) : LogCondition :=
  if field.contains '=' then .never else .field (String.ofList field)

/-- The threshold behind brackets. -/
def afterBrackets? (rest : List Char) : Option LogThreshold :=
  match rest with
  | '=' :: level => LogThreshold.ofSuffix? level
  | _ => if rest.all Text.isWhitespace then some LogLevel.trace.threshold else none

/-- The condition in brackets, and the threshold behind them. -/
def ofBrackets? (inside : List Char) : Option (LogCondition × LogThreshold) :=
  let surrounding := inside.takeWhile fun char => char ≠ ']' && char ≠ '\x7b'
  match inside.drop surrounding.length with
  | ']' :: rest => (afterBrackets? rest).map (.never, ·)
  | '\x7b' :: rest =>
      let field := rest.takeWhile (· ≠ '\x7d')
      match rest.drop field.length with
      | '\x7d' :: ']' :: rest =>
          if field.isEmpty then none
          else
            (afterBrackets? rest).map
              (if surrounding.isEmpty then fieldCondition field else .never, ·)
      | _ => none
  | _ => none

/-- The directive that a text writes.  White space belongs to the text: a word with
some is a target, and a level with some is none. -/
def ofText? (text : String) : Option LogDirective :=
  let chars := text.toList
  match Text.trimStart chars with
  | [] => none
  | first :: _ =>
      if !mayStart first then none
      else
        let word := chars.takeWhile fun char => char ≠ '=' && char ≠ '['
        match chars.drop word.length with
        | [] => some (ofWord text)
        | separator :: rest =>
            if word.head?.any Text.isWhitespace then none
            else if separator = '=' then
              (LogThreshold.ofSuffix? rest).map fun threshold =>
                ⟨some (String.ofList word), .always, threshold⟩
            else
              (ofBrackets? rest).map fun (condition, threshold) =>
                ⟨if word.isEmpty then none else some (String.ofList word), condition, threshold⟩

/-! ## Meeting -/

/-- The name of the only field of an entry. -/
def messageField : String := "message"

/-- Whether an entry meets a directive. -/
def isMetBy (directive : LogDirective) (entry : LogEntry) : Bool :=
  directive.target?.all (fun target => target.isPrefixOf entry.target) &&
    match directive.condition with
    | .always => true
    | .field name => name == messageField
    | .never => false

/-- How specific a directive is, for entries that meet it: by the length of the
target, then by whether it asks for a field. -/
def specificity (directive : LogDirective) : Nat :=
  2 * directive.target?.elim 0 (fun target => target.length + 1) +
    if directive.condition = .always then 0 else 1

end LogDirective

/-- A list of directives. -/
structure LogFilter where
  directives : List LogDirective
  deriving DecidableEq, Repr

namespace LogFilter

/-- The filter that lets entries up to a level pass. -/
def upTo (level : LogLevel) : LogFilter :=
  ⟨[⟨none, .always, level.threshold⟩]⟩

/-- The filter that a text writes, as directives between commas; without directives
only errors pass. -/
def ofText? (text : String) : Option LogFilter :=
  let written := (text.splitOn ",").filter fun part => !part.isEmpty
  if written.isEmpty then some (upTo .error)
  else (written.mapM LogDirective.ofText?).map (⟨·⟩)

/-- The filter for the number of times that logging was asked for. -/
def ofVerbosity : Nat → LogFilter
  | 0 => upTo .warn
  | 1 => upTo .info
  | 2 => upTo .debug
  | _ => upTo .trace

/-- The directive that decides on an entry. -/
def deciding? (filter : LogFilter) (entry : LogEntry) : Option LogDirective :=
  (filter.directives.filter fun directive => directive.isMetBy entry).foldl
    (fun best? directive =>
      match best? with
      | none => some directive
      | some best => if best.specificity ≤ directive.specificity then directive else best)
    none

/-- Whether an entry passes. -/
def passes (filter : LogFilter) (entry : LogEntry) : Bool :=
  (filter.deciding? entry).any fun directive =>
    decide (entry.level.rank ≤ directive.threshold.rank)

/-- The filter up to a level lets pass what is no less weighty. -/
@[simp] theorem passes_upTo (level : LogLevel) (entry : LogEntry) :
    (upTo level).passes entry = decide (entry.level.rank ≤ level.rank) := by
  simp [passes, deciding?, upTo, LogDirective.isMetBy, LogLevel.threshold]

end LogFilter

end WorkflowEditor
