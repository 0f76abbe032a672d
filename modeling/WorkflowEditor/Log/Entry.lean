/-!
# Log entries

What a run tells about itself beside its output: an entry has a level, the target
that it comes from with a line of its source, and a message.  The time that precedes
an entry in the log is left out.
-/

namespace WorkflowEditor

/-- How much an entry matters. -/
inductive LogLevel where
  | error
  | warn
  | info
  | debug
  | trace
  deriving DecidableEq, Repr, Inhabited

namespace LogLevel

/-- The place of a level, the weightiest first. -/
def rank : LogLevel → Nat
  | .error => 1
  | .warn => 2
  | .info => 3
  | .debug => 4
  | .trace => 5

/-- The name of a level in a line of the log. -/
def name : LogLevel → String
  | .error => "ERROR"
  | .warn => "WARN"
  | .info => "INFO"
  | .debug => "DEBUG"
  | .trace => "TRACE"

end LogLevel

/-- An entry of the log. -/
structure LogEntry where
  level : LogLevel
  target : String
  sourceLine : Nat
  message : String
  deriving DecidableEq, Repr

namespace LogEntry

/-- The spelling of a character in a line of the log: what a terminal might obey is
written by its number. -/
def shownChar (char : Char) : List Char :=
  let code := char.toNat
  if code = 0x1B || code = 0x07 || code = 0x08 || code = 0x0C || code = 0x7F then
    let digits := Nat.toDigits 16 code
    ['\\', 'x'] ++ List.replicate (2 - digits.length) '0' ++ digits
  else if 0x80 ≤ code && code ≤ 0x9F then
    ['\\', 'u', '\x7b'] ++ Nat.toDigits 16 code ++ ['\x7d']
  else [char]

/-- The line of an entry, with or without its target and its line in the source. -/
def line (withTarget withSourceLine : Bool) (entry : LogEntry) : String :=
  entry.level.name ++ " " ++ (if withTarget then entry.target ++ ": " else "") ++
    (if withSourceLine then toString entry.sourceLine ++ ": " else "") ++
    String.ofList (entry.message.toList.flatMap shownChar) ++ "\n"

end LogEntry

end WorkflowEditor
