import WorkflowEditor.Command.Run
import WorkflowEditor.CommandLine.Stop

/-!
# Invocations

An invocation is what a command line asks for: a command and how much to log.  The
words are read from left to right.  A switch that takes a value waits for the next
word, unless that word looks like a switch itself, and its value is judged when the
next switch is met or the line ends.  The number of times that logging is asked for
is counted for every topic on its own; the innermost topic with such a count
decides.
-/

namespace WorkflowEditor

/-- A command to run. -/
inductive Command where
  | editorLoad (command : EditorLoadCommand)
  | parameters (command : FileCommand)
  | validate (command : FileCommand)
  | config (format : ReportFormat)
  deriving DecidableEq, Repr

/-- What a command line asks for. -/
structure Invocation where
  verbosity : Nat
  command : Command
  deriving DecidableEq, Repr

namespace CommandLine

/-! ## Words -/

/-- The form of a word on the command line. -/
inductive Word where
  | separator
  | switch (name : String) (value? : Option String)
  | cluster (letters : List Char)
  | plain
  deriving DecidableEq, Repr

/-- The form of a word: two dashes start a switch, which may have a value behind an
equals sign, and one dash starts letters. -/
def Word.ofString (word : String) : Word :=
  match word.toList with
  | ['-', '-'] => .separator
  | '-' :: '-' :: chars =>
      let name := String.ofList (chars.takeWhile (· ≠ '='))
      match chars.dropWhile (· ≠ '=') with
      | [] => .switch name none
      | _ :: value => .switch name (some (String.ofList value))
  | '-' :: letter :: letters => .cluster (letter :: letters)
  | _ => .plain

/-! ## Progress within a topic -/

/-- What is known within a topic: how often logging was asked for, the switches given
so far, their values, and the switch whose value is still to be judged or, if there
is none yet, to be read. -/
structure Progress where
  verbosity : Nat := 0
  given : List Switch := []
  workflow? : Option String := none
  permanentId? : Option String := none
  format? : Option ReportFormat := none
  pending? : Option (Switch × Option String) := none
  deriving DecidableEq, Repr

/-- The form of a report by its name. -/
def reportFormat? (name : String) : Option ReportFormat :=
  match name with
  | "text" => some .text
  | "json" => some .json
  | _ => none

namespace Progress

/-- How often logging is asked for at most. -/
def maxVerbosity : Nat := 255

/-- Give a switch its value. -/
def setValue (progress : Progress) (switch : Switch) (value : String) :
    Except UsageFault Progress :=
  if switch ∈ progress.given then .error (.repeatedSwitch switch)
  else
    let progress := { progress with given := progress.given ++ [switch] }
    match switch with
    | .workflow =>
        if value.isEmpty then .error (.missingValue switch)
        else .ok { progress with workflow? := some value }
    | .permanentId => .ok { progress with permanentId? := some value }
    | .format =>
        if value.isEmpty then .error (.missingValue switch)
        else
          match reportFormat? value with
          | some format => .ok { progress with format? := some format }
          | none => .error (.invalidValue switch value)
    | .verbose | .help => .ok progress

/-- Judge the value of the switch that waits. -/
def settle (progress : Progress) : Except UsageFault Progress :=
  match progress.pending? with
  | none => .ok progress
  | some (switch, none) => .error (.missingValue switch)
  | some (switch, some value) => setValue { progress with pending? := none } switch value

/-- The switches given so far, also one whose value is still to be judged. -/
def allGiven (progress : Progress) : List Switch :=
  match progress.pending? with
  | some (switch, some _) => (progress.given ++ [switch]).eraseDups
  | some (_, none) | none => progress.given

/-- Ask for logging once more. -/
def countVerbose (progress : Progress) : Progress :=
  { progress with
    verbosity := min maxVerbosity (progress.verbosity + 1)
    given := progress.given.erase .verbose ++ [.verbose] }

/-- How much to log, given what the topics outside ask for. -/
def verbosityOver (progress : Progress) (outer : Nat) : Nat :=
  if progress.verbosity = 0 then outer else progress.verbosity

end Progress

/-! ## Reading -/

namespace Topic

/-- A fault in the call of a topic. -/
def stop (topic : Topic) (fault : UsageFault) : Stop := .fault (.of topic) fault

/-- Take a switch without a value. -/
def takeFlag (topic : Topic) (switch : Switch) (progress : Progress) :
    Except Stop Progress :=
  match progress.settle with
  | .error fault => .error (topic.stop fault)
  | .ok settled =>
      match switch with
      | .help => .error (.help (.of topic))
      | _ => .ok settled.countVerbose

/-- Take a switch with the value behind its equals sign, or let it wait for one. -/
def takeValue (topic : Topic) (switch : Switch) (value? : Option String)
    (progress : Progress) : Except Stop Progress :=
  match progress.settle with
  | .error fault => .error (topic.stop fault)
  | .ok settled =>
      match value? with
      | some value => (settled.setValue switch value).mapError topic.stop
      | none => .ok { settled with pending? := some (switch, none) }

/-- Take letters one by one. -/
def takeLetters (topic : Topic) : List Char → Progress → Except Stop Progress
  | [], progress => .ok progress
  | letter :: letters, progress =>
      match topic.letter? letter with
      | none => .error (topic.stop (.unknownLetter letter))
      | some switch => (topic.takeFlag switch progress).bind (topic.takeLetters letters)

/-- The known switch that an unknown one may stand for. -/
def switchHint? (topic : Topic) (name : String) (rest : List String) : Option SwitchHint :=
  let similar? (topic : Topic) : Option Switch :=
    (Text.mostSimilar? name (topic.switches.map Switch.name)).bind topic.switch?
  match similar? topic with
  | some switch => some (.here switch)
  | none =>
      rest.findSome? fun word =>
        (topic.child? word).bind fun child => (similar? child).map (.below word)

/-- Take a switch that was given by its name. -/
def takeSwitch (topic : Topic) (name : String) (value? : Option String)
    (rest : List String) (progress : Progress) : Except Stop Progress :=
  match topic.switch? name with
  | none =>
      .error (topic.stop (.unknownSwitch name (topic.switchHint? name rest) progress.allGiven))
  | some switch =>
      if switch.takesValue then topic.takeValue switch value? progress
      else
        match value? with
        | some value => .error (topic.stop (.unexpectedValue switch value progress.given))
        | none => topic.takeFlag switch progress

/-- A word for which the topic has no use. -/
def unknownWord (topic : Topic) (word : String) : Stop :=
  topic.stop <|
    if topic.children.isEmpty then .strayWord word
    else .unknownWord word (Text.similarWords word topic.words)

/-- Take a word that is no switch: the value of the switch that waits for one. -/
def takeWord (topic : Topic) (word : String) (progress : Progress) : Except Stop Progress :=
  match progress.pending? with
  | some (switch, none) => .ok { progress with pending? := some (switch, some word) }
  | some (_, some _) | none => .error (topic.unknownWord word)

/-- The invocation at the end of the line. -/
def finish (topic : Topic) (outer : Nat) (progress : Progress) : Except Stop Invocation :=
  match progress.settle with
  | .error fault => .error (topic.stop fault)
  | .ok settled =>
      let verbosity := settled.verbosityOver outer
      let format := settled.format?.getD .text
      match topic, settled.workflow? with
      | .program, _ | .editor, _ =>
          .error (if settled.given.isEmpty then .bare topic else topic.stop .missingWord)
      | .editorLoad, some file =>
          .ok ⟨verbosity, .editorLoad ⟨file, settled.permanentId?, format⟩⟩
      | .parameters, some file => .ok ⟨verbosity, .parameters ⟨file, format⟩⟩
      | .validate, some file => .ok ⟨verbosity, .validate ⟨file, format⟩⟩
      | .config, _ => .ok ⟨verbosity, .config format⟩
      | .editorLoad, none | .parameters, none | .validate, none =>
          .error (topic.stop (.missingSwitches settled.given))

/-- The first word behind the separator stops the line, as no topic takes plain
words. -/
def finishBehindSeparator (topic : Topic) (outer : Nat) (progress : Progress) :
    List String → Except Stop Invocation
  | [] => topic.finish outer progress
  | word :: _ =>
      .error <|
        if word ∈ topic.words then topic.stop (.topicBehindSeparator word)
        else topic.unknownWord word

/-- The help that words ask for. -/
def helpOn (subject : HelpTopic) : List String → Stop
  | [] => .help subject
  | word :: rest =>
      match subject.child? word with
      | some child => helpOn child rest
      | none => .fault subject (.unknownWord word [])

/-- Read the words that follow a topic. -/
def read (topic : Topic) (outer : Nat) (progress : Progress) :
    List String → Except Stop Invocation
  | [] => topic.finish outer progress
  | word :: rest =>
      match topic.child? word with
      | some child => child.read (progress.verbosityOver outer) {} rest
      | none =>
          if word ∈ topic.words then .error (helpOn (.of topic) rest)
          else
            match Word.ofString word with
            | .separator => topic.finishBehindSeparator outer progress rest
            | .switch name value? =>
                match topic.takeSwitch name value? rest progress with
                | .error stop => .error stop
                | .ok next => topic.read outer next rest
            | .cluster letters =>
                match topic.takeLetters letters progress with
                | .error stop => .error stop
                | .ok next => topic.read outer next rest
            | .plain =>
                match topic.takeWord word progress with
                | .error stop => .error stop
                | .ok next => topic.read outer next rest

end Topic

end CommandLine

/-- The invocation that a command line asks for. -/
def Invocation.parse (arguments : List String) : Except CommandLine.Stop Invocation :=
  CommandLine.Topic.program.read 0 {} arguments

end WorkflowEditor
