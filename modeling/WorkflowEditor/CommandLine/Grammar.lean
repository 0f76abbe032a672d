/-!
# The grammar of the command line

A command line names a topic word by word, from the program down to a command,
and gives switches on the way.  A topic with further topics below it needs one of
them; a topic without is a command, which takes its own switches beside the common
ones.
-/

namespace WorkflowEditor.CommandLine

/-- The name of the program. -/
def programName : String := "flowdeck"

/-- What the program is for. -/
def programAbout : String :=
  "Workflow editor tooling: load, normalize and validate workflow definitions"

/-! ## Switches -/

/-- A switch of the command line. -/
inductive Switch where
  | verbose
  | help
  | workflow
  | permanentId
  | format
  deriving DecidableEq, Repr

namespace Switch

/-- The name behind two dashes. -/
def name : Switch → String
  | .verbose => "verbose"
  | .help => "help"
  | .workflow => "workflow"
  | .permanentId => "workflow-permanent-id"
  | .format => "format"

/-- The letter behind one dash. -/
def letter? : Switch → Option Char
  | .verbose => some 'v'
  | .help => some 'h'
  | .workflow | .permanentId | .format => none

/-- What stands for the value in a description, if the switch takes one. -/
def valueName? : Switch → Option String
  | .verbose | .help => none
  | .workflow => some "WORKFLOW"
  | .permanentId => some "WORKFLOW_PERMANENT_ID"
  | .format => some "FORMAT"

/-- Whether the switch takes a value. -/
def takesValue (switch : Switch) : Bool := switch.valueName?.isSome

/-- The values to choose from, if not any text will do. -/
def choices : Switch → List String
  | .format => ["text", "json"]
  | .verbose | .help | .workflow | .permanentId => []

/-- The switch as a description shows it. -/
def usage (switch : Switch) : String :=
  "--" ++ switch.name ++
    match switch with
    | .verbose => "..."
    | _ => switch.valueName?.elim "" fun value => " <" ++ value ++ ">"

/-- What the switch is for. -/
def about : Switch → String
  | .verbose => "Increase log verbosity (-v info, -vv debug, -vvv trace)"
  | .help => "Print help"
  | .workflow | .permanentId => ""
  | .format => "[default: text] [possible values: text, json]"

end Switch

/-! ## Topics -/

/-- A place in the tree of commands. -/
inductive Topic where
  | program
  | editor
  | editorLoad
  | parameters
  | validate
  | config
  deriving DecidableEq, Repr

namespace Topic

/-- The words that lead to a topic. -/
def title : Topic → String
  | .program => programName
  | .editor => programName ++ " editor"
  | .editorLoad => programName ++ " editor load"
  | .parameters => programName ++ " parameters"
  | .validate => programName ++ " validate"
  | .config => programName ++ " config"

/-- The topics below a topic, by their words. -/
def children : Topic → List (String × Topic)
  | .program =>
      [("editor", .editor), ("parameters", .parameters), ("validate", .validate),
        ("config", .config)]
  | .editor => [("load", .editorLoad)]
  | .editorLoad | .parameters | .validate | .config => []

/-- The word that asks for help where there are topics to ask about. -/
def helpWord : String := "help"

/-- The words that may follow a topic. -/
def words (topic : Topic) : List String :=
  match topic.children with
  | [] => []
  | children => children.map (·.1) ++ [helpWord]

/-- The topic that a word leads to. -/
def child? (topic : Topic) (word : String) : Option Topic :=
  topic.children.lookup word

/-- The switches that a topic itself introduces. -/
def ownSwitches : Topic → List Switch
  | .program => [.verbose]
  | .editor => []
  | .editorLoad => [.workflow, .permanentId, .format]
  | .parameters | .validate => [.workflow, .format]
  | .config => [.format]

/-- The switches that may follow a topic: its own, the one common to all topics,
and the one for help. -/
def switches (topic : Topic) : List Switch :=
  (topic.ownSwitches ++ [Switch.verbose, Switch.help]).eraseDups

/-- The switches in the order of a description. -/
def listedSwitches : Topic → List Switch
  | .program | .editor => [.verbose, .help]
  | .editorLoad => [.verbose, .workflow, .permanentId, .format, .help]
  | .parameters | .validate => [.verbose, .workflow, .format, .help]
  | .config => [.format, .verbose, .help]

/-- The switches that a topic cannot do without. -/
def required : Topic → List Switch
  | .program | .editor | .config => []
  | .editorLoad | .parameters | .validate => [.workflow]

/-- The switch with a name. -/
def switch? (topic : Topic) (name : String) : Option Switch :=
  topic.switches.find? fun switch => switch.name == name

/-- The switch with a letter. -/
def letter? (topic : Topic) (letter : Char) : Option Switch :=
  topic.switches.find? fun switch => switch.letter? == some letter

end Topic

/-- What help can be about: a topic, or the word for help below a topic. -/
inductive HelpTopic where
  | of (topic : Topic)
  | help (parent : Topic)
  deriving DecidableEq, Repr

namespace HelpTopic

/-- The words that lead to what help is about. -/
def title : HelpTopic → String
  | .of topic => topic.title
  | .help parent => parent.title ++ " " ++ Topic.helpWord

/-- The words that may follow. -/
def words : HelpTopic → List String
  | .of topic => topic.words
  | .help _ => []

/-- The switches that must follow. -/
def required : HelpTopic → List Switch
  | .of topic => topic.required
  | .help _ => []

/-- What a word leads to. -/
def child? (about : HelpTopic) (word : String) : Option HelpTopic :=
  match about with
  | .help _ => none
  | .of topic =>
      match topic.child? word with
      | some child => some (.of child)
      | none => if word ∈ topic.words then some (.help topic) else none

end HelpTopic

end WorkflowEditor.CommandLine
