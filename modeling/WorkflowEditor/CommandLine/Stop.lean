import WorkflowEditor.CommandLine.Usage
import WorkflowEditor.Text.Similarity

/-!
# Where a command line stops

A command line that names no command to run stops, with a help text or with a
message about a fault.  Help that was asked for is what the program is to show;
everything else is a failed call.
-/

namespace WorkflowEditor.CommandLine

/-- The known switch that an unknown one may stand for: one of the topic, or one
of a topic that is named later on the command line. -/
inductive SwitchHint where
  | here (switch : Switch)
  | below (word : String) (switch : Switch)
  deriving DecidableEq, Repr

/-- What is wrong with a call; `given` are the switches that were given before. -/
inductive UsageFault where
  | unknownWord (word : String) (similar : List String)
  | strayWord (word : String)
  | topicBehindSeparator (word : String)
  | unknownLetter (letter : Char)
  | unknownSwitch (name : String) (hint? : Option SwitchHint) (given : List Switch)
  | unexpectedValue (switch : Switch) (value : String) (given : List Switch)
  | repeatedSwitch (switch : Switch)
  | missingValue (switch : Switch)
  | invalidValue (switch : Switch) (value : String)
  | missingWord
  | missingSwitches (given : List Switch)
  deriving DecidableEq, Repr

namespace UsageFault

/-- The values to choose from, under the message about a value. -/
def choiceLines (switch : Switch) : String :=
  if switch.choices.isEmpty then ""
  else "\n  [possible values: " ++ ", ".intercalate switch.choices ++ "]"

/-- The message about a fault in the call of a topic. -/
def message (topic : HelpTopic) : UsageFault → String
  | .unknownWord word _ => "unrecognized subcommand '" ++ word ++ "'"
  | .strayWord word | .topicBehindSeparator word =>
      "unexpected argument '" ++ word ++ "' found"
  | .unknownLetter letter => "unexpected argument '-" ++ letter.toString ++ "' found"
  | .unknownSwitch name _ _ => "unexpected argument '--" ++ name ++ "' found"
  | .unexpectedValue switch value _ =>
      "unexpected value '" ++ value ++ "' for '" ++ switch.usage ++
        "' found; no more were expected"
  | .repeatedSwitch switch =>
      "the argument '" ++ switch.usage ++ "' cannot be used multiple times"
  | .missingValue switch =>
      "a value is required for '" ++ switch.usage ++ "' but none was supplied" ++
        choiceLines switch
  | .invalidValue switch value =>
      "invalid value '" ++ value ++ "' for '" ++ switch.usage ++ "'" ++ choiceLines switch
  | .missingWord =>
      "'" ++ topic.title ++ "' requires a subcommand but one was not provided" ++
        "\n  [subcommands: " ++ ", ".intercalate topic.words ++ "]"
  | .missingSwitches _ =>
      "the following required arguments were not provided:" ++
        String.join (topic.required.map fun switch => "\n  " ++ switch.usage)

/-- A tip on words that resemble a wrong one. -/
def similarTip (kind : String) : List String → List String
  | [] => []
  | [one] => ["a similar " ++ kind ++ " exists: '" ++ one ++ "'"]
  | many =>
      ["some similar " ++ kind ++ "s exist: " ++
        ", ".intercalate (many.map fun one => "'" ++ one ++ "'")]

/-- What may have been meant. -/
def tips : UsageFault → List String
  | .unknownWord _ similar => similarTip "subcommand" similar
  | .topicBehindSeparator word =>
      ["subcommand '" ++ word ++ "' exists; to use it, remove the '--' before it"]
  | .unknownSwitch _ (some (.here switch)) _ => similarTip "argument" ["--" ++ switch.name]
  | .unknownSwitch _ (some (.below word switch)) _ =>
      ["'" ++ word ++ " --" ++ switch.name ++ "' exists"]
  | .invalidValue switch value =>
      similarTip "value" (Text.mostSimilar? value switch.choices).toList
  | _ => []

/-- The usage line under the message; a message about a value has none. -/
def usage? (topic : HelpTopic) (fault : UsageFault) : Option String :=
  match topic, fault with
  | _, .missingValue _ | _, .invalidValue _ _ => none
  | .of topic, .unknownSwitch _ (some (.here switch)) given =>
      some (topic.usageWith (given ++ [switch]) [])
  | .of topic, .unknownSwitch _ _ given => some (topic.usageWith given [])
  | .of topic, .unexpectedValue switch _ given => some (topic.usageWith given [switch])
  | .of topic, .missingSwitches given => some (topic.usageCompleted given)
  | topic, _ => some topic.usage

/-- The whole text about a fault. -/
def text (topic : HelpTopic) (fault : UsageFault) : String :=
  let tips := fault.tips
  "error: " ++ fault.message topic ++
    (if tips.isEmpty then "" else "\n") ++
    String.join (tips.map fun tip => "\n  tip: " ++ tip) ++
    (fault.usage? topic).elim "" (fun usage => "\n\nUsage: " ++ usage) ++
    (if topic.offersHelp then "\n\nFor more information, try '--help'.\n" else "\n")

end UsageFault

/-- Why a command line names no command to run. -/
inductive Stop where
  | help (subject : HelpTopic)
  | bare (topic : Topic)
  | fault (topic : HelpTopic) (fault : UsageFault)
  deriving DecidableEq, Repr

namespace Stop

/-- The text to show. -/
def text : Stop → String
  | .help subject => subject.text
  | .bare topic => (HelpTopic.of topic).text
  | .fault topic what => what.text topic

/-- Whether the text is what was asked for. -/
def isAnswer : Stop → Bool
  | .help _ => true
  | .bare _ | .fault _ _ => false

end Stop

end WorkflowEditor.CommandLine
