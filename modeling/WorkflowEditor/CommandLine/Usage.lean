import WorkflowEditor.CommandLine.Grammar

/-!
# Usage and help

A usage line sums up how a topic is called.  The line in a help text is general;
the line in a message about a faulty call shows the switches that were given.
Help lists the topics below a topic and its switches in two columns; where the
names take much of the page and a text does not fit beside them, every text goes
under its name.
-/

namespace WorkflowEditor.CommandLine

/-! ## Usage lines -/

namespace Topic

/-- The word that stands for the topics below a topic. -/
def commandMark (topic : Topic) : List String :=
  if topic.children.isEmpty then [] else ["<COMMAND>"]

/-- The general call. -/
def usage (topic : Topic) : String :=
  " ".intercalate <|
    [topic.title, "[OPTIONS]"] ++ topic.required.map Switch.usage ++ topic.commandMark

/-- The call with the switches given so far and some more.  A topic's own switches
show as one choice between all of them as soon as one is given. -/
def usageWith (topic : Topic) (given more : List Switch) : String :=
  if given.isEmpty && more.isEmpty then topic.usage
  else
    let own := topic.ownSwitches
    let choice := given.any own.contains
    let shown := (topic.required ++ given ++ more).eraseDups.filter fun switch =>
      !(choice && own.contains switch)
    " ".intercalate <|
      [topic.title] ++ shown.map Switch.usage ++
        (if choice then ["<" ++ "|".intercalate (own.map Switch.usage) ++ ">"] else []) ++
        topic.commandMark

/-- The call with the switches given so far and those still missing. -/
def usageCompleted (topic : Topic) (given : List Switch) : String :=
  " ".intercalate <|
    [topic.title] ++ (topic.required ++ given).eraseDups.map Switch.usage ++ topic.commandMark

end Topic

/-- The general call of what help is about. -/
def HelpTopic.usage (subject : HelpTopic) : String :=
  match subject with
  | .of topic => topic.usage
  | .help _ => subject.title ++ " [COMMAND]..."

/-! ## Help -/

/-- An entry of a list in a help text. -/
structure HelpEntry where
  label : String
  text : String
  deriving DecidableEq, Repr

namespace HelpEntry

/-- The width of a page. -/
def pageWidth : Nat := 100

/-- The width of the longest label. -/
def labelWidth (entries : List HelpEntry) : Nat :=
  (entries.map (·.label.length)).foldl max 0

/-- What the labels take of a page, the blanks around them included. -/
def takenWidth (entries : List HelpEntry) : Nat := labelWidth entries + 8

/-- Whether the labels take more than two fifths of the page and a text does not
fit into the rest. -/
def areCrowded (entries : List HelpEntry) : Bool :=
  pageWidth * 2 < takenWidth entries * 5 &&
    entries.any fun entry => pageWidth - takenWidth entries < entry.text.length

/-- The text beside the label. -/
def beside (width : Nat) (entry : HelpEntry) : String :=
  let gap := List.replicate (width - entry.label.length) ' '
  "  " ++ entry.label ++ String.ofList gap ++ "  " ++ entry.text

/-- The text under the label. -/
def under (entry : HelpEntry) : String :=
  "  " ++ entry.label ++ "\n          " ++ entry.text

/-- The lines of a list. -/
def lines (entries : List HelpEntry) : List String :=
  if areCrowded entries then entries.map under
  else entries.map (beside (labelWidth entries))

/-- A list under its heading; an empty list has none. -/
def paragraph (heading : String) (entries : List HelpEntry) : List String :=
  if entries.isEmpty then [] else ["\n".intercalate (heading :: lines entries)]

end HelpEntry

/-- The entry of a switch; a switch without a letter is indented. -/
def Switch.entry (switch : Switch) : HelpEntry where
  label := switch.letter?.elim "    " (fun letter => String.ofList ['-', letter, ',', ' ']) ++
    switch.usage
  text := switch.about

namespace HelpTopic

/-- What a topic is for, as far as it says. -/
def about : HelpTopic → List String
  | .of .program => [programAbout]
  | .of _ => []
  | .help _ => ["Print this message or the help of the given subcommand(s)"]

/-- The entry of a word that may follow a topic. -/
def wordEntry (topic : Topic) (word : String) : HelpEntry where
  label := word
  text := "\n".intercalate (((HelpTopic.of topic).child? word).elim [] about)

/-- The lists of a help text. -/
def lists : HelpTopic → List String
  | .of topic =>
      HelpEntry.paragraph "Commands:" (topic.words.map (wordEntry topic)) ++
        HelpEntry.paragraph "Options:" (topic.listedSwitches.map Switch.entry)
  | .help _ =>
      HelpEntry.paragraph "Arguments:" [⟨"[COMMAND]...", "Print help for the subcommand(s)"⟩]

/-- The paragraphs of a help text. -/
def paragraphs (subject : HelpTopic) : List String :=
  subject.about ++ ["Usage: " ++ subject.usage] ++ subject.lists

/-- The help text. -/
def text (subject : HelpTopic) : String :=
  "\n\n".intercalate subject.paragraphs ++ "\n"

/-- Whether the switch for help may follow. -/
def offersHelp : HelpTopic → Bool
  | .of _ => true
  | .help _ => false

end HelpTopic

end WorkflowEditor.CommandLine
