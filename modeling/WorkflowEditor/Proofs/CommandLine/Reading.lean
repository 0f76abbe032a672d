import Mathlib.Data.List.Basic
import Mathlib.Logic.Function.Iterate
import WorkflowEditor.CommandLine.Invocation

/-!
# What a word of a command line does

A line that names a command is read word by word without a fault.  This module says once
what a word can do on the way: it leads to a further topic, ends the line, or takes the
state within a topic to the next (`Topic.Takes`).  `Topic.read_cons_eq_ok_iff` is the step
from which everything about such lines follows by induction on the words.
-/

namespace WorkflowEditor.CommandLine

/-! ## Words that ask for logging -/

/-- How often a word asks for logging: by its name once, and by letters behind a dash as
often as there are letters, if they are nothing but `v`. -/
def verboseCount (word : String) : Nat :=
  if word = "--verbose" then 1
  else
    match word.toList with
    | '-' :: letters => if letters.all (· == 'v') then letters.length else 0
    | _ => 0

/-- The letters, at least one, are those of the switch for logging. -/
def IsVerboseCluster (letters : List Char) : Prop :=
  letters ≠ [] ∧ ∀ letter ∈ letters, letter = 'v'

theorem isVerboseCluster_cons_iff {letter : Char} {letters : List Char} :
    IsVerboseCluster (letter :: letters) ↔ letter = 'v' ∧ ∀ other ∈ letters, other = 'v' := by
  rw [IsVerboseCluster, List.forall_mem_cons]
  exact and_iff_right (List.cons_ne_nil _ _)

/-! ## Forms of words -/

namespace Word

theorem head?_of_ne_plain {word : String} (form : ofString word ≠ .plain) :
    word.toList.head? = some '-' := by
  unfold ofString at form
  split at form
  next dashes => rw [dashes, List.head?_cons]
  next dashes => rw [dashes, List.head?_cons]
  next dash => rw [dash, List.head?_cons]
  next => exact absurd rfl form

theorem toList_of_cluster {word : String} {letters : List Char}
    (form : ofString word = .cluster letters) : word.toList = '-' :: letters ∧ letters ≠ [] := by
  unfold ofString at form
  split at form
  next => contradiction
  next => split at form <;> contradiction
  next letter others _ spelled =>
      cases form
      exact ⟨spelled, List.cons_ne_nil _ _⟩
  next => contradiction

/-- A word that gives a switch without a value is two dashes and the name. -/
theorem eq_of_switch {word name : String} (form : ofString word = .switch name none) :
    word = "--" ++ name := by
  unfold ofString at form
  split at form
  next => contradiction
  next chars _ spelled =>
      split at form
      next noValue =>
          cases form
          have whole : chars.takeWhile (fun char => char ≠ '=') = chars := by
            have parts := List.takeWhile_append_dropWhile (p := (· ≠ '=')) (l := chars)
            rw [noValue, List.append_nil] at parts
            exact parts
          apply String.toList_inj.mp
          rw [whole, spelled, String.toList_append, String.toList_ofList (l := chars)]
          rfl
      next => cases form
  next => contradiction
  next => contradiction

theorem eq_of_separator {word : String} (form : ofString word = .separator) : word = "--" := by
  unfold ofString at form
  split at form
  next spelled => exact String.toList_inj.mp spelled
  next => split at form <;> contradiction
  next => contradiction
  next => contradiction

end Word

theorem verboseCount_of_cluster {word : String} {letters : List Char}
    (form : Word.ofString word = .cluster letters) (verbose : IsVerboseCluster letters) :
    verboseCount word = letters.length := by
  obtain ⟨spelled, -⟩ := Word.toList_of_cluster form
  have unnamed : word ≠ "--verbose" := by
    rintro rfl
    contradiction
  have allVerbose : letters.all (· == 'v') = true := by
    rw [List.all_eq_true]
    intro letter member
    rw [verbose.2 letter member]
    rfl
  rw [verboseCount, if_neg unnamed, spelled]
  exact if_pos allVerbose

/-- A word that asks for logging gives the switch by its name or repeats its letter. -/
theorem form_of_verboseCount_ne_zero {word : String} (asks : verboseCount word ≠ 0) :
    Word.ofString word = .switch "verbose" none ∨
      ∃ letters, Word.ofString word = .cluster letters ∧ IsVerboseCluster letters := by
  rw [verboseCount] at asks
  split at asks
  next named =>
      subst named
      exact Or.inl (by decide)
  next =>
      right
      split at asks
      next letters spelled =>
          rw [ite_ne_right_iff, List.all_eq_true] at asks
          obtain ⟨allVerbose, notEmpty⟩ := asks
          cases letters with
          | nil => exact absurd rfl notEmpty
          | cons letter others =>
              have isVerbose : letter = 'v' := by
                simpa using allVerbose letter List.mem_cons_self
              refine ⟨letter :: others, ?_, List.cons_ne_nil _ _, ?_⟩
              · subst isVerbose
                rw [Word.ofString, spelled]
                rfl
              · intro other member
                simpa using allVerbose other member
      next => contradiction

/-- No other form of a word asks for logging. -/
theorem verboseCount_of_form {word : String} {form : Word} (hasForm : Word.ofString word = form)
    (unnamed : form ≠ .switch "verbose" none) (noCluster : ∀ letters, form ≠ .cluster letters) :
    verboseCount word = 0 := by
  by_contra asks
  rcases form_of_verboseCount_ne_zero asks with named | ⟨letters, cluster, -⟩
  · exact unnamed (hasForm.symm.trans named)
  · exact noCluster letters (hasForm.symm.trans cluster)

/-! ## Words of topics -/

namespace Topic

variable {topic : Topic} {word : String}

theorem mem_children_of_child? {child : Topic} (leads : topic.child? word = some child) :
    (word, child) ∈ topic.children := by
  rw [child?, List.lookup_eq_some_iff] at leads
  obtain ⟨before, after, split, -⟩ := leads
  rw [split]
  exact List.mem_append_right before List.mem_cons_self

theorem children_ne_nil_of_child? {child : Topic} (leads : topic.child? word = some child) :
    topic.children ≠ [] := List.ne_nil_of_mem (mem_children_of_child? leads)

theorem mem_words_of_child? {child : Topic} (leads : topic.child? word = some child) :
    word ∈ topic.words := by
  have member := List.mem_map_of_mem (f := Prod.fst) (mem_children_of_child? leads)
  rw [words]
  split
  next childless => exact absurd childless (children_ne_nil_of_child? leads)
  next => exact List.mem_append_left _ member

/-- No word of a topic looks like a switch. -/
theorem head?_of_mem_words (follows : word ∈ topic.words) : word.toList.head? ≠ some '-' := by
  have plain : ∀ follower ∈ topic.words, follower.toList.head? ≠ some '-' := by
    cases topic <;> decide
  exact plain word follows

theorem not_mem_words_of_ne_plain (form : Word.ofString word ≠ .plain) : word ∉ topic.words :=
  fun follows => head?_of_mem_words follows (Word.head?_of_ne_plain form)

theorem child?_of_not_mem_words (fresh : word ∉ topic.words) : topic.child? word = none := by
  cases leads : topic.child? word with
  | none => rfl
  | some child => exact absurd (mem_words_of_child? leads) fresh

/-! ## Switches of topics -/

@[simp] theorem letter?_verbose (topic : Topic) : topic.letter? 'v' = some .verbose := by
  cases topic <;> decide

@[simp] theorem switch?_verbose (topic : Topic) : topic.switch? "verbose" = some .verbose := by
  cases topic <;> decide

/-- The switches that have a letter are those for logging and for help. -/
theorem eq_of_letter? {letter : Char} {switch : Switch}
    (known : topic.letter? letter = some switch) :
    letter = 'v' ∧ switch = .verbose ∨ switch = .help := by
  have same := List.find?_some known
  cases switch with
  | verbose => exact Or.inl ⟨(Option.some.inj (beq_iff_eq.mp same)).symm, rfl⟩
  | help => exact Or.inr rfl
  | workflow | permanentId | format => contradiction

theorem name_of_switch? {name : String} {switch : Switch}
    (known : topic.switch? name = some switch) : switch.name = name := by
  have same := List.find?_some known
  exact beq_iff_eq.mp same

/-- A word that gives a switch with a value does not ask for logging. -/
theorem verboseCount_of_valued {name : String} {switch : Switch}
    (form : Word.ofString word = .switch name none) (known : topic.switch? name = some switch)
    (valued : switch.takesValue = true) : verboseCount word = 0 := by
  apply verboseCount_of_form form
  · rintro ⟨⟩
    cases (switch?_verbose topic).symm.trans known
    contradiction
  · exact nofun

theorem mem_switches_of_switch? {name : String} {switch : Switch}
    (known : topic.switch? name = some switch) : switch ∈ topic.switches :=
  List.mem_of_find?_eq_some known

/-- In front of further topics no switch takes a value. -/
theorem takesValue_of_parent (parent : topic.children ≠ []) {switch : Switch}
    (known : switch ∈ topic.switches) : switch.takesValue = false := by
  have valueless : topic.children ≠ [] → ∀ own ∈ topic.switches, own.takesValue = false := by
    cases topic <;> decide
  exact valueless parent switch known

end Topic

/-! ## Progress -/

namespace Progress

variable {progress settled next : Progress}

theorem setValue_eq_ok {switch : Switch} {value : String}
    (set : progress.setValue switch value = .ok next) :
    next.verbosity = progress.verbosity ∧ next.pending? = progress.pending? := by
  rw [setValue] at set
  split at set
  next => contradiction
  next =>
      cases switch with
      | verbose | help | permanentId =>
          cases set
          exact ⟨rfl, rfl⟩
      | workflow =>
          dsimp only at set
          split at set
          next => contradiction
          next =>
              cases set
              exact ⟨rfl, rfl⟩
      | format =>
          dsimp only at set
          split at set
          next => contradiction
          next =>
              split at set
              next =>
                  cases set
                  exact ⟨rfl, rfl⟩
              next => contradiction

/-- Once settled, no switch waits. -/
theorem settle_eq_ok (settles : progress.settle = .ok settled) :
    settled.verbosity = progress.verbosity ∧ settled.pending? = none := by
  rw [settle] at settles
  split at settles
  next none =>
      cases settles
      exact ⟨rfl, none⟩
  next => contradiction
  next => exact setValue_eq_ok settles

theorem settle_of_pending?_eq_none (none : progress.pending? = none) :
    progress.settle = .ok progress := by
  rw [settle, none]

@[simp] theorem pending?_countVerbose (progress : Progress) :
    progress.countVerbose.pending? = progress.pending? := rfl

/-- Counting leaves nothing to settle. -/
theorem pending?_of_counted (settles : progress.settle = .ok settled) (times : Nat) :
    (countVerbose^[times] settled).pending? = none := by
  induction times with
  | zero => exact (settle_eq_ok settles).2
  | succ times ih => rw [Function.iterate_succ_apply', pending?_countVerbose, ih]

/-- Giving a value leaves nothing to settle. -/
theorem pending?_of_set {switch : Switch} {value : String}
    (settles : progress.settle = .ok settled) (set : settled.setValue switch value = .ok next) :
    next.pending? = none := by
  rw [(setValue_eq_ok set).2, (settle_eq_ok settles).2]

end Progress

/-! ## One word -/

namespace Topic

/-- What a word can do within a topic. -/
inductive Takes (topic : Topic) (progress : Progress) (word : String) : Progress → Prop where
  /-- It asks for logging. -/
  | verbose {settled : Progress} (asks : verboseCount word ≠ 0)
      (settles : progress.settle = .ok settled) :
      Takes topic progress word (Progress.countVerbose^[verboseCount word] settled)
  /-- It gives a switch its value. -/
  | assign {name value : String} {switch : Switch} {settled next : Progress}
      (form : Word.ofString word = .switch name (some value))
      (known : topic.switch? name = some switch) (valued : switch.takesValue = true)
      (settles : progress.settle = .ok settled) (set : settled.setValue switch value = .ok next) :
      Takes topic progress word next
  /-- It gives a switch that waits for its value. -/
  | await {name : String} {switch : Switch} {settled : Progress}
      (form : Word.ofString word = .switch name none)
      (known : topic.switch? name = some switch) (valued : switch.takesValue = true)
      (settles : progress.settle = .ok settled) :
      Takes topic progress word { settled with pending? := some (switch, none) }
  /-- It is the value that a switch waits for. -/
  | supply {switch : Switch} (form : Word.ofString word = .plain) (fresh : word ∉ topic.words)
      (waits : progress.pending? = some (switch, none)) :
      Takes topic progress word { progress with pending? := some (switch, some word) }

variable {topic : Topic} {progress next : Progress} {word : String}

theorem takeFlag_eq_ok_iff {switch : Switch} :
    topic.takeFlag switch progress = .ok next ↔
      switch ≠ .help ∧ ∃ settled, progress.settle = .ok settled ∧ next = settled.countVerbose := by
  rw [takeFlag]
  cases progress.settle with
  | error fault => simp
  | ok settled => cases switch <;> simp [eq_comm]

theorem takeFlag_verbose {settled : Progress} (settles : progress.settle = .ok settled) :
    topic.takeFlag .verbose progress = .ok settled.countVerbose :=
  takeFlag_eq_ok_iff.mpr ⟨nofun, settled, settles, rfl⟩

/-- Of letters only the one for logging lets a line go on. -/
theorem takeLetters_cons_eq_ok_iff {letter : Char} {letters : List Char} :
    topic.takeLetters (letter :: letters) progress = .ok next ↔
      letter = 'v' ∧ ∃ settled, progress.settle = .ok settled ∧
        topic.takeLetters letters settled.countVerbose = .ok next := by
  rw [takeLetters]
  constructor
  · intro taken
    split at taken
    next => contradiction
    next switch known =>
        cases flagged : topic.takeFlag switch progress with
        | error stop =>
            rw [flagged] at taken
            contradiction
        | ok counted =>
            obtain ⟨noHelp, settled, settles, rfl⟩ := takeFlag_eq_ok_iff.mp flagged
            rw [flagged] at taken
            rcases eq_of_letter? known with ⟨isVerbose, -⟩ | help
            · exact ⟨isVerbose, settled, settles, taken⟩
            · exact absurd help noHelp
  · rintro ⟨rfl, settled, settles, taken⟩
    rw [letter?_verbose]
    dsimp only
    rw [takeFlag_verbose settles]
    exact taken

/-- Letters count when they are all the letter for logging. -/
theorem takeLetters_eq_ok_iff {letters : List Char} (given : letters ≠ []) :
    topic.takeLetters letters progress = .ok next ↔
      IsVerboseCluster letters ∧ ∃ settled, progress.settle = .ok settled ∧
        next = Progress.countVerbose^[letters.length] settled := by
  induction letters generalizing progress with
  | nil => contradiction
  | cons letter letters ih =>
      rw [takeLetters_cons_eq_ok_iff, isVerboseCluster_cons_iff, and_assoc]
      apply and_congr_right
      intro _
      cases letters with
      | nil => simp [takeLetters, eq_comm]
      | cons second others =>
          -- The first letter settles what waited, so further letters find nothing to settle.
          have counted : ∀ settled : Progress, progress.settle = .ok settled →
              settled.countVerbose.settle = .ok settled.countVerbose := fun settled settles =>
            Progress.settle_of_pending?_eq_none (Progress.pending?_of_counted settles 1)
          constructor
          · rintro ⟨settled, settles, taken⟩
            obtain ⟨verbose, again, settlesAgain, rfl⟩ := (ih (List.cons_ne_nil _ _)).mp taken
            cases (counted settled settles).symm.trans settlesAgain
            exact ⟨verbose.2, settled, settles, rfl⟩
          · rintro ⟨verbose, settled, settles, rfl⟩
            exact ⟨settled, settles, (ih (List.cons_ne_nil _ _)).mpr
              ⟨⟨List.cons_ne_nil _ _, verbose⟩, _, counted settled settles, rfl⟩⟩

theorem takeValue_eq_ok_iff {switch : Switch} {value? : Option String} :
    topic.takeValue switch value? progress = .ok next ↔
      ∃ settled, progress.settle = .ok settled ∧
        ((∃ value, value? = some value ∧ settled.setValue switch value = .ok next) ∨
          value? = none ∧ next = { settled with pending? := some (switch, none) }) := by
  rw [takeValue]
  cases progress.settle with
  | error fault => simp
  | ok settled =>
      cases value? with
      | none => simp [eq_comm]
      | some value => cases set : settled.setValue switch value <;> simp [Except.mapError, set]

theorem takeSwitch_eq_ok_iff {name : String} {value? : Option String} {rest : List String}
    (form : Word.ofString word = .switch name value?) :
    topic.takeSwitch name value? rest progress = .ok next ↔ topic.Takes progress word next := by
  rw [takeSwitch]
  constructor
  · intro taken
    split at taken
    next => contradiction
    next switch known =>
        split at taken
        next valued =>
            obtain ⟨settled, settles, ⟨value, rfl, set⟩ | ⟨rfl, rfl⟩⟩ :=
              takeValue_eq_ok_iff.mp taken
            · exact .assign form known valued settles set
            · exact .await form known valued settles
        next notValued =>
            split at taken
            next => contradiction
            next =>
                obtain ⟨noHelp, settled, settles, rfl⟩ := takeFlag_eq_ok_iff.mp taken
                cases switch with
                | verbose =>
                    obtain rfl : "verbose" = name := name_of_switch? known
                    obtain rfl : word = "--verbose" := Word.eq_of_switch form
                    exact .verbose (by decide) settles
                | help => exact absurd rfl noHelp
                | workflow | permanentId | format => exact absurd rfl notValued
  · intro taken
    cases taken with
    | @verbose settled asks settles =>
        rcases form_of_verboseCount_ne_zero asks with named | ⟨letters, cluster, -⟩
        · cases named.symm.trans form
          obtain rfl : word = "--verbose" := Word.eq_of_switch named
          rw [switch?_verbose]
          exact takeFlag_verbose settles
        · cases cluster.symm.trans form
    | assign otherForm known valued settles set =>
        cases otherForm.symm.trans form
        rw [known]
        dsimp only
        rw [if_pos valued]
        exact takeValue_eq_ok_iff.mpr ⟨_, settles, .inl ⟨_, rfl, set⟩⟩
    | await otherForm known valued settles =>
        cases otherForm.symm.trans form
        rw [known]
        dsimp only
        rw [if_pos valued]
        exact takeValue_eq_ok_iff.mpr ⟨_, settles, .inr ⟨rfl, rfl⟩⟩
    | supply otherForm => cases otherForm.symm.trans form

theorem takeCluster_eq_ok_iff {letters : List Char}
    (form : Word.ofString word = .cluster letters) :
    topic.takeLetters letters progress = .ok next ↔ topic.Takes progress word next := by
  rw [takeLetters_eq_ok_iff (Word.toList_of_cluster form).2]
  constructor
  · rintro ⟨verbose, settled, settles, rfl⟩
    rw [← verboseCount_of_cluster form verbose]
    refine .verbose ?_ settles
    rw [verboseCount_of_cluster form verbose]
    exact mt List.length_eq_zero_iff.mp verbose.1
  · intro taken
    cases taken with
    | verbose asks settles =>
        rcases form_of_verboseCount_ne_zero asks with named | ⟨others, cluster, verbose⟩
        · cases named.symm.trans form
        · cases cluster.symm.trans form
          exact ⟨verbose, _, settles, by rw [verboseCount_of_cluster form verbose]⟩
    | assign otherForm => cases otherForm.symm.trans form
    | await otherForm => cases otherForm.symm.trans form
    | supply otherForm => cases otherForm.symm.trans form

theorem takeWord_eq_ok_iff (form : Word.ofString word = .plain) (fresh : word ∉ topic.words) :
    topic.takeWord word progress = .ok next ↔ topic.Takes progress word next := by
  rw [takeWord]
  constructor
  · intro taken
    split at taken
    next switch waits =>
        cases taken
        exact .supply form fresh waits
    next => contradiction
    next => contradiction
  · intro taken
    cases taken with
    | verbose asks => exact absurd (verboseCount_of_form form nofun nofun) asks
    | assign otherForm => cases otherForm.symm.trans form
    | await otherForm => cases otherForm.symm.trans form
    | supply _ _ waits => rw [waits]

/-- Only words that are no separator are taken, and none that leads to a topic. -/
theorem Takes.not_mem_words (taken : topic.Takes progress word next) : word ∉ topic.words := by
  cases taken with
  | verbose asks =>
      apply not_mem_words_of_ne_plain
      rcases form_of_verboseCount_ne_zero asks with named | ⟨letters, cluster, -⟩
      · exact named ▸ nofun
      · exact cluster ▸ nofun
  | assign form | await form => exact not_mem_words_of_ne_plain (form ▸ nofun)
  | supply _ fresh => exact fresh

theorem Takes.ne_separator (taken : topic.Takes progress word next) : word ≠ "--" := by
  rintro rfl
  have separator : Word.ofString "--" = .separator := by decide
  cases taken with
  | verbose asks => exact absurd rfl asks
  | assign form | await form | supply form => cases separator.symm.trans form

/-- A word that asks for logging does nothing else. -/
theorem Takes.settle_of_asks (taken : topic.Takes progress word next)
    (asks : verboseCount word ≠ 0) :
    ∃ settled, progress.settle = .ok settled ∧
      next = Progress.countVerbose^[verboseCount word] settled := by
  cases taken with
  | @verbose settled _ settles => exact ⟨settled, settles, rfl⟩
  | assign form => exact absurd (verboseCount_of_form form nofun nofun) asks
  | await form known valued => exact absurd (verboseCount_of_valued form known valued) asks
  | supply form => exact absurd (verboseCount_of_form form nofun nofun) asks

theorem finishBehindSeparator_eq_ok_iff {outer : Nat} {rest : List String}
    {invocation : Invocation} :
    topic.finishBehindSeparator outer progress rest = .ok invocation ↔
      rest = [] ∧ topic.finish outer progress = .ok invocation := by
  cases rest with
  | nil => simp [finishBehindSeparator]
  | cons word rest => simp [finishBehindSeparator]

/-- Reading goes on behind a word exactly when the word leads to a further topic, is the
separator and ends the line, or takes the state within the topic to the next. -/
theorem read_cons_eq_ok_iff {outer : Nat} {rest : List String} {invocation : Invocation} :
    topic.read outer progress (word :: rest) = .ok invocation ↔
      (∃ child, topic.child? word = some child ∧
        child.read (progress.verbosityOver outer) {} rest = .ok invocation) ∨
      (word = "--" ∧ rest = [] ∧ topic.finish outer progress = .ok invocation) ∨
      ∃ next, topic.Takes progress word next ∧ topic.read outer next rest = .ok invocation := by
  have separator : "--" ∉ topic.words := not_mem_words_of_ne_plain (by decide)
  rw [read]
  constructor
  · intro read
    split at read
    next child leads => exact .inl ⟨child, leads, read⟩
    next =>
        split at read
        next => contradiction
        next fresh =>
            right
            split at read
            next form =>
                exact .inl ⟨Word.eq_of_separator form, finishBehindSeparator_eq_ok_iff.mp read⟩
            next form =>
                split at read
                next => contradiction
                next next taken => exact .inr ⟨next, (takeSwitch_eq_ok_iff form).mp taken, read⟩
            next form =>
                split at read
                next => contradiction
                next next taken => exact .inr ⟨next, (takeCluster_eq_ok_iff form).mp taken, read⟩
            next form =>
                split at read
                next => contradiction
                next next taken => exact .inr ⟨next, (takeWord_eq_ok_iff form fresh).mp taken, read⟩
  · rintro (⟨child, leads, read⟩ | ⟨rfl, rfl, finished⟩ | ⟨next, taken, read⟩)
    · rw [leads]
      exact read
    · have form : Word.ofString "--" = .separator := by decide
      rw [child?_of_not_mem_words separator, if_neg separator, form]
      exact finished
    · have fresh := taken.not_mem_words
      rw [child?_of_not_mem_words fresh, if_neg fresh]
      dsimp only
      split
      next form => exact absurd (Word.eq_of_separator form) taken.ne_separator
      next form =>
          rw [(takeSwitch_eq_ok_iff form).mpr taken]
          exact read
      next form =>
          rw [(takeCluster_eq_ok_iff form).mpr taken]
          exact read
      next form =>
          rw [(takeWord_eq_ok_iff form fresh).mpr taken]
          exact read

/-! ## The end of the line -/

/-- The command of a topic, if it is one and the switches that it needs are given. -/
def command? (topic : Topic) (progress : Progress) : Option Command :=
  match topic, progress.workflow? with
  | .editorLoad, some file =>
      some (.editorLoad ⟨file, progress.permanentId?, progress.format?.getD .text⟩)
  | .parameters, some file => some (.parameters ⟨file, progress.format?.getD .text⟩)
  | .validate, some file => some (.validate ⟨file, progress.format?.getD .text⟩)
  | .config, _ => some (.config (progress.format?.getD .text))
  | .program, _ | .editor, _ | .editorLoad, none | .parameters, none | .validate, none => none

theorem finish_eq_ok_iff {outer : Nat} {invocation : Invocation} :
    topic.finish outer progress = .ok invocation ↔
      ∃ settled, progress.settle = .ok settled ∧
        settled.verbosityOver outer = invocation.verbosity ∧
        topic.command? settled = some invocation.command := by
  rw [finish]
  cases progress.settle with
  | error fault => simp
  | ok settled =>
      obtain ⟨verbosity, command⟩ := invocation
      cases topic <;> cases file : settled.workflow? <;> simp [command?, file]

end Topic

end WorkflowEditor.CommandLine
