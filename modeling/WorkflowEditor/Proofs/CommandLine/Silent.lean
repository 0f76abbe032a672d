import Mathlib.Data.List.Chain
import WorkflowEditor.Proofs.CommandLine.Reading

/-!
# Asking for logging changes no command

A word that asks for logging leaves a mark on the state within a topic, and it has the value
of the last switch judged early.  Neither shows in the command that a line names: two states
are alike (`Topic.Alike`) if they agree on everything else once such a value is judged, and
what a word does in one of them it does in the other.  So a line can be read without the
words that ask for logging (`Topic.read_otherWords`), and such words can be put wherever no
switch waits for its value and no separator stands before them
(`Topic.read_of_otherWords`).
-/

namespace WorkflowEditor.CommandLine

/-! ## States up to logging -/

namespace Progress

variable {progress settled next left right : Progress} {switch : Switch}

/-- The state as if logging had never been asked for. -/
def quiet (progress : Progress) : Progress :=
  { progress with
    verbosity := 0
    given := progress.given.filter fun switch => switch ≠ .verbose }

/-- A switch waits for the next word. -/
def Waits (progress : Progress) : Prop := ∃ switch, progress.pending? = some (switch, none)

/-- The state once the value at hand is judged, if there is one; none if it is refused. -/
def settled? (progress : Progress) : Option Progress :=
  match progress.settle, progress.pending? with
  | .ok settled, _ => some settled
  | .error _, some (_, none) => some progress
  | .error _, _ => none

theorem pending?_eq_of_quiet_eq (same : left.quiet = right.quiet) :
    left.pending? = right.pending? := by
  have pending := congrArg Progress.pending? same
  exact pending

theorem quiet_pending?_eq (same : left.quiet = right.quiet)
    (pending? : Option (Switch × Option String)) :
    { left with pending? := pending? }.quiet = { right with pending? := pending? }.quiet := by
  have changed := congrArg (fun quiet : Progress => { quiet with pending? := pending? }) same
  exact changed

theorem quiet_countVerbose (progress : Progress) :
    progress.countVerbose.quiet = progress.quiet := by
  have given : (progress.given.erase Switch.verbose ++ [Switch.verbose]).filter
      (fun switch => switch ≠ Switch.verbose) =
        progress.given.filter fun switch => switch ≠ Switch.verbose := by
    rw [List.filter_append, ← List.erase_filter, List.erase_of_not_mem (by simp)]
    exact List.append_nil _
  rw [quiet, quiet, countVerbose, given]

theorem quiet_iterate_countVerbose (times : Nat) (progress : Progress) :
    (countVerbose^[times] progress).quiet = progress.quiet := by
  induction times generalizing progress with
  | zero => rfl
  | succ times ih => rw [Function.iterate_succ_apply, ih, quiet_countVerbose]

/-- Giving a value does not depend on logging. -/
theorem quiet_setValue (valued : switch.takesValue = true) (progress : Progress) (value : String) :
    progress.quiet.setValue switch value = (progress.setValue switch value).map quiet := by
  have silent : switch ≠ .verbose := by
    rintro rfl
    contradiction
  have member : switch ∈ progress.quiet.given ↔ switch ∈ progress.given := by
    simp [quiet, silent]
  have given : progress.quiet.given ++ [switch] =
      (progress.given ++ [switch]).filter fun switch => switch ≠ .verbose := by
    simp [quiet, silent]
  by_cases repeated : switch ∈ progress.given
  · rw [setValue, setValue, if_pos repeated, if_pos (member.mpr repeated)]
    rfl
  · rw [setValue, setValue, if_neg repeated, if_neg (mt member.mp repeated), given]
    cases switch with
    | verbose | help => contradiction
    | permanentId => rfl
    | workflow =>
        dsimp only
        split <;> rfl
    | format =>
        dsimp only
        split
        next => rfl
        next => split <;> rfl

/-- What is refused or accepted in a state is so in any state that differs in logging. -/
theorem exists_setValue_of_quiet_eq (valued : switch.takesValue = true) {value : String}
    (same : left.quiet = right.quiet) (set : left.setValue switch value = .ok next) :
    ∃ other, right.setValue switch value = .ok other ∧ next.quiet = other.quiet := by
  have mapped : (right.setValue switch value).map quiet = .ok next.quiet := by
    rw [← quiet_setValue valued, ← same, quiet_setValue valued, set]
    rfl
  cases rightSet : right.setValue switch value with
  | error fault =>
      rw [rightSet] at mapped
      contradiction
  | ok other =>
      rw [rightSet] at mapped
      exact ⟨other, rfl, (Except.ok.inj mapped).symm⟩

/-! ## Judging the value at hand -/

theorem settled?_of_settle (settles : progress.settle = .ok settled) :
    progress.settled? = some settled := by
  rw [settled?, settles]

theorem settled?_of_waits (waits : progress.Waits) : progress.settled? = some progress := by
  obtain ⟨switch, waits⟩ := waits
  rw [settled?, settle, waits]

/-- Either the value at hand is judged, or a switch waits for its value. -/
theorem settled?_eq_some (found : progress.settled? = some settled) :
    progress.settle = .ok settled ∨ progress.Waits ∧ settled = progress := by
  rw [settled?] at found
  split at found
  next settles =>
      cases found
      exact Or.inl settles
  next waits =>
      cases found
      exact Or.inr ⟨⟨_, waits⟩, rfl⟩
  next => contradiction

theorem not_waits_of_settle (settles : progress.settle = .ok settled) : ¬progress.Waits := by
  rintro ⟨switch, waits⟩
  rw [settle, waits] at settles
  contradiction

theorem not_waits_of_none (none : progress.pending? = none) : ¬progress.Waits :=
  not_waits_of_settle (settle_of_pending?_eq_none none)

end Progress

/-! ## States that are alike -/

namespace Topic

/-- A switch that has no judged value yet is one of the topic's that take a value. -/
def Fits (topic : Topic) (progress : Progress) : Prop :=
  ∀ switch value?, progress.pending? = some (switch, value?) →
    switch ∈ topic.switches ∧ switch.takesValue = true

theorem fits_of_none {topic : Topic} {progress : Progress} (none : progress.pending? = none) :
    topic.Fits progress := by
  intro switch value? pending
  rw [none] at pending
  contradiction

end Topic

namespace Progress

variable {progress : Progress} {topic : Topic}

theorem quiet_settle (fits : topic.Fits progress) :
    progress.quiet.settle = progress.settle.map quiet := by
  have pending : progress.quiet.pending? = progress.pending? := rfl
  rw [settle, settle, pending]
  cases waiting : progress.pending? with
  | none => rfl
  | some held =>
      obtain ⟨switch, value?⟩ := held
      cases value? with
      | none => rfl
      | some value =>
          have valued := (fits switch value waiting).2
          exact quiet_setValue valued { progress with pending? := none } value

theorem quiet_settled? (fits : topic.Fits progress) :
    progress.quiet.settled? = progress.settled?.map quiet := by
  have pending : progress.quiet.pending? = progress.pending? := rfl
  rw [settled?, settled?, quiet_settle fits, pending]
  cases progress.settle with
  | ok settled => rfl
  | error fault =>
      cases progress.pending? with
      | none => rfl
      | some held => obtain ⟨switch, _ | value⟩ := held <;> rfl

end Progress

namespace Topic

/-- The states agree on everything but logging, once a value at hand is judged. -/
structure Alike (topic : Topic) (left right : Progress) : Prop where
  left_fits : topic.Fits left
  right_fits : topic.Fits right
  same : left.settled?.map Progress.quiet = right.settled?.map Progress.quiet

variable {topic : Topic} {progress next left right : Progress} {word : String}

namespace Alike

theorem of_quiet_eq (leftFits : topic.Fits left) (rightFits : topic.Fits right)
    (same : left.quiet = right.quiet) : topic.Alike left right where
  left_fits := leftFits
  right_fits := rightFits
  same := by
    rw [← Progress.quiet_settled? leftFits, same, Progress.quiet_settled? rightFits]

theorem refl (fits : topic.Fits progress) : topic.Alike progress progress := ⟨fits, fits, rfl⟩

theorem symm (alike : topic.Alike left right) : topic.Alike right left :=
  ⟨alike.right_fits, alike.left_fits, alike.same.symm⟩

theorem trans {other : Progress} (first : topic.Alike left other)
    (second : topic.Alike other right) : topic.Alike left right :=
  ⟨first.left_fits, second.right_fits, first.same.trans second.same⟩

theorem exists_settled? (alike : topic.Alike left right) {settled : Progress}
    (found : left.settled? = some settled) :
    ∃ other, right.settled? = some other ∧ settled.quiet = other.quiet := by
  have same := alike.same
  rw [found, Option.map_some, eq_comm, Option.map_eq_some_iff] at same
  obtain ⟨other, rightFound, quiet⟩ := same
  exact ⟨other, rightFound, quiet.symm⟩

/-- If the value at hand is accepted in one of the states, it is in the other. -/
theorem exists_settle (alike : topic.Alike left right) {settled : Progress}
    (settles : left.settle = .ok settled) :
    ∃ other, right.settle = .ok other ∧ settled.quiet = other.quiet := by
  obtain ⟨other, found, quiet⟩ := alike.exists_settled? (Progress.settled?_of_settle settles)
  rcases Progress.settled?_eq_some found with rightSettles | ⟨waits, rfl⟩
  · exact ⟨other, rightSettles, quiet⟩
  · have ready := (Progress.settle_eq_ok settles).2
    rw [Progress.pending?_eq_of_quiet_eq quiet] at ready
    exact absurd waits (Progress.not_waits_of_none ready)

/-- Where a switch waits for its value, nothing has been judged early. -/
theorem quiet_eq_of_waits (alike : topic.Alike left right) (waits : left.Waits) :
    left.quiet = right.quiet := by
  obtain ⟨other, found, quiet⟩ := alike.exists_settled? (Progress.settled?_of_waits waits)
  rcases Progress.settled?_eq_some found with settles | ⟨-, rfl⟩
  · have ready := (Progress.settle_eq_ok settles).2
    rw [← Progress.pending?_eq_of_quiet_eq quiet] at ready
    exact absurd waits (Progress.not_waits_of_none ready)
  · exact quiet

end Alike

/-! ## Words in states that are alike -/

/-- A word leaves a state in which only a switch of the topic can lack a judged value. -/
theorem Takes.fits (taken : topic.Takes progress word next) (fits : topic.Fits progress) :
    topic.Fits next := by
  cases taken with
  | verbose _ settles => exact fits_of_none (Progress.pending?_of_counted settles _)
  | assign _ _ _ settles set => exact fits_of_none (Progress.pending?_of_set settles set)
  | await _ known valued =>
      rintro _ _ ⟨⟩
      exact ⟨mem_switches_of_switch? known, valued⟩
  | supply _ _ waits =>
      rintro _ _ ⟨⟩
      exact fits _ _ waits

/-- Asking for logging leaves a state that is alike. -/
theorem Takes.alike_of_asks (taken : topic.Takes progress word next)
    (fits : topic.Fits progress) (asks : verboseCount word ≠ 0) : topic.Alike next progress where
  left_fits := taken.fits fits
  right_fits := fits
  same := by
    obtain ⟨settled, settles, rfl⟩ := taken.settle_of_asks asks
    have ready := Progress.pending?_of_counted settles (verboseCount word)
    rw [Progress.settled?_of_settle settles,
      Progress.settled?_of_settle (Progress.settle_of_pending?_eq_none ready), Option.map_some,
      Option.map_some, Progress.quiet_iterate_countVerbose]

/-- Any other word does in one state what it does in a state that is alike. -/
theorem Alike.takes (alike : topic.Alike left right) (taken : topic.Takes left word next)
    (silent : verboseCount word = 0) :
    ∃ other, topic.Takes right word other ∧ topic.Alike next other := by
  have alikeNext : ∀ other, topic.Takes right word other → next.quiet = other.quiet →
      ∃ other, topic.Takes right word other ∧ topic.Alike next other := by
    intro other otherTaken quiet
    exact ⟨other, otherTaken, .of_quiet_eq (taken.fits alike.left_fits)
      (otherTaken.fits alike.right_fits) quiet⟩
  cases taken with
  | verbose asks => exact absurd silent asks
  | assign form known valued settles set =>
      obtain ⟨settled, rightSettles, quietSettled⟩ := alike.exists_settle settles
      obtain ⟨other, rightSet, quiet⟩ :=
        Progress.exists_setValue_of_quiet_eq valued quietSettled set
      exact alikeNext other (.assign form known valued rightSettles rightSet) quiet
  | await form known valued settles =>
      obtain ⟨settled, rightSettles, quietSettled⟩ := alike.exists_settle settles
      refine alikeNext _ (.await form known valued rightSettles) ?_
      exact Progress.quiet_pending?_eq quietSettled _
  | supply form fresh waits =>
      have quiet := alike.quiet_eq_of_waits ⟨_, waits⟩
      have rightWaits := waits
      rw [Progress.pending?_eq_of_quiet_eq quiet] at rightWaits
      refine alikeNext _ (.supply form fresh rightWaits) ?_
      exact Progress.quiet_pending?_eq quiet _

theorem command?_eq_of_quiet_eq (same : left.quiet = right.quiet) :
    topic.command? left = topic.command? right := by
  have quiet : ∀ progress : Progress, topic.command? progress.quiet = topic.command? progress :=
    fun _ => rfl
  rw [← quiet left, same, quiet right]

/-- A line that ends here names the same command in a state that is alike. -/
theorem Alike.finish (alike : topic.Alike left right) {outer : Nat} {invocation : Invocation}
    (finished : topic.finish outer left = .ok invocation) (other : Nat) :
    ∃ verbosity, topic.finish other right = .ok ⟨verbosity, invocation.command⟩ := by
  obtain ⟨settled, settles, -, command⟩ := finish_eq_ok_iff.mp finished
  obtain ⟨rightSettled, rightSettles, quiet⟩ := alike.exists_settle settles
  refine ⟨rightSettled.verbosityOver other, finish_eq_ok_iff.mpr ⟨_, rightSettles, rfl, ?_⟩⟩
  rw [← command?_eq_of_quiet_eq quiet, command]

end Topic

/-! ## Lines without the words that ask for logging -/

/-- The words that do not ask for logging. -/
def otherWords (words : List String) : List String :=
  words.filter fun word => verboseCount word = 0

/-- The words behind which nothing is taken for a switch: a switch that waits for its value
takes the next word for it, and behind the separator there are no switches. -/
def blockers : List String := ["--", "--workflow", "--workflow-permanent-id", "--format"]

/-- No word that asks for logging stands behind one that keeps it from being a switch. -/
def Unblocked (words : List String) : Prop :=
  words.IsChain fun word next => verboseCount next ≠ 0 → word ∉ blockers

/-- The first word, if there is one, does not ask for logging. -/
def StartsSilent (words : List String) : Prop := ∀ word ∈ words.head?, verboseCount word = 0

theorem startsSilent_cons {word : String} (silent : verboseCount word = 0) (rest : List String) :
    StartsSilent (word :: rest) := by
  rintro _ ⟨⟩
  exact silent

theorem unblocked_cons_iff {word : String} {rest : List String} :
    Unblocked (word :: rest) ↔ (word ∈ blockers → StartsSilent rest) ∧ Unblocked rest := by
  rw [Unblocked, List.isChain_cons]
  apply and_congr_left
  intro _
  constructor
  · intro free blocks next first
    by_contra asks
    exact free next first asks blocks
  · intro silent next first asks blocks
    exact asks (silent blocks next first)

theorem otherWords_cons_of_asks {word : String} {rest : List String}
    (asks : verboseCount word ≠ 0) : otherWords (word :: rest) = otherWords rest := by
  rw [otherWords, List.filter_cons_of_neg (by simpa using asks)]
  rfl

theorem otherWords_cons_of_silent {word : String} {rest : List String}
    (silent : verboseCount word = 0) :
    otherWords (word :: rest) = word :: otherWords rest := by
  rw [otherWords, List.filter_cons_of_pos (by simpa using silent)]
  rfl

namespace Topic

variable {topic : Topic} {progress next left right : Progress} {word : String}

theorem verboseCount_eq_zero_of_mem_words (follows : word ∈ topic.words) :
    verboseCount word = 0 := by
  have silent : ∀ follower ∈ topic.words, verboseCount follower = 0 := by
    cases topic <;> decide
  exact silent word follows

/-- Without its words that ask for logging a line names the same command. -/
theorem read_otherWords (alike : topic.Alike left right) {outer : Nat} {words : List String}
    {invocation : Invocation} (read : topic.read outer left words = .ok invocation)
    (other : Nat) :
    ∃ verbosity,
      topic.read other right (otherWords words) = .ok ⟨verbosity, invocation.command⟩ := by
  -- Where a word is left out, only the state on the left goes on, and it stays alike.
  induction words generalizing topic left right outer other with
  | nil => exact alike.finish read other
  | cons word rest ih =>
      rcases read_cons_eq_ok_iff.mp read with
        ⟨child, leads, read⟩ | ⟨rfl, rfl, finished⟩ | ⟨next, taken, read⟩
      · obtain ⟨verbosity, read⟩ :=
          ih (.refl (fits_of_none rfl)) read (right.verbosityOver other)
        have silent := verboseCount_eq_zero_of_mem_words (mem_words_of_child? leads)
        rw [otherWords_cons_of_silent silent]
        exact ⟨verbosity, read_cons_eq_ok_iff.mpr (.inl ⟨child, leads, read⟩)⟩
      · obtain ⟨verbosity, finished⟩ := alike.finish finished other
        exact ⟨verbosity, read_cons_eq_ok_iff.mpr (.inr (.inl ⟨rfl, rfl, finished⟩))⟩
      · by_cases silent : verboseCount word = 0
        · obtain ⟨rightNext, rightTaken, alikeNext⟩ := alike.takes taken silent
          obtain ⟨verbosity, read⟩ := ih alikeNext read other
          rw [otherWords_cons_of_silent silent]
          exact ⟨verbosity, read_cons_eq_ok_iff.mpr (.inr (.inr ⟨_, rightTaken, read⟩))⟩
        · rw [otherWords_cons_of_asks silent]
          exact ih ((taken.alike_of_asks alike.left_fits silent).trans alike) read other

/-! ## Putting words that ask for logging into a line -/

theorem mem_blockers_iff :
    word ∈ blockers ↔
      word = "--" ∨ ∃ switch : Switch, switch.takesValue = true ∧ word = "--" ++ switch.name := by
  constructor
  · intro member
    simp only [blockers, List.mem_cons, List.not_mem_nil, or_false] at member
    rcases member with rfl | rfl | rfl | rfl
    · exact .inl rfl
    · exact .inr ⟨.workflow, rfl, rfl⟩
    · exact .inr ⟨.permanentId, rfl, rfl⟩
    · exact .inr ⟨.format, rfl, rfl⟩
  · rintro (rfl | ⟨switch, valued, rfl⟩)
    · decide
    · cases switch with
      | verbose | help => contradiction
      | workflow | permanentId | format => decide

/-- A switch waits for its value exactly behind the words that give one without it. -/
theorem Takes.waits_iff (taken : topic.Takes progress word next) :
    next.Waits ↔ word ∈ blockers := by
  constructor
  · intro waits
    cases taken with
    | verbose _ settles =>
        have none := Progress.pending?_of_counted settles (verboseCount word)
        exact absurd waits (Progress.not_waits_of_none none)
    | assign _ _ _ settles set =>
        have none := Progress.pending?_of_set settles set
        exact absurd waits (Progress.not_waits_of_none none)
    | await form known valued =>
        refine mem_blockers_iff.mpr (.inr ⟨_, valued, ?_⟩)
        rw [name_of_switch? known]
        exact Word.eq_of_switch form
    | supply =>
        obtain ⟨switch, waits⟩ := waits
        cases waits
  · intro member
    rcases mem_blockers_iff.mp member with rfl | ⟨switch, valued, rfl⟩
    · exact absurd rfl taken.ne_separator
    · have given : Word.ofString ("--" ++ switch.name) = .switch switch.name none := by
        cases switch <;> decide
      have silent : verboseCount ("--" ++ switch.name) = 0 := by
        cases switch with
        | verbose | help => contradiction
        | workflow | permanentId | format => decide
      cases taken with
      | verbose asks => exact absurd silent asks
      | assign form => cases form.symm.trans given
      | await => exact ⟨_, rfl⟩
      | supply form => cases form.symm.trans given

/-- In front of further topics nothing waits to be judged. -/
theorem Fits.pending?_eq_none (fits : topic.Fits progress) (parent : topic.children ≠ []) :
    progress.pending? = none := by
  cases pending : progress.pending? with
  | none => rfl
  | some held =>
      obtain ⟨switch, value?⟩ := held
      obtain ⟨known, valued⟩ := fits switch value? pending
      rw [takesValue_of_parent parent known] at valued
      contradiction

/-- There all that a word can do is to ask for logging. -/
theorem Takes.asks_of_parent (taken : topic.Takes progress word next) (fits : topic.Fits progress)
    (parent : topic.children ≠ []) : verboseCount word ≠ 0 := by
  cases taken with
  | verbose asks => exact asks
  | assign _ known valued | await _ known valued =>
      rw [takesValue_of_parent parent (mem_switches_of_switch? known)] at valued
      contradiction
  | supply _ _ waits =>
      rw [fits.pending?_eq_none parent] at waits
      contradiction

theorem Takes.exists_settled? (taken : topic.Takes progress word next) :
    ∃ settled, progress.settled? = some settled := by
  cases taken with
  | verbose _ settles | assign _ _ _ settles | await _ _ _ settles =>
      exact ⟨_, Progress.settled?_of_settle settles⟩
  | supply _ _ waits => exact ⟨_, Progress.settled?_of_waits ⟨_, waits⟩⟩

/-- A line goes on only if the value at hand is accepted. -/
theorem exists_settled?_of_read (fits : topic.Fits progress) {outer : Nat} {words : List String}
    {invocation : Invocation} (read : topic.read outer progress words = .ok invocation) :
    ∃ settled, progress.settled? = some settled := by
  have ended : topic.finish outer progress = .ok invocation →
      ∃ settled, progress.settled? = some settled := by
    intro finished
    obtain ⟨settled, settles, -⟩ := finish_eq_ok_iff.mp finished
    exact ⟨settled, Progress.settled?_of_settle settles⟩
  cases words with
  | nil => exact ended read
  | cons word rest =>
      rcases read_cons_eq_ok_iff.mp read with
        ⟨child, leads, -⟩ | ⟨-, -, finished⟩ | ⟨next, taken, -⟩
      · have none := fits.pending?_eq_none (children_ne_nil_of_child? leads)
        exact ⟨_, Progress.settled?_of_settle (Progress.settle_of_pending?_eq_none none)⟩
      · exact ended finished
      · exact taken.exists_settled?

/-- What is accepted later in one of the states is accepted early in the other. -/
theorem Alike.exists_settle_of_read (alike : topic.Alike left right) (notWaits : ¬left.Waits)
    {outer : Nat} {words : List String} {invocation : Invocation}
    (read : topic.read outer right words = .ok invocation) :
    ∃ settled, left.settle = .ok settled := by
  obtain ⟨rightSettled, rightFound⟩ := exists_settled?_of_read alike.right_fits read
  obtain ⟨settled, found, -⟩ := alike.symm.exists_settled? rightFound
  rcases Progress.settled?_eq_some found with settles | ⟨waits, -⟩
  · exact ⟨settled, settles⟩
  · exact absurd waits notWaits

/-- Words that ask for logging can be put into a line where they are taken for switches. -/
theorem read_of_otherWords (alike : topic.Alike left right) {outer : Nat} {words : List String}
    (unblocked : Unblocked words) (ready : left.Waits → StartsSilent words)
    {invocation : Invocation}
    (read : topic.read outer right (otherWords words) = .ok invocation) (other : Nat) :
    ∃ verbosity, topic.read other left words = .ok ⟨verbosity, invocation.command⟩ := by
  -- On the left, where the words are put in, a waiting switch gets the value that it gets on
  -- the right, as `ready` keeps the words that ask for logging away from it.
  induction words generalizing topic left right outer other with
  | nil => exact alike.symm.finish read other
  | cons word rest ih =>
      obtain ⟨silentBehind, unblockedRest⟩ := unblocked_cons_iff.mp unblocked
      have readyBehind : ∀ {next : Progress}, topic.Takes left word next →
          next.Waits → StartsSilent rest :=
        fun taken waits => silentBehind (taken.waits_iff.mp waits)
      by_cases silent : verboseCount word = 0
      · rw [otherWords_cons_of_silent silent] at read
        rcases read_cons_eq_ok_iff.mp read with
          ⟨child, leads, read⟩ | ⟨rfl, noOthers, finished⟩ | ⟨next, taken, read⟩
        · obtain ⟨verbosity, read⟩ := ih (.refl (fits_of_none rfl)) unblockedRest
            (fun waits => absurd waits (Progress.not_waits_of_none rfl)) read
            (left.verbosityOver other)
          exact ⟨verbosity, read_cons_eq_ok_iff.mpr (.inl ⟨child, leads, read⟩)⟩
        · have noRest : rest = [] := by
            cases rest with
            | nil => rfl
            | cons next others =>
                rw [otherWords_cons_of_silent (silentBehind (by decide) next rfl)] at noOthers
                contradiction
          obtain ⟨verbosity, finished⟩ := alike.symm.finish finished other
          exact ⟨verbosity, read_cons_eq_ok_iff.mpr (.inr (.inl ⟨rfl, noRest, finished⟩))⟩
        · obtain ⟨leftNext, leftTaken, alikeNext⟩ := alike.symm.takes taken silent
          obtain ⟨verbosity, read⟩ :=
            ih alikeNext.symm unblockedRest (readyBehind leftTaken) read other
          exact ⟨verbosity, read_cons_eq_ok_iff.mpr (.inr (.inr ⟨_, leftTaken, read⟩))⟩
      · rw [otherWords_cons_of_asks silent] at read
        have notWaits : ¬left.Waits := fun waits => silent (ready waits word rfl)
        obtain ⟨settled, settles⟩ := alike.exists_settle_of_read notWaits read
        have taken : topic.Takes left word _ := .verbose silent settles
        obtain ⟨verbosity, read⟩ := ih ((taken.alike_of_asks alike.left_fits silent).trans alike)
          unblockedRest (readyBehind taken) read other
        exact ⟨verbosity, read_cons_eq_ok_iff.mpr (.inr (.inr ⟨_, taken, read⟩))⟩

/-- Elsewhere they cannot stand. -/
theorem unblocked_of_read {outer : Nat} {words : List String} {invocation : Invocation}
    (read : topic.read outer progress words = .ok invocation) :
    Unblocked words ∧ (progress.Waits → StartsSilent words) := by
  induction words generalizing topic progress outer with
  | nil => exact ⟨.nil, fun _ _ => nofun⟩
  | cons word rest ih =>
      rw [unblocked_cons_iff]
      rcases read_cons_eq_ok_iff.mp read with
        ⟨child, leads, read⟩ | ⟨rfl, rfl, -⟩ | ⟨next, taken, read⟩
      · have follows := mem_words_of_child? leads
        refine ⟨⟨fun blocks => ?_, (ih read).1⟩, fun _ => ?_⟩
        · have dashes : ∀ blocker ∈ blockers, blocker.toList.head? = some '-' := by decide
          exact absurd (dashes word blocks) (head?_of_mem_words follows)
        · exact startsSilent_cons (verboseCount_eq_zero_of_mem_words follows) rest
      · exact ⟨⟨fun _ _ => nofun, .nil⟩, fun _ => startsSilent_cons rfl []⟩
      · obtain ⟨unblocked, ready⟩ := ih read
        refine ⟨⟨fun blocks => ready (taken.waits_iff.mpr blocks), unblocked⟩, fun waits => ?_⟩
        apply startsSilent_cons
        by_contra asks
        obtain ⟨settled, settles, -⟩ := taken.settle_of_asks asks
        exact Progress.not_waits_of_settle settles waits

end Topic

end WorkflowEditor.CommandLine
