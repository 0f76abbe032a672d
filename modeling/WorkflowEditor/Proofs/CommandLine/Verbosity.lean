import Mathlib.Data.List.Basic
import Mathlib.Algebra.BigOperators.Group.List.Basic
import Mathlib.Algebra.GroupWithZero.Nat
import WorkflowEditor.Proofs.CommandLine.Silent

/-!
# How much a command line asks to log

Every topic counts on its own how often logging is asked for, and the innermost topic that
was asked decides: the counts of the topics around it are not added to its own.  So where the
words that ask stand decides how much is logged, but not which command runs
(`Invocation.parse_innermost_verbosity`).
-/

namespace WorkflowEditor

namespace CommandLine

/-! ## Counts by place -/

/-- How often words ask for logging. -/
def verboseTotal (words : List String) : Nat := (words.map verboseCount).sum

/-- Every word asks for logging. -/
def OnlyAsks (words : List String) : Prop := ∀ word ∈ words, verboseCount word ≠ 0

/-- The last count that is not zero; the outer one if all are. -/
def innermost (outer : Nat) (counts : List Nat) : Nat :=
  (counts.filter fun count => count ≠ 0).getLastD outer

/-- The words before each further topic that a line leads to, and those behind the last. -/
def Topic.places (topic : Topic) : List String → List (List String)
  | [] => [[]]
  | word :: rest =>
      match topic.child? word with
      | some child => [] :: child.places rest
      | none => (topic.places rest).modifyHead (word :: ·)

/-- How often each place of a line asks for logging. -/
def Topic.placeCounts (topic : Topic) (words : List String) : List Nat :=
  (topic.places words).map verboseTotal

theorem verboseTotal_cons (word : String) (rest : List String) :
    verboseTotal (word :: rest) = verboseCount word + verboseTotal rest := rfl

theorem innermost_cons (outer count : Nat) (counts : List Nat) :
    innermost outer (count :: counts) = innermost (if count = 0 then outer else count) counts := by
  rw [innermost, innermost, List.filter_cons]
  by_cases zero : count = 0
  · rw [if_neg (by simpa using zero), if_pos zero]
  · rw [if_pos (by simpa using zero), if_neg zero, List.getLastD_cons]

namespace Topic

variable {topic child : Topic} {word : String} {rest : List String}

theorem placeCounts_cons_of_child (leads : topic.child? word = some child) :
    topic.placeCounts (word :: rest) = 0 :: child.placeCounts rest := by
  rw [placeCounts, places, leads]
  rfl

theorem placeCounts_cons_of_fresh (fresh : topic.child? word = none) :
    topic.placeCounts (word :: rest) =
      (topic.placeCounts rest).modifyHead (verboseCount word + ·) := by
  rw [placeCounts, placeCounts, places, fresh]
  cases topic.places rest <;> rfl

theorem placeCounts_ne_nil (topic : Topic) (words : List String) :
    topic.placeCounts words ≠ [] := by
  induction words generalizing topic with
  | nil => exact List.cons_ne_nil _ _
  | cons word rest ih =>
      cases leads : topic.child? word with
      | some child =>
          rw [placeCounts_cons_of_child leads]
          exact List.cons_ne_nil _ _
      | none =>
          rw [placeCounts_cons_of_fresh leads]
          exact mt List.modifyHead_eq_nil_iff.mp (ih topic)

/-- All words of a line stand in its places, but for those that lead to topics. -/
theorem sum_placeCounts (topic : Topic) (words : List String) :
    (topic.placeCounts words).sum = verboseTotal words := by
  induction words generalizing topic with
  | nil => rfl
  | cons word rest ih =>
      rw [verboseTotal_cons]
      cases leads : topic.child? word with
      | some child =>
          rw [placeCounts_cons_of_child leads, List.sum_cons, ih,
            verboseCount_eq_zero_of_mem_words (mem_words_of_child? leads)]
      | none =>
          rw [placeCounts_cons_of_fresh leads, ← ih topic]
          cases counts : topic.placeCounts rest with
          | nil => exact absurd counts (topic.placeCounts_ne_nil rest)
          | cons first others =>
              rw [List.modifyHead_cons, List.sum_cons, List.sum_cons, Nat.add_assoc]

/-- Behind a command there is one place. -/
theorem places_of_childless (childless : topic.children = []) (words : List String) :
    topic.places words = [words] := by
  induction words with
  | nil => rfl
  | cons word rest ih =>
      have fresh : topic.child? word = none := by
        rw [child?, childless]
        rfl
      rw [places, fresh]
      dsimp only
      rw [ih]
      rfl

/-- A line that names a command leads on from a topic that has further topics, and till then
its words ask for logging. -/
theorem exists_child_of_read (parent : topic.children ≠ []) {outer : Nat} {progress : Progress}
    (fits : topic.Fits progress) {words : List String} {invocation : Invocation}
    (read : topic.read outer progress words = .ok invocation) :
    ∃ before word child after, topic.child? word = some child ∧
      words = before ++ word :: after ∧ OnlyAsks before ∧
        topic.places words = before :: child.places after ∧
          ∃ outer, child.read outer {} after = .ok invocation := by
  have unfinished : ∀ progress, topic.finish outer progress ≠ .ok invocation := by
    intro progress finished
    obtain ⟨settled, -, -, command⟩ := finish_eq_ok_iff.mp finished
    cases topic <;> contradiction
  induction words generalizing progress with
  | nil => exact absurd read (unfinished progress)
  | cons word rest ih =>
      rcases read_cons_eq_ok_iff.mp read with
        ⟨child, leads, read⟩ | ⟨-, -, finished⟩ | ⟨next, taken, read⟩
      · refine ⟨[], word, child, rest, leads, rfl, nofun, ?_, _, read⟩
        rw [places, leads]
      · exact absurd finished (unfinished progress)
      · obtain ⟨before, last, child, after, leads, rfl, onlyAsks, split, read⟩ :=
          ih (taken.fits fits) read
        refine ⟨word :: before, last, child, after, leads, rfl, ?_, ?_, read⟩
        · exact List.forall_mem_cons.mpr ⟨taken.asks_of_parent fits parent, onlyAsks⟩
        · rw [places, child?_of_not_mem_words taken.not_mem_words]
          dsimp only
          rw [split]
          rfl

end Topic

/-- The places of a line: before the word of a command and behind it, and if the command has
two words, also between them.  In front of these words there is nothing but what asks for
logging. -/
def SplitsInto (line : List String) (places : List (List String)) : Prop :=
  (∃ before word after, word ∈ ["parameters", "validate", "config"] ∧
    line = before ++ word :: after ∧ OnlyAsks before ∧ places = [before, after]) ∨
  ∃ before between after,
    line = before ++ "editor" :: (between ++ "load" :: after) ∧
      OnlyAsks before ∧ OnlyAsks between ∧ places = [before, between, after]

theorem splitsInto_places {outer : Nat} {progress : Progress} (fits : Topic.program.Fits progress)
    {line : List String} {invocation : Invocation}
    (read : Topic.program.read outer progress line = .ok invocation) :
    SplitsInto line (Topic.program.places line) := by
  obtain ⟨before, word, child, after, leads, rfl, onlyAsks, split, outer, read⟩ :=
    Topic.exists_child_of_read (by decide) fits read
  have toChild := Topic.mem_children_of_child? leads
  simp only [Topic.children, List.mem_cons, List.not_mem_nil, or_false, Prod.mk.injEq] at toChild
  rcases toChild with ⟨rfl, rfl⟩ | ⟨rfl, rfl⟩ | ⟨rfl, rfl⟩ | ⟨rfl, rfl⟩
  · right
    obtain ⟨between, word, child, behind, leads, rfl, onlyAsksBetween, splitBehind, -⟩ :=
      Topic.exists_child_of_read (by decide) (Topic.fits_of_none rfl) read
    have toLoad := Topic.mem_children_of_child? leads
    simp only [Topic.children, List.mem_cons, List.not_mem_nil, or_false,
      Prod.mk.injEq] at toLoad
    obtain ⟨rfl, rfl⟩ := toLoad
    refine ⟨before, between, behind, rfl, onlyAsks, onlyAsksBetween, ?_⟩
    rw [split, splitBehind, Topic.places_of_childless rfl]
  all_goals
    left
    refine ⟨before, _, after, by decide, rfl, onlyAsks, ?_⟩
    rw [split, Topic.places_of_childless rfl]

/-! ## What words do to the count -/

namespace Progress

variable {progress : Progress}

theorem verbosity_iterate_countVerbose (bounded : progress.verbosity ≤ 255) (times : Nat) :
    (countVerbose^[times] progress).verbosity = min 255 (progress.verbosity + times) := by
  induction times with
  | zero => exact (Nat.min_eq_right bounded).symm
  | succ times ih =>
      rw [Function.iterate_succ_apply', countVerbose, ih]
      simp only [maxVerbosity]
      omega

end Progress

namespace Topic

variable {topic : Topic} {progress next : Progress} {word : String}

/-- A word counts as often as it asks for logging. -/
theorem Takes.verbosity (taken : topic.Takes progress word next)
    (bounded : progress.verbosity ≤ 255) :
    next.verbosity = min 255 (progress.verbosity + verboseCount word) := by
  by_cases silent : verboseCount word = 0
  · rw [silent, Nat.add_zero, Nat.min_eq_right bounded]
    cases taken with
    | verbose asks => exact absurd silent asks
    | assign _ _ _ settles set =>
        rw [(Progress.setValue_eq_ok set).1, (Progress.settle_eq_ok settles).1]
    | await _ _ _ settles => exact (Progress.settle_eq_ok settles).1
    | supply => rfl
  · obtain ⟨settled, settles, rfl⟩ := taken.settle_of_asks silent
    rw [← (Progress.settle_eq_ok settles).1] at bounded ⊢
    exact Progress.verbosity_iterate_countVerbose bounded _

theorem verbosity_of_finish {outer : Nat} {invocation : Invocation}
    (bounded : progress.verbosity ≤ 255)
    (finished : topic.finish outer progress = .ok invocation) :
    invocation.verbosity = innermost outer [min 255 progress.verbosity] := by
  obtain ⟨settled, settles, verbosity, -⟩ := finish_eq_ok_iff.mp finished
  rw [← verbosity, Progress.verbosityOver, (Progress.settle_eq_ok settles).1,
    Nat.min_eq_right bounded, innermost_cons]
  rfl

/-- A topic starts to count at zero. -/
theorem modifyHead_empty_add (counts : List Nat) :
    counts.modifyHead (({} : Progress).verbosity + ·) = counts := by
  simp only [Nat.zero_add]
  exact congrFun List.modifyHead_id counts

/-- The innermost place that asks for logging decides how much is logged. -/
theorem verbosity_of_read {outer : Nat} {words : List String} {invocation : Invocation}
    (bounded : progress.verbosity ≤ 255)
    (read : topic.read outer progress words = .ok invocation) :
    invocation.verbosity =
      innermost outer
        (((topic.placeCounts words).modifyHead (progress.verbosity + ·)).map (min 255)) := by
  -- What was counted so far belongs to the first of the places that are left.
  induction words generalizing topic outer progress with
  | nil => exact verbosity_of_finish bounded read
  | cons word rest ih =>
      rcases read_cons_eq_ok_iff.mp read with
        ⟨child, leads, read⟩ | ⟨rfl, rfl, finished⟩ | ⟨next, taken, read⟩
      · rw [placeCounts_cons_of_child leads, ih (Nat.zero_le _) read, modifyHead_empty_add,
          List.modifyHead_cons, List.map_cons, Nat.add_zero, Nat.min_eq_right bounded,
          innermost_cons, Progress.verbosityOver]
      · have separator : "--" ∉ topic.words := not_mem_words_of_ne_plain (by decide)
        rw [placeCounts_cons_of_fresh (child?_of_not_mem_words separator)]
        exact verbosity_of_finish bounded finished
      · rw [placeCounts_cons_of_fresh (child?_of_not_mem_words taken.not_mem_words),
          ih (taken.verbosity bounded ▸ Nat.min_le_left _ _) read, taken.verbosity bounded]
        cases topic.placeCounts rest with
        | nil => rfl
        | cons own others =>
            have capped : min 255 (min 255 (progress.verbosity + verboseCount word) + own) =
                min 255 (progress.verbosity + (verboseCount word + own)) := by
              omega
            simp only [List.modifyHead_cons, List.map_cons, capped]

end Topic

/-! ## Lines -/

/-- How much a line asks to log: as often as the innermost of its places that asks at all,
and 255 times at most. -/
def askedVerbosity (line : List String) : Nat :=
  min 255 (innermost 0 (Topic.program.placeCounts line))

/-- No two places of the line ask for logging. -/
def AsksInOnePlace (line : List String) : Prop :=
  ((Topic.program.placeCounts line).filter fun count => count ≠ 0).length ≤ 1

/-- The words that ask for logging stand elsewhere, or are written otherwise, and ask as often
altogether; the other words stay. -/
structure Moved (line moved : List String) : Prop where
  others : otherWords moved = otherWords line
  total : verboseTotal moved = verboseTotal line

theorem innermost_map_min (outer : Nat) (counts : List Nat) :
    innermost (min 255 outer) (counts.map (min 255)) = min 255 (innermost outer counts) := by
  induction counts generalizing outer with
  | nil => rfl
  | cons count counts ih =>
      have capped : (if min 255 count = 0 then min 255 outer else min 255 count) =
          min 255 (if count = 0 then outer else count) := by
        split <;> split <;> omega
      rw [List.map_cons, innermost_cons, innermost_cons, capped, ih]

/-- Where one place asks at most, the innermost place that asks is all of the line. -/
theorem innermost_eq_sum {counts : List Nat}
    (single : (counts.filter fun count => count ≠ 0).length ≤ 1) :
    innermost 0 counts = counts.sum := by
  induction counts with
  | nil => rfl
  | cons count counts ih =>
      rw [innermost_cons, List.sum_cons]
      rw [List.filter_cons] at single
      by_cases zero : count = 0
      · rw [if_pos zero, zero, Nat.zero_add]
        rw [if_neg (by simpa using zero)] at single
        exact ih single
      · rw [if_neg zero]
        rw [if_pos (by simpa using zero), List.length_cons] at single
        have rest : (counts.filter fun count => count ≠ 0) = [] :=
          List.length_eq_zero_iff.mp (by omega)
        have noOther : counts.sum = 0 := by
          apply List.sum_eq_zero
          intro other member
          simpa using List.filter_eq_nil_iff.mp rest other member
        rw [innermost, rest, noOther]
        rfl

theorem askedVerbosity_of_asksInOnePlace {line : List String} (single : AsksInOnePlace line) :
    askedVerbosity line = min 255 (verboseTotal line) := by
  rw [askedVerbosity, innermost_eq_sum single, Topic.sum_placeCounts]

end CommandLine

namespace Invocation

open CommandLine

/-- What is logged is what the innermost place of the line asks for. -/
theorem verbosity_of_parse {line : List String} {invocation : Invocation}
    (parsed : parse line = .ok invocation) : invocation.verbosity = askedVerbosity line := by
  rw [Topic.verbosity_of_read (Nat.zero_le _) parsed, Topic.modifyHead_empty_add]
  exact innermost_map_min 0 _

/-- A line with the same other words names the same command if its words that ask for logging
stand where switches may, and no command otherwise. -/
theorem parse_eq_ok_iff_unblocked {line moved : List String} {invocation : Invocation}
    (parsed : parse line = .ok invocation) (others : otherWords moved = otherWords line) :
    parse moved = .ok ⟨askedVerbosity moved, invocation.command⟩ ↔ Unblocked moved := by
  have alike : Topic.program.Alike {} {} := .refl (Topic.fits_of_none rfl)
  constructor
  · intro parsedMoved
    exact (Topic.unblocked_of_read parsedMoved).1
  · intro unblocked
    obtain ⟨verbosity, read⟩ := Topic.read_otherWords alike parsed 0
    rw [← others] at read
    obtain ⟨movedVerbosity, parsedMoved⟩ := Topic.read_of_otherWords alike unblocked
      (fun waits => absurd waits (Progress.not_waits_of_none rfl)) read 0
    rw [← verbosity_of_parse parsedMoved]
    exact parsedMoved

/-- Of the places of a line the innermost that asks for logging decides how much is logged;
the places are those around the words of the command.  If no other place asks, that is as
often as the line asks altogether.  Words that ask for logging can be moved to other places
where they are taken for switches, and only there: the command stays, and again the
innermost place decides. -/
theorem parse_innermost_verbosity {line : List String} {invocation : Invocation}
    (parsed : parse line = .ok invocation) :
    invocation.verbosity = askedVerbosity line ∧
    SplitsInto line (Topic.program.places line) ∧
    (AsksInOnePlace line → invocation.verbosity = min 255 (verboseTotal line)) ∧
    ∀ moved, Moved line moved →
      (parse moved = .ok ⟨askedVerbosity moved, invocation.command⟩ ↔ Unblocked moved) ∧
      (AsksInOnePlace line → AsksInOnePlace moved →
        askedVerbosity moved = invocation.verbosity) := by
  have verbosity := verbosity_of_parse parsed
  have places := splitsInto_places (Topic.fits_of_none rfl) parsed
  refine ⟨verbosity, places, ?_, fun moved isMoved => ⟨?_, ?_⟩⟩
  · intro single
    rw [verbosity, askedVerbosity_of_asksInOnePlace single]
  · exact parse_eq_ok_iff_unblocked parsed isMoved.others
  · intro single movedSingle
    rw [verbosity, askedVerbosity_of_asksInOnePlace single,
      askedVerbosity_of_asksInOnePlace movedSingle, isMoved.total]

/-- Three requests between the words of a command outweigh the one before them; moved apart,
they leave the say to the one that comes to stand behind. -/
theorem parse_innermost_verbosity_editorLoad :
    let line := ["-v", "editor", "--verbose", "-vv", "load", "--workflow", "w.json"]
    let moved := ["-v", "-vv", "editor", "load", "--workflow", "w.json", "-v"]
    let command := Command.editorLoad ⟨"w.json", none, .text⟩
    parse line = .ok ⟨3, command⟩ ∧ Moved line moved ∧ parse moved = .ok ⟨1, command⟩ := by
  intro line moved command
  have parsed : parse line = .ok ⟨3, command⟩ := by rfl
  have isMoved : Moved line moved := ⟨by decide, by decide⟩
  have unblocked : Unblocked moved := by
    unfold Unblocked
    decide
  obtain ⟨-, -, -, moves⟩ := parse_innermost_verbosity parsed
  exact ⟨parsed, isMoved, (moves moved isMoved).1.mpr unblocked⟩

/-- Requests in two places are not added up, moving one of them changes how much is logged,
and behind a switch that waits for its value one is refused. -/
theorem not_forall_verbosity_total :
    (¬∀ line invocation, parse line = .ok invocation →
      invocation.verbosity = min 255 (verboseTotal line)) ∧
    (¬∀ line moved invocation, parse line = .ok invocation → Moved line moved →
      Unblocked moved → parse moved = .ok invocation) ∧
    ¬∀ line moved invocation, parse line = .ok invocation → Moved line moved →
      ∃ verbosity, parse moved = .ok ⟨verbosity, invocation.command⟩ := by
  have parsed : parse ["-v", "parameters", "--workflow", "w.json", "-v"] =
      .ok ⟨1, .parameters ⟨"w.json", .text⟩⟩ := by rfl
  refine ⟨fun total => ?_, fun stays => ?_, fun accepted => ?_⟩
  · have counted := total _ _ parsed
    contradiction
  · have isMoved : Moved ["-v", "parameters", "--workflow", "w.json", "-v"]
        ["parameters", "-v", "--workflow", "w.json", "-v"] := ⟨by decide, by decide⟩
    have unblocked : Unblocked ["parameters", "-v", "--workflow", "w.json", "-v"] := by
      unfold Unblocked
      decide
    have same := stays _ _ _ parsed isMoved unblocked
    contradiction
  · have isMoved : Moved ["-v", "parameters", "--workflow", "w.json", "-v"]
        ["-v", "parameters", "--workflow", "-v", "w.json"] := ⟨by decide, by decide⟩
    obtain ⟨verbosity, read⟩ := accepted _ _ _ parsed isMoved
    contradiction

end Invocation

end WorkflowEditor
