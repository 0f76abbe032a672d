import WorkflowEditor.Json.Parser
import WorkflowEditor.Text.Blank

/-!
# Blank texts write no value

JSON has four blanks, Unicode has more white space.  The reader passes over the former
only; what it finds behind them in a blank text is white space or the end, and no value
starts with either (`Json.isBlank_of_parse`).
-/

namespace WorkflowEditor

theorem Text.isDigit_eq_false_of_isWhitespace {char : Char} (white : isWhitespace char = true) :
    char.isDigit = false := by
  rw [Bool.eq_false_iff]
  intro digit
  have bounds : 48 ≤ char.toNat ∧ char.toNat ≤ 57 := by
    simpa [Char.isDigit, UInt32.le_iff_toNat_le] using digit
  simp only [isWhitespace, Bool.or_eq_true, Bool.and_eq_true, decide_eq_true_eq,
    beq_iff_eq] at white
  omega

namespace Json

/-- What is left behind some characters is the end of what was left before them. -/
theorem Cursor.rest_skip_suffix (cursor : Cursor) (count : Nat) :
    (cursor.skip count).rest <:+ cursor.rest := by
  induction count generalizing cursor with
  | zero => exact List.suffix_rfl
  | succ count ih =>
      have step : cursor.next.rest <:+ cursor.rest := by
        rw [Cursor.next]
        split
        next => exact List.suffix_rfl
        next char rest held => exact held ▸ List.suffix_cons char rest
      exact (ih cursor.next).trans step

namespace Reader

variable {ε α β : Type} {cursor after : Cursor}

/-! ## Readers that stop -/

/-- The reader stops with an error. -/
def Fails (reader : Reader ε α) (cursor : Cursor) : Prop :=
  ∃ error after, reader cursor = (.error error, after)

theorem fails_failNext (fault : Fault) :
    Fails (failNext fault : Reader SyntaxError α) cursor :=
  ⟨_, _, rfl⟩

theorem Fails.bind {first : Reader ε α} (fails : Fails first cursor)
    (next : α → Reader ε β) : Fails (first >>= next) cursor := by
  obtain ⟨error, after, stopped⟩ := fails
  refine ⟨error, after, ?_⟩
  change ExceptT.bindCont next (first cursor).1 (first cursor).2 = _
  rw [stopped]
  rfl

/-- A reader that goes on after a success stops where its second part does. -/
theorem fails_bind {first : Reader ε α} {value : α} {next : α → Reader ε β}
    (passed : first cursor = (.ok value, after)) (fails : Fails (next value) after) :
    Fails (first >>= next) cursor := by
  obtain ⟨error, stop, stopped⟩ := fails
  refine ⟨error, stop, ?_⟩
  change ExceptT.bindCont next (first cursor).1 (first cursor).2 = _
  rw [passed]
  exact stopped

/-! ## Values -/

theorem peekPastBlanks?_eq (cursor : Cursor) : ∃ count,
    (peekPastBlanks? : Reader ε (Option Char)) cursor =
      (.ok (cursor.skip count).rest.head?, cursor.skip count) :=
  ⟨_, rfl⟩

/-- There is no value in white space. -/
theorem fails_value (white : cursor.rest.all Text.isWhitespace = true) (fuel : Nat) :
    Fails (value fuel) cursor := by
  cases fuel with
  | zero => exact ⟨_, _, rfl⟩
  | succ fuel =>
      obtain ⟨count, passed⟩ := @peekPastBlanks?_eq SyntaxError cursor
      have whiteNext : ∀ char ∈ (cursor.skip count).rest.head?, Text.isWhitespace char = true :=
        fun char next => List.all_eq_true.mp white char
          ((cursor.rest_skip_suffix count).mem (List.mem_of_mem_head? next))
      rw [value]
      apply fails_bind passed
      generalize (cursor.skip count).rest.head? = next? at whiteNext
      -- one case for each character that a value may start with
      split
      case h_1 => exact fails_failNext _
      case h_8 char _ _ _ _ _ _ =>
        have white := whiteNext char rfl
        have notMinus : char ≠ '-' := by
          rintro rfl
          exact absurd white (by decide)
        rw [decide_eq_false notMinus, Text.isDigit_eq_false_of_isWhitespace white,
          Bool.or_false, if_neg Bool.false_ne_true]
        exact fails_failNext _
      all_goals exact absurd (whiteNext _ rfl) (by decide)

theorem fails_tree (white : cursor.rest.all Text.isWhitespace = true) : Fails tree cursor := by
  have passed : (get : Reader SyntaxError Cursor) cursor = (.ok cursor, cursor) := rfl
  rw [tree]
  exact fails_bind passed (fails_value white _)

end Reader

/-- A text that writes a value is not blank. -/
theorem isBlank_of_parse {text : String} {value : Json} (read : parse text = .ok value) :
    Text.isBlank text = false := by
  rw [Bool.eq_false_iff]
  intro blank
  have white : (Cursor.start text).rest.all Text.isWhitespace = true := blank
  obtain ⟨error, after, stopped⟩ := (Reader.fails_tree white).bind fun found => do
    Reader.endOfText
    return found
  have refused : parseTree text = .error error := congrArg Prod.fst stopped
  rw [parse, refused] at read
  contradiction

end Json

end WorkflowEditor
