import Mathlib
import WorkflowEditor.Document

/-!
# Where a text mentions a word

A failure of YAML is classified by a word in its wording.  Wordings are put
together from pieces between characters that the word does not have, so a wording
mentions the word exactly when one of its pieces does
(`Document.mentions_append_cons_iff`).  Quoting a text neither hides the word nor
brings it in (`Document.mentions_quoted_iff`).
-/

namespace WorkflowEditor

namespace Document

/-- The word by which failures are classified. -/
def duplicateWord : List Char := "duplicate".toList

/-- The characters hold the word, in upper or lower case. -/
def Mentions (chars : List Char) : Prop := duplicateWord <:+: chars.map Char.toLower

instance (chars : List Char) : Decidable (Mentions chars) :=
  inferInstanceAs (Decidable (_ <:+: _))

theorem holdsWord_iff {word chars : List Char} : holdsWord word chars = true ↔ word <:+: chars := by
  induction chars with
  | nil => rw [holdsWord, List.isEmpty_iff, List.infix_nil]
  | cons char rest ih =>
      rw [holdsWord, Bool.or_eq_true, ih, List.isPrefixOf_iff_prefix, List.infix_cons_iff]

theorem mentionsDuplicate_iff {text : String} :
    mentionsDuplicate text = true ↔ Mentions text.toList :=
  holdsWord_iff

/-! ## Pieces -/

/-- A word does not reach over a character that it does not have. -/
theorem infix_append_cons_iff {α : Type} {word left right : List α} {separator : α}
    (apart : separator ∉ word) :
    word <:+: left ++ separator :: right ↔ word <:+: left ∨ word <:+: right := by
  have notPrefix : ∀ piece, piece <+: separator :: right → (∀ char ∈ piece, char ∈ word) →
      piece = [] := by
    intro piece before within
    cases piece with
    | nil => rfl
    | cons char rest =>
        obtain ⟨rfl, -⟩ := List.cons_prefix_cons.mp before
        exact absurd (within char List.mem_cons_self) apart
  rw [List.infix_append_iff, List.infix_cons_iff]
  constructor
  · rintro (inLeft | (atSeparator | inRight) | ⟨start, rest, rfl, atEnd, atSeparator⟩)
    · exact Or.inl inLeft
    · rw [notPrefix word atSeparator fun _ member => member]
      exact Or.inl List.nil_infix
    · exact Or.inr inRight
    · rw [notPrefix rest atSeparator fun _ member => List.mem_append_right _ member,
        List.append_nil]
      exact Or.inl atEnd.isInfix
  · rintro (inLeft | inRight)
    · exact Or.inl inLeft
    · exact Or.inr (Or.inl (Or.inr inRight))

variable {chars left right : List Char} {separator : Char}

/-- What stands on the two sides of a character that the word does not have mentions
the word each for itself. -/
theorem mentions_append_cons_iff (apart : separator.toLower ∉ duplicateWord) :
    Mentions (left ++ separator :: right) ↔ Mentions left ∨ Mentions right := by
  rw [Mentions, List.map_append, List.map_cons]
  exact infix_append_cons_iff apart

theorem mentions_append_blank_iff :
    Mentions (left ++ ' ' :: right) ↔ Mentions left ∨ Mentions right :=
  mentions_append_cons_iff (by decide)

/-- Characters without a letter of the word do not mention it. -/
theorem not_mentions_of_absent (letter : Char) (inWord : letter ∈ duplicateWord)
    (absent : ∀ char ∈ chars, char.toLower ≠ letter) : ¬Mentions chars := by
  intro mentions
  obtain ⟨char, member, same⟩ := List.mem_map.mp (mentions.subset inWord)
  exact absent char member same

theorem not_mentions_of_digits (digits : ∀ char ∈ chars, char.isDigit = true) :
    ¬Mentions chars := by
  apply not_mentions_of_absent 'd' (by decide)
  intro char member lowered
  have digit := digits char member
  simp only [Char.isDigit, Bool.and_eq_true, decide_eq_true_eq] at digit
  have kept : char.toLower = char := by
    rw [Char.toLower, dif_neg]
    rintro ⟨letter, -⟩
    exact absurd (UInt32.le_trans letter digit.2) (by decide)
  rw [kept] at lowered
  subst lowered
  exact absurd digit.2 (by decide)

/-- A first character that the word does not begin with counts for nothing. -/
theorem mentions_cons_iff {char : Char} (other : char.toLower ≠ 'd') :
    Mentions (char :: chars) ↔ Mentions chars := by
  rw [Mentions, List.map_cons, List.infix_cons_iff, Mentions]
  refine or_iff_right fun before => ?_
  exact other (List.cons_prefix_cons.mp before).1.symm

/-! ## Quoted text -/

/-- The letters of the word in both cases. -/
def duplicateLetters : List Char := "duplicateDUPLICATE".toList

theorem mem_duplicateLetters {char : Char} (letter : char.toLower ∈ duplicateWord) :
    char ∈ duplicateLetters := by
  have ofSmall : ∀ code < 128, (Char.ofNat code).toLower ∈ duplicateWord →
      Char.ofNat code ∈ duplicateLetters := by decide
  have small : char.toNat < 128 := by
    rw [Char.toLower] at letter
    split at letter
    next upper => exact Nat.lt_of_le_of_lt (UInt32.le_iff_toNat_le.mp upper.2) (by decide)
    next =>
        have inWord : duplicateWord.all (·.toNat < 128) = true := by decide
        exact of_decide_eq_true (List.all_eq_true.mp inWord char letter)
  have found := ofSmall char.toNat small
  rw [Char.ofNat_toNat] at found
  exact found letter

/-- Quoting keeps the letters of the word. -/
theorem quotedChar_of_letter {char : Char} (letter : char.toLower ∈ duplicateWord) :
    Text.quotedChar char = [char] := by
  have kept : duplicateLetters.all (fun char => Text.quotedChar char = [char]) = true := by decide
  exact of_decide_eq_true (List.all_eq_true.mp kept char (mem_duplicateLetters letter))

theorem exists_digitChar_of_mem_toDigits {base value : Nat} (baseBound : 1 < base) {char : Char}
    (member : char ∈ Nat.toDigits base value) : ∃ digit < base, char = Nat.digitChar digit := by
  induction value using Nat.strongRecOn with
  | ind value ih =>
      rw [Nat.toDigits_eq_if baseBound] at member
      split at member
      next small => exact ⟨value, small, List.mem_singleton.mp member⟩
      next large =>
          rcases List.mem_append.mp member with inFront | atEnd
          · exact ih (value / base) (Nat.div_lt_self (by omega) baseBound) inFront
          · exact ⟨value % base, Nat.mod_lt _ (by omega), List.mem_singleton.mp atEnd⟩

theorem not_mentions_hexDigits (value : Nat) : ¬Mentions (Text.hexDigits value) := by
  have absent : ∀ digit < 16, (Nat.digitChar digit).toLower ≠ 'u' := by decide
  apply not_mentions_of_absent 'u' (by decide)
  intro char member
  obtain ⟨digit, small, rfl⟩ := exists_digitChar_of_mem_toDigits (by decide) member
  exact absent digit small

/-- A character is quoted as itself, or by an escape that does not take part in the
word. -/
theorem quotedChar_cases (char : Char) :
    Text.quotedChar char = [char] ∨
      ∃ tail, Text.quotedChar char = '\\' :: tail ∧
        ∀ rest, Mentions (tail ++ rest) ↔ Mentions rest := by
  unfold Text.quotedChar
  split
  case h_7 =>
      split
      next =>
          refine Or.inr ⟨_, rfl, fun rest => ?_⟩
          calc Mentions ('u' :: '\x7b' :: (Text.hexDigits char.toNat ++ ['\x7d']) ++ rest)
              ↔ Mentions (Text.hexDigits char.toNat ++ '\x7d' :: rest) := by
                rw [List.cons_append, mentions_cons_iff (by decide), List.cons_append,
                  mentions_cons_iff (by decide), List.append_assoc, List.singleton_append]
            _ ↔ Mentions rest := by
                rw [mentions_append_cons_iff (by decide)]
                exact or_iff_right (not_mentions_hexDigits _)
      next => exact Or.inl rfl
  all_goals exact Or.inr ⟨_, rfl, fun rest => mentions_cons_iff (by decide)⟩

/-- Quoting neither completes nor breaks a beginning of the word. -/
theorem prefix_quoted_iff {letters chars : List Char}
    (inWord : ∀ char ∈ letters, char ∈ duplicateWord) :
    letters <+: (chars.flatMap Text.quotedChar).map Char.toLower ↔
      letters <+: chars.map Char.toLower := by
  induction letters generalizing chars with
  | nil => simp
  | cons letter letters ih =>
      have ⟨letterInWord, restInWord⟩ := List.forall_mem_cons.mp inWord
      cases chars with
      | nil => rfl
      | cons char rest =>
          rw [List.flatMap_cons, List.map_append, List.map_cons]
          rcases quotedChar_cases char with kept | ⟨tail, escaped, -⟩
          · rw [kept, List.map_cons, List.map_nil, List.singleton_append, List.cons_prefix_cons,
              List.cons_prefix_cons, ih restInWord]
          · -- neither the backslash nor the character that it escapes is a letter
            rw [escaped, List.map_cons, List.cons_append, List.cons_prefix_cons,
              List.cons_prefix_cons]
            constructor
            · rintro ⟨rfl, -⟩
              exact absurd letterInWord (by decide)
            · rintro ⟨rfl, -⟩
              rw [quotedChar_of_letter letterInWord, List.cons.injEq] at escaped
              rw [escaped.1] at letterInWord
              exact absurd letterInWord (by decide)

theorem mentions_flatMap_quotedChar_iff {chars : List Char} :
    Mentions (chars.flatMap Text.quotedChar) ↔ Mentions chars := by
  induction chars with
  | nil => rfl
  | cons char rest ih =>
      rcases quotedChar_cases char with kept | ⟨tail, escaped, apart⟩
      · have started : duplicateWord <+:
              ((char :: rest).flatMap Text.quotedChar).map Char.toLower ↔
            duplicateWord <+: (char :: rest).map Char.toLower :=
          prefix_quoted_iff fun _ member => member
        rw [List.flatMap_cons, kept, List.singleton_append] at started ⊢
        rw [Mentions, Mentions, List.map_cons, List.infix_cons_iff, ← List.map_cons, started,
          ← Mentions, ih, Mentions, List.map_cons, List.infix_cons_iff]
      · have other : char.toLower ≠ 'd' := by
          intro letter
          have kept : Text.quotedChar char = [char] := quotedChar_of_letter (letter ▸ by decide)
          rw [escaped, List.cons.injEq] at kept
          rw [← kept.1] at letter
          exact absurd letter (by decide)
        rw [List.flatMap_cons, escaped, List.cons_append, mentions_cons_iff (by decide), apart,
          ih, mentions_cons_iff other]

/-- Quoted text mentions the word exactly when the text does. -/
theorem mentions_quoted_iff {text : String} :
    Mentions (Text.quoted text).toList ↔ Mentions text.toList := by
  rw [Text.quoted, String.toList_ofList, List.cons_append, mentions_cons_iff (by decide),
    mentions_append_cons_iff (by decide), mentions_flatMap_quotedChar_iff]
  exact or_iff_left (by decide)

end Document

end WorkflowEditor
