/-!
# Similar words

How alike two words are, as Jaro measures it.  A character of one word pairs up
with the first free equal character of the other that stands about as far along.
The likeness is the mean of three shares: of the one word's characters that are
paired, of the other's, and of the pairs that stand in the same order in both.
-/

namespace WorkflowEditor.Text

/-- The share `part` of `whole`. -/
structure Share where
  part : Nat
  whole : Nat
  deriving DecidableEq, Repr

namespace Share

/-- Whether one share is at most another. -/
def atMost (left right : Share) : Bool :=
  left.part * right.whole ≤ right.part * left.whole

end Share

namespace Similarity

/-- Take the first free `char` among the next `window` characters behind the first
`skip` ones; a character that is taken is marked. -/
def take? (char : Char) :
    (skip window : Nat) → List (Char × Bool) → Option (List (Char × Bool))
  | _, _, [] => none
  | skip + 1, window, head :: tail => (take? char skip window tail).map (head :: ·)
  | 0, 0, _ :: _ => none
  | 0, window + 1, head :: tail =>
      if head = (char, false) then some ((char, true) :: tail)
      else (take? char 0 window tail).map (head :: ·)

/-- The characters of one word, from the given place on, that pair up within a
reach, and the other word with its taken characters marked. -/
def pair (reach : Nat) : Nat → List Char → List (Char × Bool) → List Char × List (Char × Bool)
  | _, [], marked => ([], marked)
  | place, char :: rest, marked =>
      match take? char (place - reach) (place + reach + 1 - (place - reach)) marked with
      | some taken =>
          let (paired, final) := pair reach (place + 1) rest taken
          (char :: paired, final)
      | none => pair reach (place + 1) rest marked

/-- The likeness of two words. -/
def likeness (left right : List Char) : Share :=
  let reach := max left.length right.length / 2 - 1
  let (paired, marked) := pair reach 0 left (right.map (·, false))
  let taken := (marked.filter (·.2)).map (·.1)
  let pairs := paired.length
  let swaps := ((paired.zip taken).countP fun (one, other) => one ≠ other) / 2
  if pairs = 0 then ⟨0, 1⟩
  else
    ⟨pairs * pairs * (left.length + right.length) + (pairs - swaps) * left.length * right.length,
      3 * left.length * right.length * pairs⟩

/-- The likeness from which a word may stand for another. -/
def threshold : Share := ⟨7, 10⟩

end Similarity

/-- The known words that a word may stand for, the most similar one last. -/
def similarWords (word : String) (known : List String) : List String :=
  let measured := known.map fun candidate =>
    (Similarity.likeness word.toList candidate.toList, candidate)
  ((measured.filter fun (likeness, _) => Similarity.threshold.atMost likeness).mergeSort
    fun one other => one.1.atMost other.1).map (·.2)

/-- The known word that a word most likely stands for. -/
def mostSimilar? (word : String) (known : List String) : Option String :=
  (similarWords word known).getLast?

end WorkflowEditor.Text
