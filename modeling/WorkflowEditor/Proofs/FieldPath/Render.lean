import WorkflowEditor.FieldPath.Basic
import WorkflowEditor.Proofs.Decimal.Text
import WorkflowEditor.Proofs.Json.Members

/-!
# The text of a path tells the path

The text of a step begins with a mark, a dot or an opening bracket.  If the keys of a path
hold no marks, then the marks of its text stand where its steps begin: the text can be cut
there, a piece behind a dot is a key, whatever it looks like, and a piece behind a bracket is
an index.  So paths without marks in their keys have different texts
(`FieldPath.render_tells_places`), and so have the places of a document without marks in
the names of its members.
-/

namespace WorkflowEditor

/-! ## Marks -/

/-- The text holds neither of the marks that begin a step. -/
def Unmarked (text : String) : Prop := '.' ∉ text.toList ∧ '[' ∉ text.toList

instance (text : String) : Decidable (Unmarked text) :=
  inferInstanceAs (Decidable ('.' ∉ text.toList ∧ '[' ∉ text.toList))

namespace Segment

/-- Whether the character begins a step. -/
def isMark (char : Char) : Bool := char == '.' || char == '['

/-- The character that the text of a step begins with. -/
def mark : Segment → Char
  | .key _ => '.'
  | .index _ => '['

/-- The text of a step behind its mark. -/
def body : Segment → List Char
  | .key name => name.toList
  | .index position => Nat.toDigits 10 position ++ [']']

theorem chars_eq (step : Segment) : step.chars = step.mark :: step.body := by
  cases step <;> rfl

theorem isMark_mark (step : Segment) : isMark step.mark = true := by
  cases step <;> rfl

/-- Mark and body tell the step. -/
theorem eq_of_body_eq {left right : Segment} (sameMark : left.mark = right.mark)
    (sameBody : left.body = right.body) : left = right := by
  cases left with
  | key name =>
      cases right with
      | key other => rw [String.toList_inj.mp sameBody]
      | index position =>
          rw [mark, mark] at sameMark
          contradiction
  | index position =>
      cases right with
      | key name =>
          rw [mark, mark] at sameMark
          contradiction
      | index other =>
          rw [NumberLayout.toDigits_injective (List.append_cancel_right sameBody)]

/-- The step has no marks in its key. -/
def KeyUnmarked (step : Segment) : Prop := ∀ name, step = .key name → Unmarked name

/-- Behind its mark a step without marks in its key holds no further mark. -/
theorem KeyUnmarked.isMark_of_mem_body {step : Segment} (unmarked : step.KeyUnmarked)
    {char : Char} (member : char ∈ step.body) : isMark char = false := by
  rw [isMark, Bool.or_eq_false_iff, beq_eq_false_iff_ne, beq_eq_false_iff_ne]
  cases step with
  | key name =>
      obtain ⟨noDot, noBracket⟩ := unmarked name rfl
      exact ⟨fun dot => noDot (dot ▸ member), fun bracket => noBracket (bracket ▸ member)⟩
  | index position =>
      rcases List.mem_append.mp member with inDigits | atEnd
      · have digit := Double.isDigit_of_mem_toDigits inDigits
        constructor <;> rintro rfl <;> contradiction
      · cases List.mem_singleton.mp atEnd
        decide

/-- The body of a first step reaches to the next mark. -/
theorem KeyUnmarked.takeWhile_body {step : Segment} (unmarked : step.KeyUnmarked)
    (rest : List Segment) :
    (step.body ++ rest.flatMap chars).takeWhile (fun char => !isMark char) = step.body := by
  have stops : (rest.flatMap chars).takeWhile (fun char => !isMark char) = [] := by
    cases rest with
    | nil => rfl
    | cons next others =>
        rw [List.flatMap_cons, chars_eq, List.cons_append, List.takeWhile_cons, isMark_mark]
        rfl
  have passes : ∀ char ∈ step.body, (!isMark char) = true := by
    intro char member
    rw [unmarked.isMark_of_mem_body member]
    rfl
  rw [List.takeWhile_append_of_pos passes, stops, List.append_nil]

/-- The text of steps without marks in their keys tells the steps. -/
theorem eq_of_flatMap_chars_eq {left right : List Segment}
    (leftUnmarked : ∀ step ∈ left, step.KeyUnmarked)
    (rightUnmarked : ∀ step ∈ right, step.KeyUnmarked)
    (same : left.flatMap chars = right.flatMap chars) : left = right := by
  induction left generalizing right with
  | nil =>
      cases right with
      | nil => rfl
      | cons step rest =>
          rw [List.flatMap_nil, List.flatMap_cons, chars_eq] at same
          contradiction
  | cons step rest ih =>
      cases right with
      | nil =>
          rw [List.flatMap_nil, List.flatMap_cons, chars_eq] at same
          contradiction
      | cons other others =>
          obtain ⟨stepUnmarked, restUnmarked⟩ := List.forall_mem_cons.mp leftUnmarked
          obtain ⟨otherUnmarked, othersUnmarked⟩ := List.forall_mem_cons.mp rightUnmarked
          rw [List.flatMap_cons, List.flatMap_cons, chars_eq, chars_eq, List.cons_append,
            List.cons_append, List.cons.injEq] at same
          obtain ⟨sameMark, sameTail⟩ := same
          have sameBody : step.body = other.body := by
            rw [← stepUnmarked.takeWhile_body rest, sameTail, otherUnmarked.takeWhile_body]
          rw [sameBody] at sameTail
          rw [eq_of_body_eq sameMark sameBody,
            ih restUnmarked othersUnmarked (List.append_cancel_left sameTail)]

end Segment

/-! ## Names in a document -/

namespace Json

mutual

/-- The names of the members in a document, however deep. -/
def memberNames : Json → List String
  | .array items => itemNames items
  | .object members => entryNames members
  | .null | .bool _ | .number _ | .string _ => []

/-- The names of the members in a list of items. -/
def itemNames : List Json → List String
  | [] => []
  | item :: rest => memberNames item ++ itemNames rest

/-- The names of members and of the members inside them. -/
def entryNames : List (String × Json) → List String
  | [] => []
  | (name, value) :: rest => name :: (memberNames value ++ entryNames rest)

end

theorem memberNames_subset_of_mem {item : Json} {items : List Json} (member : item ∈ items) :
    memberNames item ⊆ itemNames items := by
  induction items with
  | nil => cases member
  | cons first rest ih =>
      rw [itemNames]
      rcases List.mem_cons.mp member with rfl | inRest
      · exact List.subset_append_left _ _
      · exact List.subset_append_of_subset_right _ (ih inRest)

theorem cons_subset_entryNames_of_mem {name : String} {value : Json} {members : Members}
    (member : (name, value) ∈ members) : name :: memberNames value ⊆ entryNames members := by
  induction members with
  | nil => cases member
  | cons first rest ih =>
      obtain ⟨firstName, firstValue⟩ := first
      rw [entryNames, ← List.cons_append]
      rcases List.mem_cons.mp member with same | inRest
      · cases same
        exact List.subset_append_left _ _
      · exact List.subset_append_of_subset_right _ (ih inRest)

end Json

/-- A step that leads somewhere takes a name of the document, if it takes one, and the value
that it leads to has no names that the document has not. -/
theorem Segment.memberNames_of_resolve? {step : Segment} {document value : Json}
    (resolved : step.resolve? document = some value) :
    (∀ name, step = .key name → name ∈ document.memberNames) ∧
      value.memberNames ⊆ document.memberNames := by
  cases step with
  | key name =>
      cases document with
      | object members =>
          have names := Json.cons_subset_entryNames_of_mem (Keyed.mem_of_find? resolved)
          constructor
          · rintro _ ⟨⟩
            exact names List.mem_cons_self
          · exact List.Subset.trans (List.subset_cons_self _ _) names
      | null | bool _ | number _ | string _ | array _ => cases resolved
  | index position =>
      cases document with
      | array items =>
          exact ⟨nofun, Json.memberNames_subset_of_mem (List.mem_of_getElem? resolved)⟩
      | null | bool _ | number _ | string _ | object _ => cases resolved

namespace FieldPath

/-- A path to a place of a document leads through the document's names. -/
theorem mem_memberNames_of_resolve? {path : FieldPath} {document : Json}
    (exist : (path.resolve? document).isSome) {name : String}
    (member : .key name ∈ path.segments) : name ∈ document.memberNames := by
  obtain ⟨segments⟩ := path
  induction segments generalizing document with
  | nil => cases member
  | cons step rest ih =>
      obtain ⟨value, first, behind⟩ : ∃ value, step.resolve? document = some value ∧
          (FieldPath.resolve? ⟨rest⟩ value).isSome := by
        rw [resolve?, List.foldlM_cons] at exist
        cases first : step.resolve? document with
        | none =>
            rw [first] at exist
            cases exist
        | some value =>
            rw [first] at exist
            exact ⟨value, rfl, exist⟩
      obtain ⟨ofStep, ofValue⟩ := Segment.memberNames_of_resolve? first
      rcases List.mem_cons.mp member with same | inRest
      · exact ofStep name same.symm
      · exact ofValue (ih behind inRest)

/-! ## Texts of paths -/

/-- The keys on the path hold no marks. -/
def KeysUnmarked (path : FieldPath) : Prop := ∀ name, .key name ∈ path.segments → Unmarked name

theorem segments_eq_of_render_eq {left right : FieldPath} (leftUnmarked : left.KeysUnmarked)
    (rightUnmarked : right.KeysUnmarked) (same : left.render = right.render) :
    left.segments = right.segments := by
  have sameChars : left.chars = right.chars := String.ofList_injective same
  apply Segment.eq_of_flatMap_chars_eq
  · rintro _ member name rfl
    exact leftUnmarked name member
  · rintro _ member name rfl
    exact rightUnmarked name member
  · exact (List.cons.inj sameChars).2

/-- Paths without marks in their keys have the same text only if they have the same steps.
So in a document whose members have no marks in their names, different places have
different texts. -/
theorem render_tells_places :
    (∀ left right : FieldPath, left.KeysUnmarked → right.KeysUnmarked →
      left.render = right.render → left.segments = right.segments) ∧
    ∀ document : Json, (∀ name ∈ document.memberNames, Unmarked name) →
      ∀ left right : FieldPath, (left.resolve? document).isSome →
        (right.resolve? document).isSome → left.segments ≠ right.segments →
          left.render ≠ right.render := by
  refine ⟨fun _ _ => segments_eq_of_render_eq, ?_⟩
  intro document unmarked left right leftExists rightExists different same
  apply different
  apply segments_eq_of_render_eq _ _ same
  · exact fun name member => unmarked name (mem_memberNames_of_resolve? leftExists member)
  · exact fun name member => unmarked name (mem_memberNames_of_resolve? rightExists member)

/-- A document with an empty name, a name that ends like an index, and a number for a name. -/
def oddDocument : Json :=
  .object [("", .array [.object [("0]", .null)]]), ("0", .array [.null, .bool true])]

/-- The texts of its places are `$.[0].0]` and `$.0[1]`. -/
theorem render_tells_oddPlaces :
    let left : FieldPath := ⟨[.key "", .index 0, .key "0]"]⟩
    let right : FieldPath := ⟨[.key "0", .index 1]⟩
    (∀ name ∈ oddDocument.memberNames, Unmarked name) ∧
      left.resolve? oddDocument = some .null ∧ right.resolve? oddDocument = some (.bool true) ∧
      left.render ≠ right.render := by
  intro left right
  have unmarked : ∀ name ∈ oddDocument.memberNames, Unmarked name := by decide
  have leftPlace : left.resolve? oddDocument = some .null := by decide
  have rightPlace : right.resolve? oddDocument = some (.bool true) := by decide
  refine ⟨unmarked, leftPlace, rightPlace, ?_⟩
  apply render_tells_places.2 oddDocument unmarked
  · rw [leftPlace]
    rfl
  · rw [rightPlace]
    rfl
  · decide

/-- A mark in a key can pass for the mark of a step. -/
example : FieldPath.render ⟨[.key "a.b"]⟩ = FieldPath.render ⟨[.key "a", .key "b"]⟩ := by decide

end FieldPath

end WorkflowEditor
