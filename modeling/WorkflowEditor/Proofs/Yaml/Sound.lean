import WorkflowEditor.Proofs.Decimal.Canonical
import WorkflowEditor.Yaml.Document

/-!
# What is read from YAML text

A tree that is read from a text has no mapping with one key twice, at any depth, and its
floats are canonical (`Yaml.sound_of_parse`).  Reading is a computation with a position,
so the proof follows what computations yield: a computation yields sound trees when every
step of it does.
-/

namespace WorkflowEditor

namespace Yaml

/-! ## Sound trees -/

/-- A scalar's float is canonical, if it is a finite one. -/
def ScalarValue.Canonical : ScalarValue → Prop
  | .float (.finite value) => value.Canonical
  | _ => True

/-- The keys of the entries are different values. -/
def KeysDiffer (entries : List (Tree × Tree)) : Prop :=
  entries.Pairwise fun earlier later => earlier.1.same later.1 = false

namespace Tree

mutual

/-- The keys of every mapping are different values, and every float is canonical. -/
def Sound : Tree → Prop
  | .scalar value => value.Canonical
  | .sequence items => SoundItems items
  | .mapping entries => KeysDiffer entries ∧ SoundEntries entries
  | .tagged _ content => Sound content

/-- Every item is sound. -/
def SoundItems : List Tree → Prop
  | [] => True
  | item :: rest => Sound item ∧ SoundItems rest

/-- Every key and every value is sound. -/
def SoundEntries : List (Tree × Tree) → Prop
  | [] => True
  | (key, value) :: rest => (Sound key ∧ Sound value) ∧ SoundEntries rest

end

theorem soundItems_iff {items : List Tree} : SoundItems items ↔ ∀ item ∈ items, item.Sound := by
  induction items with
  | nil => exact iff_of_true trivial nofun
  | cons item rest ih => rw [SoundItems, List.forall_mem_cons, ih]

theorem soundEntries_iff {entries : List (Tree × Tree)} :
    SoundEntries entries ↔ ∀ entry ∈ entries, entry.1.Sound ∧ entry.2.Sound := by
  induction entries with
  | nil => exact iff_of_true trivial nofun
  | cons entry rest ih => rw [SoundEntries, List.forall_mem_cons, ih]

theorem keysDiffer_append_singleton {done : List (Tree × Tree)} {entry : Tree × Tree}
    (differ : KeysDiffer done) (fresh : hasKey done entry.1 = false) :
    KeysDiffer (done ++ [entry]) := by
  refine List.pairwise_append.mpr ⟨differ, List.pairwise_singleton _ _, ?_⟩
  intro earlier member later last
  cases List.mem_singleton.mp last
  simpa using List.any_eq_false.mp fresh earlier member

end Tree

/-! ## Scalars -/

namespace Scalar

variable {chars : List Char}

theorem canonical_of_ofDecimal? {negative : Bool} {significand : Nat} {power : Int}
    {value : Double} (read : ofDecimal? negative significand power = some value) :
    value.Canonical := by
  rw [ofDecimal?] at read
  split at read
  · cases read
    exact Double.canonical_zero negative
  · split at read
    · contradiction
    · split at read
      · exact Double.canonical_of_ofRatio Nat.one_pos read
      · exact Double.canonical_of_ofRatio (Nat.pow_pos (by decide)) read

theorem canonical_of_double? {value : Double} (read : double? chars = some value) :
    value.Canonical := by
  rw [double?] at read
  dsimp only at read
  obtain ⟨-, written⟩ := Option.ite_none_left_eq_some.mp read
  obtain ⟨exponent, -, decimal⟩ := Option.bind_eq_some_iff.mp written
  exact canonical_of_ofDecimal? decimal

theorem canonical_of_float? {value : FloatValue} (read : float? chars = some value) :
    (ScalarValue.float value).Canonical := by
  obtain ⟨unsigned, -, read⟩ := Option.bind_eq_some_iff.mp read
  dsimp only at read
  split at read
  · cases read
    trivial
  · split at read
    · cases read
      trivial
    · split at read
      · cases read
        trivial
      · obtain ⟨double, doubleRead, rfl⟩ := Option.map_eq_some_iff.mp read
        exact canonical_of_double? doubleRead

theorem canonical_of_checked {integer : Int} {value : ScalarValue}
    (read : checked integer = .ok value) : value.Canonical := by
  rw [checked] at read
  split at read
  · cases read
    trivial
  · contradiction

theorem canonical_of_resolve {value : ScalarValue} (read : resolve chars = .ok value) :
    value.Canonical := by
  rw [resolve] at read
  split at read
  · cases read
    trivial
  · split at read
    · cases read
      trivial
    · exact canonical_of_checked read
    · split at read
      next float found =>
          cases read
          split at found
          · contradiction
          · exact canonical_of_float? found
      next =>
          cases read
          trivial

theorem canonical_of_ofKind {kind : ScalarKind} {value : ScalarValue}
    (read : ofKind kind chars = .ok value) : value.Canonical := by
  cases kind with
  | bool =>
      cases found : bool? chars <;>
        simp only [ofKind, found, Option.map_none, Option.map_some, reduceCtorEq,
          Except.ok.injEq] at read
      exact read ▸ trivial
  | integer =>
      cases found : integer? chars <;>
        simp only [ofKind, found, Option.map_none, Option.map_some, reduceCtorEq] at read
      exact canonical_of_checked read
  | float =>
      cases found : float? chars <;>
        simp only [ofKind, found, Option.map_none, Option.map_some, reduceCtorEq,
          Except.ok.injEq] at read
      exact read ▸ canonical_of_float? found
  | null =>
      cases found : isNull chars <;>
        simp only [ofKind, found, Bool.false_eq_true, if_false, if_true, reduceCtorEq,
          Except.ok.injEq] at read
      exact read ▸ trivial

/-- The float of a scalar is canonical. -/
theorem canonical_of_value {tag? : Option Tag} {style : ScalarStyle} {value : ScalarValue}
    (read : Scalar.value tag? style chars = .ok value) : value.Canonical := by
  have text : ∀ {value : ScalarValue},
      (Except.ok (.text (String.ofList chars)) : Except ScalarFault ScalarValue) = .ok value →
        value.Canonical := by
    rintro _ ⟨⟩
    trivial
  unfold Scalar.value at read
  split at read
  · exact canonical_of_ofKind read
  · split at read
    · exact canonical_of_resolve read
    · exact text read
  · split at read
    · exact canonical_of_resolve read
    · exact text read

end Scalar

/-! ## Computations -/

namespace TreeReader

variable {α β : Type}

/-- Whatever the computation gives is of the kind. -/
def Yields (kind : α → Prop) (reader : TreeReader α) : Prop :=
  ∀ document progress outcome after,
    reader document progress = .ok (outcome, after) → kind outcome

variable {kind : α → Prop} {other : β → Prop}

theorem yields_pure {outcome : α} (holds : kind outcome) :
    Yields kind (pure outcome : TreeReader α) := by
  rintro document progress _ _ ⟨⟩
  exact holds

theorem yields_throw (error : ParseError) : Yields kind (throw error : TreeReader α) := by
  rintro document progress _ _ ⟨⟩

/-- What follows a step may rely on the kind that the step yields. -/
theorem yields_bind {first : TreeReader β} {next : β → TreeReader α} (before : Yields other first)
    (after : ∀ outcome, other outcome → Yields kind (next outcome)) :
    Yields kind (first >>= next) := by
  intro document progress outcome last run
  change (first document progress >>= fun step => next step.1 document step.2) = _ at run
  cases started : first document progress with
  | error error =>
      rw [started] at run
      contradiction
  | ok step =>
      rw [started] at run
      exact after step.1 (before _ _ _ _ started) document step.2 outcome last run

/-- Most steps are nothing to rely on. -/
theorem yields_then {first : TreeReader β} {next : β → TreeReader α}
    (after : ∀ outcome, Yields kind (next outcome)) : Yields kind (first >>= next) := by
  have anything : Yields (fun _ => True) first := fun _ _ _ _ _ => trivial
  exact yields_bind anything fun outcome _ => after outcome

/-- What follows a refusal may rely on its not having happened. -/
theorem yields_unless {refused : Prop} [Decidable refused] {error : ParseError}
    {next : PUnit → TreeReader α} (yields : ¬refused → Yields kind (next ⟨⟩)) :
    Yields kind (if refused then throw error >>= next else next ⟨⟩) := by
  split
  next =>
      have nothing : Yields (fun _ => False) (throw error : TreeReader PUnit) := yields_throw error
      exact yields_bind nothing fun _ impossible => impossible.elim
  next accepted => exact yields accepted

/-! ## Nodes -/

theorem yields_jump (anchor : Nat) {reader : TreeReader α} (yields : Yields kind reader) :
    Yields kind (jump anchor reader) := by
  rw [jump]
  refine yields_then fun document => yields_then fun _ => yields_then fun progress => ?_
  refine yields_unless fun _ => yields_then fun _ => ?_
  refine yields_bind yields fun found foundGood => yields_then fun _ => ?_
  exact yields_pure foundGood

/-- The items are of the kind of an item. -/
theorem yields_items {item : Path → TreeReader Tree} {path : Path} {good : Tree → Prop}
    (yields : ∀ path, Yields good (item path)) (fuel position : Nat) :
    Yields (fun found => ∀ tree ∈ found, good tree) (items item path fuel position) := by
  induction fuel generalizing position with
  | zero => exact yields_pure nofun
  | succ fuel ih =>
      rw [items]
      refine yields_then fun next => ?_
      split
      next => exact yields_then fun _ => yields_pure nofun
      next =>
          refine yields_bind (yields _) fun first firstGood => ?_
          refine yields_bind (ih (position + 1)) fun rest restGood => ?_
          exact yields_pure (List.forall_mem_cons.mpr ⟨firstGood, restGood⟩)

/-- Entries with different keys. -/
def GoodEntries (entries : List (Tree × Tree)) : Prop :=
  KeysDiffer entries ∧ ∀ entry ∈ entries, entry.1.Sound ∧ entry.2.Sound

/-- A key is only taken in after it has been looked for among those before it. -/
theorem yields_entries {key : TreeReader Tree} {value : Path → TreeReader Tree} {path : Path}
    {start : Mark} (keys : Yields Tree.Sound key) (values : ∀ path, Yields Tree.Sound (value path))
    (fuel : Nat) {done : List (Tree × Tree)} (good : GoodEntries done) :
    Yields GoodEntries (entries key value path start fuel done) := by
  induction fuel generalizing done with
  | zero => exact yields_pure good
  | succ fuel ih =>
      rw [entries]
      refine yields_then fun next => ?_
      split
      next => exact yields_then fun _ => yields_pure good
      next =>
          refine yields_bind keys fun found foundSound => ?_
          refine yields_unless fun fresh => ?_
          refine yields_bind (values _) fun content contentSound => ih ⟨?_, ?_⟩
          · exact Tree.keysDiffer_append_singleton good.1 (Bool.eq_false_iff.mpr fresh)
          · rw [List.forall_mem_append, List.forall_mem_singleton]
            exact ⟨good.2, foundSound, contentSound⟩

theorem sound_withTag {isTagged : Bool} {tag? : Option Tag} {content : Tree}
    (sound : content.Sound) : (withTag isTagged tag? content).Sound := by
  rw [withTag]
  split
  next => exact sound
  next => cases localTag? tag? <;> exact sound

theorem yields_scalar {isTagged : Bool} {tag? : Option Tag} {style : ScalarStyle}
    {text : List Char} {path : Path} {place : Mark} :
    Yields Tree.Sound (scalar isTagged tag? style text path place) := by
  rw [scalar]
  split
  next value read => exact yields_pure (sound_withTag (Scalar.canonical_of_value read))
  next => exact yields_throw _

theorem yields_node {read : NodeReader}
    (yields : ∀ isTagged path event place, Yields Tree.Sound (read isTagged path event place))
    (isTagged : Bool) (path : Path) : Yields Tree.Sound (node read isTagged path) := by
  rw [node]
  refine yields_then fun next => ?_
  dsimp only
  split
  next =>
      refine yields_then fun _ => yields_jump _ (yields_then fun target => ?_)
      exact yields _ _ _ _
  next => exact yields _ _ _ _

/-- Every node that is read is sound, by induction on the levels that may be opened. -/
theorem yields_nodeFrom (depth : Nat) (isTagged : Bool) (path : Path) (event : NodeEvent)
    (place : Mark) : Yields Tree.Sound (nodeFrom depth isTagged path event place) := by
  induction depth generalizing isTagged path event place with
  | zero =>
      cases event with
      | scalar tag? style text => exact yields_then fun _ => yields_scalar
      | _ => exact yields_throw _
  | succ depth ih =>
      cases event with
      | scalar tag? style text => exact yields_then fun _ => yields_scalar
      | sequenceStart tag? =>
          rw [nodeFrom]
          refine yields_then fun _ => yields_then fun document => ?_
          refine yields_bind (yields_items (yields_node ih false) _ _) fun found good => ?_
          exact yields_pure (sound_withTag (Tree.soundItems_iff.mpr good))
      | mappingStart tag? =>
          rw [nodeFrom]
          refine yields_then fun _ => yields_then fun document => ?_
          have start : GoodEntries [] := ⟨List.Pairwise.nil, nofun⟩
          refine yields_bind (yields_entries (yields_node ih _ _) (yields_node ih false) _ start)
            fun found good => ?_
          exact yields_pure (sound_withTag ⟨good.1, Tree.soundEntries_iff.mpr good.2⟩)
      | _ => exact yields_throw _

end TreeReader

/-! ## Texts -/

/-- What is read from a text is sound. -/
theorem sound_of_parse {text : String} {tree : Tree} (parsed : parse text = .ok tree) :
    tree.Sound := by
  rw [parse, Document.tree] at parsed
  have yields := TreeReader.yields_node (TreeReader.yields_nodeFrom nestingLimit) false []
  generalize Document.ofText text = document at parsed
  cases run : TreeReader.node (TreeReader.nodeFrom nestingLimit) false [] document ⟨0, 0⟩ with
  | error error =>
      simp only [ReaderT.run, StateT.run, run] at parsed
      contradiction
  | ok outcome =>
      have sound := yields _ _ _ _ run
      simp only [ReaderT.run, StateT.run, run, bind, Except.bind] at parsed
      split at parsed
      next => contradiction
      next =>
          split at parsed
          next => contradiction
          next =>
              cases parsed
              exact sound

end Yaml

end WorkflowEditor
