import WorkflowEditor.Document
import WorkflowEditor.Proofs.Json.Overwriting
import WorkflowEditor.Proofs.Yaml.KeyNames

/-!
# What a YAML document loses as JSON

The keys of a mapping are compared as YAML values, but its members are put together by
the names of the keys, and of two entries with one name the later one overwrites the
other.  Keys that differ share a name only if one of them is a text that is spelled like
the other, so a document loses nothing exactly when no mapping in it has such a text
among its keys (`Document.parseYaml_keeps_iff`).
-/

namespace WorkflowEditor

namespace Yaml

/-! ## Keeping everything -/

namespace Tree

mutual

/-- The JSON value keeps the tree.  A mapping becomes an object with as many members as
the mapping has entries, which holds under the name of each key what the entry holds. -/
def KeptIn : Tree → Json → Prop
  | .scalar value, json => json = value.toJson
  | .sequence items, json => ∃ values, json = .array values ∧ KeptItems items values
  | .mapping entries, json =>
      ∃ members, json = .object members ∧ members.length = entries.length ∧
        KeptEntries entries members
  | .tagged tag content, json =>
      ∃ value, json = .object [("!" ++ plainTag tag, value)] ∧ KeptIn content value

/-- The values keep the items, one by one. -/
def KeptItems : List Tree → List Json → Prop
  | [], values => values = []
  | item :: rest, values =>
      ∃ value others, values = value :: others ∧ KeptIn item value ∧ KeptItems rest others

/-- The members keep every entry under the name of its key. -/
def KeptEntries : List (Tree × Tree) → Json.Members → Prop
  | [], _ => True
  | (key, content) :: rest, members =>
      (∃ name value, memberName key = .ok name ∧ Keyed.find? name members = some value ∧
        KeptIn content value) ∧
      KeptEntries rest members

end

/-- The tree is, or holds at some depth, a mapping with the entries. -/
inductive Holds : Tree → List (Tree × Tree) → Prop where
  | mapping (entries : List (Tree × Tree)) : Holds (.mapping entries) entries
  | item {items : List Tree} {item : Tree} {entries : List (Tree × Tree)}
      (member : item ∈ items) (inside : Holds item entries) : Holds (.sequence items) entries
  | content {outer entries : List (Tree × Tree)} {entry : Tree × Tree}
      (member : entry ∈ outer) (inside : Holds entry.2 entries) : Holds (.mapping outer) entries
  | tagged (tag : String) {content : Tree} {entries : List (Tree × Tree)}
      (inside : Holds content entries) : Holds (.tagged tag content) entries

end Tree

/-- A text among the keys is spelled like another key, which is a boolean or a number. -/
def KeysClash (entries : List (Tree × Tree)) : Prop :=
  ∃ text other, (∃ content, (.scalar (.text text), content) ∈ entries) ∧
    (∃ content, (.scalar other, content) ∈ entries) ∧
    ¬other.IsText ∧ other.memberName = .ok text

/-- The names of the keys are different. -/
def NamesDiffer (entries : List (Tree × Tree)) : Prop :=
  entries.Pairwise fun earlier later => earlier.1.memberName ≠ later.1.memberName

namespace Tree

variable {entries found : List (Tree × Tree)}

theorem keptIn_array_iff {items : List Tree} {values : List Json} :
    KeptIn (.sequence items) (.array values) ↔ KeptItems items values := by
  constructor
  · rintro ⟨_, ⟨⟩, kept⟩
    exact kept
  · exact fun kept => ⟨_, rfl, kept⟩

theorem keptItems_cons_iff {item : Tree} {rest : List Tree} {value : Json} {others : List Json} :
    KeptItems (item :: rest) (value :: others) ↔ KeptIn item value ∧ KeptItems rest others := by
  constructor
  · rintro ⟨_, _, ⟨⟩, kept⟩
    exact kept
  · exact fun kept => ⟨_, _, rfl, kept⟩

theorem keptIn_object_iff {members : Json.Members} :
    KeptIn (.mapping entries) (.object members) ↔
      members.length = entries.length ∧ KeptEntries entries members := by
  constructor
  · rintro ⟨_, ⟨⟩, kept⟩
    exact kept
  · exact fun kept => ⟨_, rfl, kept⟩

theorem keptIn_tagged_iff {tag : String} {content : Tree} {value : Json} :
    KeptIn (.tagged tag content) (.object [("!" ++ plainTag tag, value)]) ↔
      KeptIn content value := by
  constructor
  · rintro ⟨_, same, kept⟩
    cases same
    exact kept
  · exact fun kept => ⟨_, rfl, kept⟩

theorem not_holds_scalar {value : ScalarValue} : ¬Holds (.scalar value) found := nofun

theorem holds_sequence_iff {items : List Tree} :
    Holds (.sequence items) found ↔ ∃ item ∈ items, item.Holds found := by
  constructor
  · rintro (_ | ⟨member, inside⟩)
    exact ⟨_, member, inside⟩
  · rintro ⟨item, member, inside⟩
    exact .item member inside

theorem holds_mapping_iff :
    Holds (.mapping entries) found ↔
      found = entries ∨ ∃ entry ∈ entries, entry.2.Holds found := by
  constructor
  · intro holds
    cases holds with
    | mapping => exact Or.inl rfl
    | content member inside => exact Or.inr ⟨_, member, inside⟩
  · rintro (rfl | ⟨entry, member, inside⟩)
    · exact .mapping _
    · exact .content member inside

theorem holds_tagged_iff {tag : String} {content : Tree} :
    Holds (.tagged tag content) found ↔ content.Holds found := by
  constructor
  · rintro ⟨⟩
    assumption
  · exact .tagged tag

/-! ## Conversion -/

theorem toRawJson_sequence {items : List Tree} {raw : Json}
    (converted : toRawJson (.sequence items) = .ok raw) :
    ∃ values, itemsToJson items = .ok values ∧ raw = .array values := by
  rw [toRawJson] at converted
  exact exists_of_map_eq_ok converted

theorem toRawJson_mapping {raw : Json} (converted : toRawJson (.mapping entries) = .ok raw) :
    ∃ members, entriesToJson entries = .ok members ∧ raw = .object members := by
  rw [toRawJson] at converted
  exact exists_of_map_eq_ok converted

theorem toRawJson_tagged {tag : String} {content : Tree} {raw : Json}
    (converted : toRawJson (.tagged tag content) = .ok raw) :
    ∃ value, toRawJson content = .ok value ∧ raw = .object [("!" ++ plainTag tag, value)] := by
  rw [toRawJson] at converted
  cases inner : toRawJson content with
  | error error =>
      rw [inner] at converted
      contradiction
  | ok value =>
      rw [inner] at converted
      cases converted
      exact ⟨value, rfl, rfl⟩

theorem itemsToJson_cons {item : Tree} {rest : List Tree} {values : List Json}
    (converted : itemsToJson (item :: rest) = .ok values) :
    ∃ first others, values = first :: others ∧ toRawJson item = .ok first ∧
      itemsToJson rest = .ok others := by
  rw [itemsToJson] at converted
  cases first : toRawJson item with
  | error error =>
      rw [first] at converted
      contradiction
  | ok value =>
      cases others : itemsToJson rest with
      | error error =>
          rw [first, others] at converted
          contradiction
      | ok values =>
          rw [first, others] at converted
          cases converted
          exact ⟨value, values, rfl, rfl, rfl⟩

theorem entriesToJson_cons {key content : Tree} {rest : List (Tree × Tree)}
    {members : Json.Members} (converted : entriesToJson ((key, content) :: rest) = .ok members) :
    ∃ name value others, members = (name, value) :: others ∧ memberName key = .ok name ∧
      toRawJson content = .ok value ∧ entriesToJson rest = .ok others := by
  rw [entriesToJson] at converted
  cases named : memberName key with
  | error error =>
      rw [named] at converted
      contradiction
  | ok name =>
      cases first : toRawJson content with
      | error error =>
          rw [named, first] at converted
          contradiction
      | ok value =>
          cases others : entriesToJson rest with
          | error error =>
              rw [named, first, others] at converted
              contradiction
          | ok members =>
              rw [named, first, others] at converted
              cases converted
              exact ⟨name, value, members, rfl, rfl, rfl, rfl⟩

/-- The members have the names of the keys. -/
theorem map_memberName_eq {members : Json.Members}
    (converted : entriesToJson entries = .ok members) :
    entries.map (fun entry => memberName entry.1) =
      (Json.normalizeMembers members).map fun member => .ok member.1 := by
  induction entries generalizing members with
  | nil =>
      cases converted
      rfl
  | cons entry rest ih =>
      obtain ⟨name, value, others, rfl, named, -, convertedRest⟩ := entriesToJson_cons converted
      rw [List.map_cons, named, ih convertedRest]
      rfl

/-- As many members as entries are left exactly when the names differ. -/
theorem distinct_iff_namesDiffer {members : Json.Members}
    (converted : entriesToJson entries = .ok members) :
    Keyed.Distinct (Json.normalizeMembers members) ↔ NamesDiffer entries := by
  have names := map_memberName_eq converted
  have ofEntries : NamesDiffer entries ↔
      (entries.map fun entry => memberName entry.1).Pairwise (· ≠ ·) :=
    List.pairwise_map.symm
  have ofMembers : Keyed.Distinct (Json.normalizeMembers members) ↔
      ((Json.normalizeMembers members).map fun member =>
        (Except.ok member.1 : Except ConversionError String)).Pairwise (· ≠ ·) := by
    rw [List.pairwise_map]
    simp only [ne_eq, Except.ok.injEq]
    rfl
  rw [ofEntries, ofMembers, names]

theorem length_normalizeMembers {members : Json.Members}
    (converted : entriesToJson entries = .ok members) :
    (Json.normalizeMembers members).length = entries.length := by
  have length := congrArg List.length (map_memberName_eq converted)
  rw [List.length_map, List.length_map] at length
  exact length.symm

mutual

/-- A tree is kept exactly when the names differ in each of its mappings. -/
theorem keptIn_iff : (tree : Tree) → {raw : Json} → toRawJson tree = .ok raw →
    (KeptIn tree raw.normalize ↔ ∀ entries, tree.Holds entries → NamesDiffer entries)
  | .scalar value, raw, converted => by
      cases converted
      have normal : value.toJson.normalize = value.toJson := by
        cases value with
        | float value => cases value <;> rfl
        | _ => rfl
      exact iff_of_true normal fun _ inside => absurd inside not_holds_scalar
  | .sequence items, raw, converted => by
      obtain ⟨raws, convertedItems, rfl⟩ := toRawJson_sequence converted
      rw [Json.normalize, keptIn_array_iff, keptItems_iff items convertedItems]
      simp only [holds_sequence_iff, forall_exists_index, and_imp]
      constructor
      · exact fun differ entries item member => differ item member entries
      · exact fun differ item member entries => differ entries item member
  | .mapping entries, raw, converted => by
      obtain ⟨raws, convertedEntries, rfl⟩ := toRawJson_mapping converted
      let members := Keyed.ofList (Json.normalizeMembers raws)
      have length : members.length = entries.length ↔ NamesDiffer entries := by
        rw [← length_normalizeMembers convertedEntries, Keyed.length_ofList_eq_iff,
          distinct_iff_namesDiffer convertedEntries]
      have inEntries : NamesDiffer entries → (KeptEntries entries members ↔
          ∀ entry ∈ entries, ∀ found, entry.2.Holds found → NamesDiffer found) := by
        intro differ
        have distinct := (distinct_iff_namesDiffer convertedEntries).mpr differ
        refine keptEntries_iff entries convertedEntries fun member inMembers => ?_
        rw [distinct.find?_ofList]
        exact distinct.find?_eq_some_iff.mpr inMembers
      rw [Json.normalize, keptIn_object_iff, length, and_congr_right inEntries]
      simp only [holds_mapping_iff, or_imp, forall_and, forall_eq, forall_exists_index, and_imp]
      refine and_congr_right fun _ => ?_
      constructor
      · exact fun differ found entry member => differ entry member found
      · exact fun differ entry member found => differ found entry member
  | .tagged tag content, raw, converted => by
      obtain ⟨inner, convertedContent, rfl⟩ := toRawJson_tagged converted
      change KeptIn (.tagged tag content) (.object [("!" ++ plainTag tag, inner.normalize)]) ↔ _
      rw [keptIn_tagged_iff, keptIn_iff content convertedContent]
      simp only [holds_tagged_iff]

theorem keptItems_iff : (items : List Tree) → {raws : List Json} → itemsToJson items = .ok raws →
    (KeptItems items (Json.normalizeItems raws) ↔
      ∀ item ∈ items, ∀ entries, item.Holds entries → NamesDiffer entries)
  | [], raws, converted => by
      cases converted
      exact iff_of_true rfl nofun
  | item :: rest, raws, converted => by
      obtain ⟨first, others, rfl, convertedItem, convertedRest⟩ := itemsToJson_cons converted
      rw [List.forall_mem_cons, ← keptIn_iff item convertedItem, ← keptItems_iff rest convertedRest]
      exact keptItems_cons_iff

theorem keptEntries_iff : (entries : List (Tree × Tree)) → {raws : Json.Members} →
    entriesToJson entries = .ok raws → {members : Json.Members} →
    (∀ member ∈ Json.normalizeMembers raws, Keyed.find? member.1 members = some member.2) →
    (KeptEntries entries members ↔
      ∀ entry ∈ entries, ∀ found, entry.2.Holds found → NamesDiffer found)
  | [], raws, converted, members, found => by
      exact iff_of_true trivial nofun
  | (key, content) :: rest, raws, converted, members, found => by
      obtain ⟨name, value, others, rfl, named, convertedContent, convertedRest⟩ :=
        entriesToJson_cons converted
      have ⟨foundContent, foundRest⟩ := List.forall_mem_cons.mp found
      rw [List.forall_mem_cons, ← keptIn_iff content convertedContent,
        ← keptEntries_iff rest convertedRest foundRest, KeptEntries]
      refine and_congr_left fun _ => ?_
      constructor
      · rintro ⟨_, _, sameName, sameValue, kept⟩
        rw [named] at sameName
        cases sameName
        rw [foundContent] at sameValue
        cases sameValue
        exact kept
      · intro kept
        exact ⟨name, _, named, foundContent, kept⟩

end

/-! ## Keys -/

/-- The mappings of a sound tree have different keys, all of them sound. -/
theorem Holds.sound {tree : Tree} (holds : tree.Holds entries) (sound : tree.Sound) :
    KeysDiffer entries ∧ ∀ entry ∈ entries, entry.1.Sound := by
  induction holds with
  | mapping entries =>
      exact ⟨sound.1, fun entry member => (soundEntries_iff.mp sound.2 entry member).1⟩
  | item member _ ih => exact ih (soundItems_iff.mp sound _ member)
  | content member _ ih => exact ih (soundEntries_iff.mp sound.2 _ member).2
  | tagged _ _ ih => exact ih sound

theorem exists_converted_item {items : List Tree} {values : List Json}
    (converted : itemsToJson items = .ok values) {item : Tree} (member : item ∈ items) :
    ∃ value, toRawJson item = .ok value := by
  induction items generalizing values with
  | nil => contradiction
  | cons first rest ih =>
      obtain ⟨value, others, -, convertedFirst, convertedRest⟩ := itemsToJson_cons converted
      rcases List.mem_cons.mp member with rfl | inRest
      · exact ⟨value, convertedFirst⟩
      · exact ih convertedRest inRest

theorem exists_converted_entry {members : Json.Members}
    (converted : entriesToJson entries = .ok members) {entry : Tree × Tree}
    (member : entry ∈ entries) :
    (∃ name, memberName entry.1 = .ok name) ∧ ∃ value, toRawJson entry.2 = .ok value := by
  induction entries generalizing members with
  | nil => contradiction
  | cons first rest ih =>
      obtain ⟨name, value, others, -, named, convertedFirst, convertedRest⟩ :=
        entriesToJson_cons converted
      rcases List.mem_cons.mp member with rfl | inRest
      · exact ⟨⟨name, named⟩, value, convertedFirst⟩
      · exact ih convertedRest inRest

/-- The keys of a tree that has a JSON value have names. -/
theorem Holds.named {tree : Tree} (holds : tree.Holds entries) {raw : Json}
    (converted : toRawJson tree = .ok raw) :
    ∀ entry ∈ entries, ∃ name, memberName entry.1 = .ok name := by
  induction holds generalizing raw with
  | mapping entries =>
      obtain ⟨members, convertedEntries, -⟩ := toRawJson_mapping converted
      exact fun entry member => (exists_converted_entry convertedEntries member).1
  | item member _ ih =>
      obtain ⟨values, convertedItems, -⟩ := toRawJson_sequence converted
      obtain ⟨value, convertedItem⟩ := exists_converted_item convertedItems member
      exact ih convertedItem
  | content member _ ih =>
      obtain ⟨members, convertedEntries, -⟩ := toRawJson_mapping converted
      obtain ⟨-, value, convertedContent⟩ := exists_converted_entry convertedEntries member
      exact ih convertedContent
  | tagged _ _ ih =>
      obtain ⟨value, convertedContent, -⟩ := toRawJson_tagged converted
      exact ih convertedContent

theorem scalar_of_memberName {key : Tree} {name : String} (named : key.memberName = .ok name) :
    ∃ value, key = .scalar value ∧ value.memberName = .ok name := by
  cases key with
  | scalar value => exact ⟨value, rfl, named⟩
  | _ => contradiction

/-- Different keys have different names exactly when no text is spelled like another key. -/
theorem namesDiffer_iff (differ : KeysDiffer entries) (sound : ∀ entry ∈ entries, entry.1.Sound)
    (named : ∀ entry ∈ entries, ∃ name, entry.1.memberName = .ok name) :
    NamesDiffer entries ↔ ¬KeysClash entries := by
  constructor
  · rintro namesDiffer ⟨text, other, ⟨content, member⟩, ⟨otherContent, otherMember⟩, plain, spelled⟩
    have symmetric : Std.Symm fun earlier later : Tree × Tree =>
        earlier.1.memberName ≠ later.1.memberName := ⟨fun _ _ => Ne.symm⟩
    refine List.Pairwise.forall namesDiffer member otherMember ?_ spelled.symm
    rintro ⟨⟩
    exact plain ⟨text, rfl⟩
  · intro noClash
    refine List.Pairwise.imp_of_mem ?_ differ
    rintro ⟨key, content⟩ ⟨otherKey, otherContent⟩ member otherMember different sameName
    obtain ⟨name, keyNamed⟩ := named _ member
    obtain ⟨value, rfl, valueNamed⟩ := scalar_of_memberName keyNamed
    obtain ⟨other, rfl, otherNamed⟩ := scalar_of_memberName (sameName.symm.trans keyNamed)
    refine absurd ?_ (Bool.eq_false_iff.mp different)
    by_cases isText : value.IsText <;> by_cases otherIsText : other.IsText
    · obtain ⟨text, rfl⟩ := isText
      obtain ⟨otherText, rfl⟩ := otherIsText
      cases valueNamed
      cases otherNamed
      exact beq_self_eq_true _
    · obtain ⟨text, rfl⟩ := isText
      cases valueNamed
      exact absurd ⟨name, other, ⟨_, member⟩, ⟨_, otherMember⟩, otherIsText, otherNamed⟩ noClash
    · obtain ⟨text, rfl⟩ := otherIsText
      cases otherNamed
      exact absurd ⟨name, value, ⟨_, otherMember⟩, ⟨_, member⟩, isText, valueNamed⟩ noClash
    · exact ScalarValue.same_of_memberName_eq (sound _ member) (sound _ otherMember) isText
        otherIsText valueNamed otherNamed

end Tree

end Yaml

namespace Document

open Yaml (Tree KeysClash)

/-- A YAML text that is accepted is kept as JSON, every entry of every mapping, exactly
when no mapping in it has a text among its keys that is spelled like another key. -/
theorem parseYaml_keeps_iff {text : String} {value : Json}
    (accepted : parseYaml text = .ok value) :
    ∃ tree, Yaml.parse text = .ok tree ∧
      (tree.KeptIn value ↔ ∀ entries, tree.Holds entries → ¬KeysClash entries) := by
  obtain ⟨tree, parsed, converted⟩ := tree_of_parseYaml accepted
  obtain ⟨raw, convertedRaw, rfl⟩ := Tree.exists_of_map_eq_ok converted
  have sound := Yaml.sound_of_parse parsed
  refine ⟨tree, parsed, (Tree.keptIn_iff tree convertedRaw).trans ?_⟩
  refine forall_congr' fun entries => imp_congr_right fun holds => ?_
  have ⟨differ, keysSound⟩ := holds.sound sound
  exact Tree.namesDiffer_iff differ keysSound (holds.named convertedRaw)

/-! ## An entry that is lost -/

/-- A mapping with a number and a text that is spelled like it among its keys. -/
def clashingText : String := "1: a\n\"1\": b"

/-- The text is read as a mapping of two entries, whose keys are the number and the text. -/
def isClashing : Except Yaml.ParseError Tree → Bool
  | .ok (.mapping [(.scalar (.integer 1), _), (.scalar (.text text), _)]) => text == "1"
  | _ => false

theorem exists_clashing_of_isClashing {outcome : Except Yaml.ParseError Tree}
    (clashing : isClashing outcome = true) :
    ∃ entries, outcome = .ok (.mapping entries) ∧ entries.length = 2 ∧ KeysClash entries := by
  unfold isClashing at clashing
  split at clashing
  next first text second =>
      cases eq_of_beq clashing
      refine ⟨_, rfl, rfl, "1", .integer 1, ?_, ?_, nofun, rfl⟩
      · exact ⟨second, List.mem_cons_of_mem _ (List.mem_singleton_self _)⟩
      · exact ⟨first, List.mem_cons_self⟩
  next => exact absurd clashing Bool.false_ne_true

theorem parse_clashingText :
    ∃ entries, Yaml.parse clashingText = .ok (.mapping entries) ∧ entries.length = 2 ∧
      KeysClash entries :=
  exists_clashing_of_isClashing (by decide +kernel)

theorem parseYaml_clashingText :
    parseYaml clashingText = .ok (.object [("1", .string "b")]) := by
  decide +kernel

/-- The text with clashing keys is accepted, and the first of its entries is lost. -/
theorem parseYaml_keeps_clashingText :
    ∃ tree, Yaml.parse clashingText = .ok tree ∧
      parseYaml clashingText = .ok (.object [("1", .string "b")]) ∧
      ¬tree.KeptIn (.object [("1", .string "b")]) := by
  obtain ⟨tree, parsed, kept⟩ := parseYaml_keeps_iff parseYaml_clashingText
  obtain ⟨entries, parsedMapping, -, clash⟩ := parse_clashingText
  cases Except.ok.inj (parsed.symm.trans parsedMapping)
  refine ⟨_, parsed, parseYaml_clashingText, fun keptIn => ?_⟩
  exact kept.mp keptIn entries (.mapping entries) clash

/-- Not every text that is accepted is kept. -/
theorem not_forall_kept :
    ¬∀ text value, parseYaml text = .ok value →
      ∃ tree, Yaml.parse text = .ok tree ∧ tree.KeptIn value := by
  intro everyKept
  obtain ⟨tree, parsed, keptIn⟩ := everyKept _ _ parseYaml_clashingText
  obtain ⟨entries, parsedMapping, two, -⟩ := parse_clashingText
  cases Except.ok.inj (parsed.symm.trans parsedMapping)
  have one : 1 = entries.length := (Tree.keptIn_object_iff.mp keptIn).1
  omega

end Document

end WorkflowEditor
