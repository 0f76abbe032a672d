import Mathlib.Data.List.Basic
import WorkflowEditor.Command.Report

/-!
# The lines of a report

A report of records is split at its line breaks.  Joining records and splitting them
again gives the lines of each record, one record after the other
(`Report.lines_ofLines`), so there is a line for each record exactly when no record
holds a line break (`Report.length_lines_ofLines`).
-/

namespace WorkflowEditor

namespace Text

/-- The text holds no line break. -/
def OneLine (text : String) : Prop := '\n' ∉ text.toList

instance (text : String) : Decidable (OneLine text) := inferInstanceAs (Decidable (_ ∉ _))

variable {left right text : String}

theorem oneLine_append : OneLine (left ++ right) ↔ OneLine left ∧ OneLine right := by
  rw [OneLine, String.toList_append, List.mem_append, not_or]
  rfl

theorem oneLine_ofList {chars : List Char} : OneLine (String.ofList chars) ↔ '\n' ∉ chars := by
  rw [OneLine, String.toList_ofList]

/-- An optional piece of a text. -/
theorem oneLine_elim {α : Type} {value? : Option α} {write : α → String} :
    OneLine (value?.elim "" write) ↔ ∀ value, value? = some value → OneLine (write value) := by
  cases value? with
  | none => exact iff_of_true List.not_mem_nil nofun
  | some value => simp

theorem oneLine_toString (value : Nat) : OneLine (toString value) := by
  rw [OneLine, Nat.toString_eq_repr, Nat.toList_repr]
  intro member
  have digit := Nat.isDigit_of_mem_toDigits (by decide) (by decide) member
  contradiction

theorem oneLine_intercalate {separator : String} (apart : OneLine separator)
    {pieces : List String} :
    OneLine (separator.intercalate pieces) ↔ ∀ piece ∈ pieces, OneLine piece := by
  induction pieces with
  | nil => exact iff_of_true List.not_mem_nil nofun
  | cons first rest ih =>
      cases rest with
      | nil => rw [String.intercalate_singleton, List.forall_mem_singleton]
      | cons second rest =>
          rw [String.intercalate_cons_cons, oneLine_append, oneLine_append, and_iff_left apart,
            ih, ← List.forall_mem_cons]

end Text

namespace Report

open Text (OneLine)

/-- The lines of a report; an empty report has none. -/
def lines (report : String) : List String :=
  if report = "" then [] else (report.toList.splitOn '\n').map String.ofList

variable {record : String} {records : List String}

theorem lines_of_ne (filled : record ≠ "") :
    lines record = (record.toList.splitOn '\n').map String.ofList := if_neg filled

theorem lines_ne_nil (filled : record ≠ "") : lines record ≠ [] := by
  rw [lines_of_ne filled, ne_eq, List.map_eq_nil_iff]
  exact List.splitOn_ne_nil _ _

theorem lines_of_oneLine (filled : record ≠ "") (oneLine : OneLine record) :
    lines record = [record] := by
  rw [lines_of_ne filled, List.splitOn_eq_singleton oneLine, List.map_singleton,
    String.ofList_toList]

/-- A record without a line break is a line, and any other takes up several. -/
theorem length_lines_eq_one_iff (filled : record ≠ "") :
    (lines record).length = 1 ↔ OneLine record := by
  constructor
  · intro single broken
    obtain ⟨before, after, split⟩ := List.append_of_mem broken
    have first := List.length_pos_iff.mpr (List.splitOn_ne_nil '\n' before)
    have second := List.length_pos_iff.mpr (List.splitOn_ne_nil '\n' after)
    rw [lines_of_ne filled, List.length_map, split, List.splitOn_append_cons_self,
      List.length_append] at single
    omega
  · intro oneLine
    rw [lines_of_oneLine filled oneLine, List.length_singleton]

/-- Splitting joined pieces is splitting each of them. -/
theorem splitOn_intercalate_eq_flatMap {α : Type} [BEq α] [LawfulBEq α] (separator : α)
    {pieces : List (List α)} (nonempty : pieces ≠ []) :
    ([separator].intercalate pieces).splitOn separator =
      pieces.flatMap (List.splitOn separator) := by
  induction pieces with
  | nil => contradiction
  | cons first rest ih =>
      cases rest with
      | nil => rw [List.intercalate_singleton, List.flatMap_singleton]
      | cons second rest =>
          rw [List.intercalate_cons_cons, List.append_assoc, List.singleton_append,
            List.splitOn_append_cons_self, ih (List.cons_ne_nil _ _)]
          rfl

theorem ofLines_eq_empty_iff (filled : ∀ record ∈ records, record ≠ "") :
    ofLines records = "" ↔ records = [] := by
  cases records with
  | nil => exact iff_of_true rfl rfl
  | cons first rest =>
      have started := filled first List.mem_cons_self
      refine iff_of_false (fun empty => ?_) (List.cons_ne_nil _ _)
      rw [ofLines] at empty
      cases rest with
      | nil => exact started (by rwa [String.intercalate_singleton] at empty)
      | cons second rest =>
          rw [String.intercalate_cons_cons] at empty
          have chars := congrArg String.toList empty
          simp at chars

/-- The lines of joined records are the lines of each, one record after the other. -/
theorem lines_ofLines (filled : ∀ record ∈ records, record ≠ "") :
    lines (ofLines records) = records.flatMap lines := by
  by_cases empty : records = []
  · subst empty
    rfl
  · have each : records.flatMap lines =
        records.flatMap fun record => (record.toList.splitOn '\n').map String.ofList :=
      List.flatMap_congr fun record member => lines_of_ne (filled record member)
    have chars : (ofLines records).toList = ['\n'].intercalate (records.map String.toList) :=
      String.toList_intercalate
    rw [lines_of_ne (mt (ofLines_eq_empty_iff filled).mp empty), chars,
      splitOn_intercalate_eq_flatMap _ (mt List.map_eq_nil_iff.mp empty), each, List.map_flatMap,
      List.flatMap_map]

/-- Records that take up a line each are the lines. -/
theorem lines_ofLines_of_oneLine (filled : ∀ record ∈ records, record ≠ "")
    (oneLine : ∀ record ∈ records, OneLine record) : lines (ofLines records) = records := by
  calc lines (ofLines records)
      = records.flatMap lines := lines_ofLines filled
    _ = records.flatMap fun record => [record] :=
        List.flatMap_congr fun record member =>
          lines_of_oneLine (filled record member) (oneLine record member)
    _ = records := List.flatMap_singleton' records

/-- There is a line for each record exactly when no record holds a line break; there
are never fewer lines than records. -/
theorem length_lines_ofLines (filled : ∀ record ∈ records, record ≠ "") :
    records.length ≤ (lines (ofLines records)).length ∧
      ((lines (ofLines records)).length = records.length ↔
        ∀ record ∈ records, OneLine record) := by
  rw [lines_ofLines filled]
  induction records with
  | nil => exact ⟨Nat.le_refl _, iff_of_true rfl nofun⟩
  | cons first rest ih =>
      have ⟨firstFilled, restFilled⟩ := List.forall_mem_cons.mp filled
      have ⟨enough, exact⟩ := ih restFilled
      have some := List.length_pos_iff.mpr (lines_ne_nil firstFilled)
      rw [List.flatMap_cons, List.length_append, List.length_cons, List.forall_mem_cons,
        ← length_lines_eq_one_iff firstFilled, ← exact]
      omega

end Report

end WorkflowEditor
