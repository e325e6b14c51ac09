import Kurobara.Kernel.Step.Conclusion

/-! # Materialized steps

When the aggregate lets a step be scheduled and when it lets it be skipped.
-/

namespace Kurobara.Kernel

theorem sortedDistinct_mem {keys : List String} {key : String} :
    key ∈ sortedDistinct keys ↔ key ∈ keys := by
  rw [sortedDistinct, (List.mergeSort_perm _ _).mem_iff, List.mem_dedup]

theorem sortedDistinct_nodup (keys : List String) : (sortedDistinct keys).Nodup :=
  (List.mergeSort_perm _ _).nodup_iff.mpr (List.nodup_dedup keys)

/-- Keys are unique when none is lost with their repetitions. -/
theorem sortedDistinct_length_iff {keys : List String} :
    (sortedDistinct keys).length = keys.length ↔ keys.Nodup := by
  rw [sortedDistinct, (List.mergeSort_perm _ _).length_eq]
  constructor
  · intro same
    rw [← (List.dedup_sublist keys).eq_of_length same]
    exact List.nodup_dedup keys
  · intro distinct
    rw [distinct.dedup]

/-- Distinct dependencies that are named. -/
structure BlockingIsEvident (blockedByNodeKeys dependsOn : List String) : Prop where
  required : blockedByNodeKeys ≠ []
  distinct : blockedByNodeKeys.Nodup
  named : ∀ key ∈ blockedByNodeKeys, nonBlank key = true
  known : ∀ key ∈ blockedByNodeKeys, key ∈ dependsOn

/-- **When a step is skipped.** -/
theorem skipStep_accepts_iff {input : SkipStepInput} :
    (∃ decision, skipStep input = .ok decision) ↔
      input.runState = .running ∧ nonBlank input.nodeKey = true ∧
        BlockingIsEvident input.blockedByNodeKeys input.dependsOn := by
  constructor
  · rintro ⟨decision, accepted⟩
    simp only [skipStep] at accepted
    split at accepted
    · cases accepted
    rename_i running
    split at accepted
    · cases accepted
    rename_i node
    split at accepted
    · cases accepted
    rename_i required
    split at accepted
    · cases accepted
    rename_i valid
    split at accepted
    · cases accepted
    rename_i known
    simp only [bne_iff_ne, ne_eq, not_not, Bool.not_eq_true', Bool.not_eq_false, Bool.or_eq_true,
      not_or, List.any_eq_true, not_exists, not_and, sortedDistinct_mem, List.isEmpty_iff,
      List.contains_iff_mem, sortedDistinct_length_iff] at running node required valid known
    exact ⟨running, node, required, valid.1, valid.2, known⟩
  · rintro ⟨running, node, evident⟩
    have unnamed : (sortedDistinct input.blockedByNodeKeys).any (!nonBlank ·) = false := by
      rw [List.any_eq_false]
      intro key member
      simp [evident.named key (sortedDistinct_mem.mp member)]
    refine ⟨skippedStep input (sortedDistinct input.blockedByNodeKeys), ?_⟩
    simp only [skipStep, running, node, evident.required, unnamed,
      sortedDistinct_length_iff.mpr evident.distinct, bne_self_eq_false, Bool.not_true,
      List.isEmpty_iff, Bool.or_false, Bool.false_eq_true, if_false, List.any_eq_true,
      Bool.not_eq_true', List.contains_eq_mem, decide_eq_false_iff_not]
    refine if_neg ?_
    rintro ⟨key, member, unknown⟩
    exact unknown (evident.known key (sortedDistinct_mem.mp member))

/-- **When a step is scheduled**, with all its dependencies satisfied. -/
theorem scheduleStep_accepts_iff {input : ScheduleStepInput}
    (satisfied : input.satisfiedDependencies = input.dependsOn) :
    (∃ decision, scheduleStep input = .ok decision) ↔
      input.runState = .running ∧ nonBlank input.nodeKey = true := by
  constructor
  · rintro ⟨decision, accepted⟩
    simp only [scheduleStep] at accepted
    split at accepted
    · cases accepted
    rename_i running
    split at accepted
    · cases accepted
    rename_i node
    simp only [bne_iff_ne, ne_eq, not_not, Bool.not_eq_true', Bool.not_eq_false] at running node
    exact ⟨running, node⟩
  · rintro ⟨running, node⟩
    exact ⟨scheduledStep input, by simp [scheduleStep, running, node, satisfied]⟩

/-- A step that takes a command is not terminal. -/
theorem StepMove.not_terminal {stepRun : StepRun} {command : StepCommand}
    {planned : StepTransitionPlan} (move : StepMove stepRun command planned) :
    terminalStepState stepRun.state = false := by
  cases move with
  | claimed preparation attempt details ready => simp [ready, terminalStepState]
  | moved attempt replacement details command state member active stepState =>
      rw [stepState]
      cases attempt.state <;> rfl
  | parked details command state inactive before =>
      rcases before with before | before <;> simp [before, terminalStepState]

end Kurobara.Kernel
