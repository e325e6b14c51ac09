import Kurobara.Application.PlayRunInterleaving
import Kurobara.Application.GtmPlayExecutor
import Kurobara.Foundation.Funding
import Mathlib.Tactic.Linarith
import Mathlib.Tactic.Ring

/-! # What a Play run spends

The child generations of a Play run, started by any worker from any version of the run it
read. A child spends at most the budget it was requested with and makes at most the calls it
was planned with. The budget requested for a stage is what the earlier ones left of the
Play's limit, but never less than a floor, so the run stays within its limit as long as each
stage starts while the floor is left.
-/

namespace Kurobara.Application

open Kurobara.Kernel Kurobara.Persistence Kurobara.Foundation

/-- A child generation: what it was asked for, and what it spent and called so far. -/
structure PlayChild where
  ordinal : ℕ
  request : ChildRequest
  spent : Amount
  calls : ℚ
  completed : Bool
deriving DecidableEq, Repr

/-- A run, its earlier versions, which a worker may still work on, and its children. -/
structure PlaySpendingState where
  run : StoredGtmPlayRun
  earlier : List StoredGtmPlayRun
  children : List PlayChild

/-- Every version of the run there has been, the current one first. -/
def PlaySpendingState.versions (state : PlaySpendingState) : List StoredGtmPlayRun :=
  state.run :: state.earlier

/-- The child after a settled call: its spending and its calls have grown. -/
def PlayChild.settle (child : PlayChild) (amount : Amount) (calls : ℚ) : PlayChild :=
  { child with
    spent := child.spent + amount
    calls := child.calls + calls }

/-- The child once it takes no further calls. -/
def PlayChild.finish (child : PlayChild) : PlayChild :=
  { child with completed := true }

/-- What a snapshot reports of the child of its stage. -/
structure SnapshotReports (children : List PlayChild) (run : StoredGtmPlayRun)
    (stage : GtmPlayRunStageReceipt) (snapshot : GtmPlayGenerationSnapshot) : Prop where
  completed : snapshot.state = .completed → ∃ child ∈ children, child.ordinal = stage.ordinal ∧
    child.completed = true ∧ snapshot.cost.spent = child.spent
  selected : ∀ recordIds, snapshot.selectedRecordIds = some recordIds →
    ∃ listing contactStage, selectContactRecords listing run contactStage = some recordIds

/-- What the executor answers for the current stage of a run, or nothing. -/
def capturedSnapshot (effects : PlayStageEffects) (run : StoredGtmPlayRun)
    (current : GtmPlayRunStageReceipt) : Option GtmPlayGenerationSnapshot :=
  if current.state = .pending then effects.startStage run current
  else effects.inspectGeneration run current

/-- What happens around one Play run: a stage starts a child, a child spends, a child finishes, the
run advances. -/
inductive PlaySpendingEvent where
  | start (version : StoredGtmPlayRun)
  | spend
  | finish
  | advance

/-- The steps of the workers on one run: the child of a pending stage is created once, from
any version of the run; it spends and calls within its request until it completes; and the
run advances on what the executor reports of the children. -/
inductive PlaySpendingStep (stableSuffix : StoredGtmPlayRun → GtmPlayRunStageReceipt → String) :
    PlaySpendingState → PlaySpendingEvent → PlaySpendingState → Prop where
  | start {state : PlaySpendingState} {version : StoredGtmPlayRun}
      {stage : GtmPlayRunStageReceipt} {listing : ContactListing} {request : ChildRequest} :
      version ∈ state.versions → currentStage version.execution.stages = some stage →
      stage.state = .pending → stage.operationId ≠ "workbooks.project" →
      (∀ child ∈ state.children, child.ordinal ≠ stage.ordinal) →
      childRequest (stableSuffix version stage) version stage listing = some request →
      PlaySpendingStep stableSuffix state (.start version)
        { state with
          children := state.children ++
            [{ ordinal := stage.ordinal
               request := request
               spent := 0
               calls := 0
               completed := false }] }
  | spend {state : PlaySpendingState} {before after : List PlayChild} {child : PlayChild}
      {amount : Amount} {calls : ℚ} :
      state.children = before ++ child :: after → child.completed = false → 0 ≤ amount →
      0 ≤ calls → child.spent + amount ≤ child.request.budget.limit →
      child.calls + calls ≤ child.request.maxCalls →
      PlaySpendingStep stableSuffix state .spend
        { state with children := before ++ child.settle amount calls :: after }
  | finish {state : PlaySpendingState} {before after : List PlayChild} {child : PlayChild} :
      state.children = before ++ child :: after → child.completed = false →
      PlaySpendingStep stableSuffix state .finish
        { state with children := before ++ child.finish :: after }
  | advance {state : PlaySpendingState} {effects : PlayStageEffects} {nowMs : Instant} :
      IsActive state.run →
      (∀ current snapshot, currentStage state.run.execution.stages = some current →
        capturedSnapshot effects state.run current = some snapshot →
        SnapshotReports state.children state.run current snapshot) →
      PlaySpendingStep stableSuffix state .advance
        { run := progressedRun state.run (advanceClaimedRun effects state.run nowMs) nowMs
          earlier := state.versions
          children := state.children }

/-- Runs start with a Play that previews clean, with no child yet. -/
def playSpendingSystem (canonicalContentHash : PlayContent → ContentHash)
    (stableSuffix : StoredGtmPlayRun → GtmPlayRunStageReceipt → String) :
    TransitionSystem PlaySpendingState PlaySpendingEvent where
  initial state := ∃ (request : ApplyPlayRequest) (playRevision : ℕ),
    validatePlayDefinition request.input.definition = [] ∧
      state =
        { run := playRunRow request.actor.workspaceId
            (playRunWrite canonicalContentHash request playRevision)
          earlier := []
          children := [] }
  step := PlaySpendingStep stableSuffix

/-- The run stays within its approved budget: its children in the order of their stages,
what they spent and called together, and the budget requested for each. -/
structure StaysWithinBudget (state : PlaySpendingState) : Prop where
  stages : (state.children.map PlayChild.ordinal).Pairwise (· < ·)
  spent : (state.children.map PlayChild.spent).sum ≤ state.run.definition.budget.limit
  requested : ∀ before child after, state.children = before ++ child :: after →
    child.request.budget.limit ≤
      state.run.definition.budget.limit - (before.map PlayChild.spent).sum
  calls : (state.children.map PlayChild.calls).sum ≤
    requiredProviderCallsFor state.run.definition
  providerCalls : (state.children.map PlayChild.calls).sum ≤
    state.run.definition.preview.maxProviderCalls

/-- A stage starts while the floor of its budget is left. -/
def FloorIsLeft (_ : PlaySpendingState) : PlaySpendingEvent → Prop
  | .start version =>
      minimumBudget ≤ version.definition.budget.limit - version.execution.cost.spent
  | _ => True

/-! ## The calls of a stage -/

/-- The most calls that the child of a stage is planned with. -/
def callBound (definition : GtmPlayDefinition) (operationId : String) : ℚ :=
  if operationId = "workbooks.project" then 0
  else if operationId = "organizations.discover" ∨ operationId = "contacts.discover" then 1
  else definition.preview.maxContactsTotal

variable {definition : GtmPlayDefinition}

/-- What a clean preview says of a Play's bounds. -/
theorem bounds_of_validatePlayDefinition (valid : validatePlayDefinition definition = []) :
    0 < definition.budget.limit ∧ 1 ≤ definition.preview.maxContactsTotal ∧
      requiredProviderCallsFor definition ≤ definition.preview.maxProviderCalls := by
  have clean : violatesPlayBounds definition = false := by
    by_contra wrong
    rw [Bool.not_eq_false] at wrong
    simp [validatePlayDefinition, wrong] at valid
  simp only [violatesPlayBounds, Bool.or_eq_false_iff, decide_eq_false_iff_not, not_le,
    not_lt] at clean
  exact ⟨by tauto, by tauto, by tauto⟩

private theorem callBound_nonneg (valid : validatePlayDefinition definition = [])
    (operationId : String) :
    0 ≤ callBound definition operationId := by
  obtain ⟨_, contacts, _⟩ := bounds_of_validatePlayDefinition valid
  unfold callBound
  split
  · exact le_refl 0
  · split
    · exact zero_le_one
    · linarith

private theorem callBound_enrichment {operationId : String}
    (enriches : operationId ∈ enrichmentOperationIds definition) :
    callBound definition operationId = definition.preview.maxContactsTotal := by
  have listed := List.mem_of_mem_filter enriches
  simp only [enrichmentOperations, List.mem_cons, List.not_mem_nil, or_false] at listed
  rcases listed with rfl | rfl | rfl
  · rfl
  · rfl
  · rfl

/-- The bounds of the stages add up to the calls that the preview requires. -/
theorem sum_callBound (definition : GtmPlayDefinition) :
    ((operationIds definition).map (callBound definition)).sum =
      requiredProviderCallsFor definition := by
  have enrichments : ((enrichmentOperationIds definition).map (callBound definition)).sum =
      effectiveEnrichmentStageCount definition * definition.preview.maxContactsTotal := by
    rw [List.map_congr_left fun _ => callBound_enrichment, List.map_const', List.sum_replicate,
      nsmul_eq_mul]
    rfl
  have projection : callBound definition "workbooks.project" = 0 := if_pos rfl
  have organizations : callBound definition "organizations.discover" = 1 := by simp [callBound]
  have contacts : callBound definition "contacts.discover" = 1 := by simp [callBound]
  unfold operationIds requiredProviderCallsFor sourceOperation
  simp only [List.map_append, List.sum_append, List.map_cons, List.map_nil, List.sum_cons,
    List.sum_nil, enrichments, projection]
  cases isOrganizationSearch definition.source with
  | true => simp [organizations, contacts]; ring
  | false => simp [contacts]; ring

/-- **A stage's request** is for the remaining budget, and for no more calls than its bound. -/
theorem childRequest_bounds {suffix : String} {run : StoredGtmPlayRun}
    {stage : GtmPlayRunStageReceipt} {listing : ContactListing} {request : ChildRequest}
    (generates : stage.operationId ≠ "workbooks.project")
    (selected : (run.execution.selectedRecordIds.length : ℚ) ≤ selectionLimit run.definition)
    (requested : childRequest suffix run stage listing = some request) :
    request.budget = remainingBudget run ∧ 0 ≤ request.maxCalls ∧
      request.maxCalls ≤ callBound run.definition stage.operationId := by
  unfold childRequest at requested
  split at requested
  · rename_i organizations
    rw [beq_iff_eq] at organizations
    unfold organizationStageRequest at requested
    split at requested
    · cases requested
    · cases requested
      simp [callBound, organizations]
  · split at requested
    · rename_i contacts
      rw [beq_iff_eq] at contacts
      cases requested
      simp [callBound, contacts, contactStageRequest]
    · rename_i organizations contacts
      rw [beq_iff_eq] at organizations contacts
      unfold enrichmentChildRequest at requested
      simp only [Option.bind_eq_bind, Option.bind_eq_some_iff] at requested
      obtain ⟨source, _, _, _, _, _, recordIds, records, accepted⟩ := requested
      split at accepted
      · cases accepted
        refine ⟨rfl, Nat.cast_nonneg _, ?_⟩
        have few := selectContactRecords_length selected records
        have bound : callBound run.definition stage.operationId =
            run.definition.preview.maxContactsTotal := by
          simp [callBound, generates, organizations, contacts]
        rw [bound]
        exact few.trans (min_le_right _ _)
      · cases accepted

/-! ## Versions and children -/

/-- A version of the run agrees with the children: its completed stages report what their
children spent, and its pending stages nothing. -/
structure VersionAgrees (definition : GtmPlayDefinition) (children : List PlayChild)
    (version : StoredGtmPlayRun) : Prop where
  invariant : PlayRunInvariant version
  sameDefinition : version.definition = definition
  completed : ∀ stage ∈ version.execution.stages, stage.state = .completed →
    stage.operationId ≠ "workbooks.project" → ∃ child ∈ children,
      child.ordinal = stage.ordinal ∧ child.completed = true ∧ stage.cost.spent = child.spent
  pending : ∀ stage ∈ version.execution.stages, stage.state = .pending → stage.cost.spent = 0
  selected : (version.execution.selectedRecordIds.length : ℚ) ≤ selectionLimit definition

/-- The children are those of the first stages, each within its request, all but the last
one completed, each requested with what the earlier ones left. -/
structure ChildrenInvariant (definition : GtmPlayDefinition) (children : List PlayChild) :
    Prop where
  ordinals : children.map PlayChild.ordinal = List.range' 1 children.length
  spent : ∀ child ∈ children, child.spent ≤ child.request.budget.limit
  calls : ∀ child ∈ children, child.calls ≤ child.request.maxCalls
  settled : ∀ before child after, children = before ++ child :: after → after ≠ [] →
    child.completed = true
  funded : Funded (fun child : PlayChild => child.request.budget.limit) PlayChild.spent
    definition.budget.limit children
  planned : List.Forall₂ (fun request operationId =>
      request.maxCalls ≤ callBound definition operationId)
    (children.map PlayChild.request) ((operationIds definition).take children.length)

/-- Every version's report agrees with the children, and every child stays in the budget it was
started with. -/
structure PlaySpendingInvariant (state : PlaySpendingState) : Prop where
  valid : validatePlayDefinition state.run.definition = []
  versions : ∀ version ∈ state.versions,
    VersionAgrees state.run.definition state.children version
  children : ChildrenInvariant state.run.definition state.children

variable {version : StoredGtmPlayRun} {children after : List PlayChild}
  {stage : GtmPlayRunStageReceipt}

theorem VersionAgrees.mono (agrees : VersionAgrees definition children version)
    (kept : ∀ child ∈ children, child.completed = true → child ∈ after) :
    VersionAgrees definition after version where
  invariant := agrees.invariant
  sameDefinition := agrees.sameDefinition
  completed stage member done generates := by
    obtain ⟨child, stored, same, finished, spent⟩ := agrees.completed stage member done generates
    exact ⟨child, kept child stored finished, same, finished, spent⟩
  pending := agrees.pending
  selected := agrees.selected

private theorem ChildrenInvariant.ordinal_of_getElem
    (invariant : ChildrenInvariant definition children)
    {index : ℕ} (bound : index < children.length) : (children[index]).ordinal = index + 1 := by
  have found := List.getElem_of_eq invariant.ordinals (i := index) (by simpa using bound)
  rw [List.getElem_map, List.getElem_range'] at found
  omega

private theorem ChildrenInvariant.eq_of_ordinal (invariant : ChildrenInvariant definition children)
    {child other : PlayChild} (stored : child ∈ children) (found : other ∈ children)
    (same : child.ordinal = other.ordinal) : child = other := by
  have distinct : (children.map PlayChild.ordinal).Nodup := by
    rw [invariant.ordinals]
    exact List.nodup_range'
  exact List.inj_on_of_nodup_map distinct stored found same

/-- The stages before a begun generation stage are generation stages. -/
theorem IsCurrent.generates {run : StoredGtmPlayRun} {done later : List GtmPlayRunStageReceipt}
    {current : GtmPlayRunStageReceipt} (isCurrent : IsCurrent run done current later)
    (invariant : PlayRunInvariant run) :
    ∀ stage ∈ done, stage.operationId ≠ "workbooks.project" := by
  obtain ⟨earlier, operations, absent⟩ := operationIds_split run.definition
  have listed := invariant.operations
  obtain ⟨before, last, rest⟩ := (current :: later).eq_nil_or_concat'.resolve_left (by simp)
  rw [isCurrent.split, rest, operations, ← List.append_assoc, List.map_append, List.map_cons,
    List.map_nil] at listed
  have same := (List.append_inj' listed rfl).1
  intro stage member projects
  refine absent ?_
  rw [← same, ← projects]
  exact List.mem_map_of_mem (List.mem_append_left _ member)

/-- **A stage without a child** that is the current one of some version comes right after
the children, which are all completed and spent what that version has spent. -/
theorem ChildrenInvariant.ready (invariant : ChildrenInvariant definition children)
    (agrees : VersionAgrees definition children version)
    (found : currentStage version.execution.stages = some stage)
    (pending : stage.state = .pending)
    (fresh : ∀ child ∈ children, child.ordinal ≠ stage.ordinal) :
    stage.ordinal = children.length + 1 ∧ (∀ child ∈ children, child.completed = true) ∧
      version.execution.cost.spent = (children.map PlayChild.spent).sum ∧
      (operationIds definition)[children.length]? = some stage.operationId := by
  obtain ⟨begun, done, later, split, completed⟩ := currentStage_eq_some found
  have isCurrent : IsCurrent version done stage later := ⟨split, completed, begun⟩
  have waits := (inStageOrder_split completed begun).mp (split ▸ agrees.invariant.ordered)
  have numbered := agrees.invariant.numbered
  rw [split, StagesNumbered] at numbered
  have ordinal : ∀ index (bound : index < done.length), (done[index]).ordinal = index + 1 := by
    intro index bound
    have here := List.getElem_of_eq numbered (i := index) (by simp; omega)
    rw [List.getElem_map, List.getElem_range', List.getElem_append_left bound] at here
    omega
  have last : stage.ordinal = done.length + 1 := by
    have here := List.getElem_of_eq numbered (i := done.length) (by simp)
    rw [List.getElem_map, List.getElem_range', List.getElem_append_right (Nat.le_refl _)] at here
    simp only [Nat.sub_self, List.getElem_cons_zero] at here
    omega
  have reported : ∀ index (bound : index < done.length), ∃ child ∈ children,
      child.ordinal = index + 1 ∧ child.completed = true ∧
        (done[index]).cost.spent = child.spent := by
    intro index bound
    have member : done[index] ∈ done := List.getElem_mem bound
    have inside : done[index] ∈ version.execution.stages := by
      rw [split]
      exact List.mem_append_left _ member
    obtain ⟨child, stored, same, finished, spent⟩ := agrees.completed _ inside
      (completed _ member) (isCurrent.generates agrees.invariant _ member)
    exact ⟨child, stored, same.trans (ordinal index bound), finished, spent⟩
  have length : children.length = done.length := by
    refine Nat.le_antisymm (Nat.le_of_not_lt fun longer => ?_) (Nat.le_of_not_lt fun shorter => ?_)
    · refine fresh _ (List.getElem_mem longer) ?_
      rw [invariant.ordinal_of_getElem longer, last]
    · obtain ⟨child, stored, same, _, _⟩ := reported children.length shorter
      obtain ⟨index, bound, rfl⟩ := List.mem_iff_getElem.mp stored
      rw [invariant.ordinal_of_getElem bound] at same
      omega
  have matched : ∀ index (bound : index < children.length) (inside : index < done.length),
      (children[index]).completed = true ∧
        (done[index]).cost.spent = (children[index]).spent := by
    intro index bound inside
    obtain ⟨child, stored, same, finished, spent⟩ := reported index inside
    obtain rfl := invariant.eq_of_ordinal stored (List.getElem_mem bound)
      (same.trans (invariant.ordinal_of_getElem bound).symm)
    exact ⟨finished, spent⟩
  refine ⟨by omega, ?_, ?_, ?_⟩
  · intro child stored
    obtain ⟨index, bound, rfl⟩ := List.mem_iff_getElem.mp stored
    exact (matched index bound (length ▸ bound)).1
  · have spent : done.map (fun stage => stage.cost.spent) = children.map PlayChild.spent := by
      refine List.ext_getElem (by simp [length]) fun index inside bound => ?_
      rw [List.getElem_map, List.getElem_map]
      exact (matched index (by simpa using bound) (by simpa using inside)).2
    have unspent : (later.map fun stage => stage.cost.spent).sum = 0 := by
      refine List.sum_eq_zero fun amount member => ?_
      obtain ⟨other, inside, rfl⟩ := List.mem_map.mp member
      refine agrees.pending other ?_ (waits other inside)
      rw [split]
      exact List.mem_append_right _ (List.mem_cons_of_mem _ inside)
    have nothing : stage.cost.spent = 0 := by
      refine agrees.pending stage ?_ pending
      rw [split]
      exact List.mem_append_right _ List.mem_cons_self
    rw [agrees.invariant.spent, split, List.map_append, List.map_cons, List.sum_append,
      List.sum_cons, spent, unspent, nothing, add_zero, add_zero]
  · have operations := agrees.invariant.operations
    rw [agrees.sameDefinition, split] at operations
    rw [← operations, length, List.getElem?_map, List.getElem?_append_right (Nat.le_refl _),
      Nat.sub_self]
    rfl

/-! ## Steps -/

/-- Starting the child of a ready stage while the floor is left. -/
theorem ChildrenInvariant.started (invariant : ChildrenInvariant definition children)
    {request : ChildRequest} (completed : ∀ child ∈ children, child.completed = true)
    (budget : request.budget.limit = definition.budget.limit - (children.map PlayChild.spent).sum)
    (nonneg : 0 ≤ request.budget.limit) {operationId : String}
    (operation : (operationIds definition)[children.length]? = some operationId)
    (calls : request.maxCalls ≤ callBound definition operationId)
    (callsNonneg : 0 ≤ request.maxCalls) :
    ChildrenInvariant definition (children ++
      [{ ordinal := children.length + 1
         request := request
         spent := 0
         calls := 0
         completed := false }]) where
  ordinals := by
    rw [List.map_append, invariant.ordinals, List.length_append, List.length_singleton,
      List.range'_concat]
    simp [Nat.add_comm]
  spent child member := by
    rcases List.mem_append.mp member with old | new
    · exact invariant.spent child old
    · obtain rfl := List.mem_singleton.mp new
      exact nonneg
  calls child member := by
    rcases List.mem_append.mp member with old | new
    · exact invariant.calls child old
    · obtain rfl := List.mem_singleton.mp new
      exact callsNonneg
  settled before child rest split followed := by
    obtain ⟨middle, last, rfl⟩ := rest.eq_nil_or_concat'.resolve_left followed
    rw [← List.cons_append, ← List.append_assoc] at split
    have same := (List.append_inj' split rfl).1
    refine completed child ?_
    rw [same]
    exact List.mem_append_right _ List.mem_cons_self
  funded := funded_concat.mpr ⟨invariant.funded, budget.le⟩
  planned := by
    rw [List.length_append, List.length_singleton, List.take_add_one, operation, List.map_append]
    exact List.rel_append invariant.planned (.cons calls .nil)

/-- The last child goes on while the others and its request are kept. -/
theorem ChildrenInvariant.replaced {before after : List PlayChild} {child next : PlayChild}
    (invariant : ChildrenInvariant definition (before ++ child :: after))
    (unfinished : child.completed = false) (ordinal : next.ordinal = child.ordinal)
    (request : next.request = child.request) (spent : next.spent ≤ next.request.budget.limit)
    (calls : next.calls ≤ next.request.maxCalls) :
    ChildrenInvariant definition (before ++ next :: after) := by
  have last : after = [] := by
    by_contra followed
    have finished := invariant.settled before child after rfl followed
    rw [unfinished] at finished
    cases finished
  subst last
  refine ⟨?_, ?_, ?_, ?_, ?_, ?_⟩
  · have ordinals := invariant.ordinals
    simpa [ordinal] using ordinals
  · intro other member
    rcases List.mem_append.mp member with old | new
    · exact invariant.spent other (List.mem_append_left _ old)
    · obtain rfl := List.mem_singleton.mp new
      exact spent
  · intro other member
    rcases List.mem_append.mp member with old | new
    · exact invariant.calls other (List.mem_append_left _ old)
    · obtain rfl := List.mem_singleton.mp new
      exact calls
  · intro earlier other rest split followed
    obtain ⟨middle, final, rfl⟩ := rest.eq_nil_or_concat'.resolve_left followed
    rw [← List.cons_append, ← List.append_assoc] at split
    have same := (List.append_inj' split rfl).1
    refine invariant.settled earlier other (middle ++ [child]) ?_ (by simp)
    rw [same]
    simp
  · have funded := funded_concat.mp invariant.funded
    exact funded_concat.mpr ⟨funded.1, request ▸ funded.2⟩
  · have planned := invariant.planned
    simpa [request] using planned

private theorem completed_kept {before after : List PlayChild} {child next : PlayChild}
    (unfinished : child.completed = false) :
    ∀ stored ∈ before ++ child :: after, stored.completed = true →
      stored ∈ before ++ next :: after := by
  intro stored member finished
  rcases List.mem_append.mp member with old | rest
  · exact List.mem_append_left _ old
  · rcases List.mem_cons.mp rest with rfl | later
    · rw [unfinished] at finished
      cases finished
    · exact List.mem_append_right _ (List.mem_cons_of_mem _ later)

/-- What advancing the current stage leaves of an execution: its stages and selection, its
projected workbook stage, or its generation stage with a snapshot. -/
inductive StageAdvance (effects : PlayStageEffects) (run : StoredGtmPlayRun) :
    GtmPlayRunExecution → Prop where
  | kept {execution : GtmPlayRunExecution} (stages : execution.stages = run.execution.stages)
      (selected : execution.selectedRecordIds = run.execution.selectedRecordIds) :
      StageAdvance effects run execution
  | projected {execution : GtmPlayRunExecution} {current : GtmPlayRunStageReceipt}
      {projection : GtmPlayProjectionResult}
      (found : currentStage run.execution.stages = some current)
      (projects : current.operationId = "workbooks.project")
      (stages : execution.stages =
        replaceStage run.execution.stages (projectedStage current projection))
      (selected : execution.selectedRecordIds = run.execution.selectedRecordIds) :
      StageAdvance effects run execution
  | captured {execution : GtmPlayRunExecution} {current : GtmPlayRunStageReceipt}
      (found : currentStage run.execution.stages = some current)
      (stages : execution.stages = replaceStage run.execution.stages
        (snapshotStage current (captureStageSnapshot effects run current)))
      (selected : execution.selectedRecordIds =
        (captureStageSnapshot effects run current).selectedRecordIds.getD
          run.execution.selectedRecordIds) :
      StageAdvance effects run execution

private theorem advanceClaimedRun_advances (effects : PlayStageEffects) {run : StoredGtmPlayRun}
    (active : IsActive run) (nowMs : Instant) :
    StageAdvance effects run (advanceClaimedRun effects run nowMs).execution := by
  unfold advanceClaimedRun
  split
  · exact .kept rfl rfl
  · split
    · exact .kept rfl rfl
    · rename_i current found
      split
      · rename_i projects
        simp only [Bool.and_eq_true, beq_iff_eq] at projects
        unfold projectWorkbookStage
        split
        · exact .projected found projects.1 rfl rfl
        · exact .kept rfl rfl
      · rcases (advanceGenerationStage_cases effects active current).1 with same | ⟨error, same⟩
        · rw [same]
          exact .captured found rfl rfl
        · rw [same]
          exact .captured found rfl rfl

private theorem snapshotStageState_ne_pending (state : GtmPlayGenerationState) :
    snapshotStageState state ≠ .pending := by
  cases state with
  | ambiguous => simp [snapshotStageState]
  | cancelled => simp [snapshotStageState]
  | completed => simp [snapshotStageState]
  | failed => simp [snapshotStageState]
  | running => simp [snapshotStageState]

private theorem snapshotStageState_eq_completed {state : GtmPlayGenerationState}
    (finished : snapshotStageState state = .completed) : state = .completed := by
  cases state with
  | completed => rfl
  | ambiguous => cases finished
  | cancelled => cases finished
  | failed => cases finished
  | running => cases finished

/-- A replaced current stage agrees with the children when it reports one as completed, or
is the projection. -/
theorem VersionAgrees.replaced {done later : List GtmPlayRunStageReceipt}
    {current replacement : GtmPlayRunStageReceipt} {next : StoredGtmPlayRun}
    (agrees : VersionAgrees definition children version)
    (isCurrent : IsCurrent version done current later) (invariant : PlayRunInvariant next)
    (sameDefinition : next.definition = version.definition)
    (stages : next.execution.stages = done ++ replacement :: later)
    (begun : replacement.state ≠ .pending)
    (reports : replacement.state = .completed → replacement.operationId ≠ "workbooks.project" →
      ∃ child ∈ children, child.ordinal = replacement.ordinal ∧ child.completed = true ∧
        replacement.cost.spent = child.spent)
    (selected : (next.execution.selectedRecordIds.length : ℚ) ≤ selectionLimit definition) :
    VersionAgrees definition children next where
  invariant := invariant
  sameDefinition := sameDefinition.trans agrees.sameDefinition
  completed stage member finished generates := by
    rw [stages] at member
    rcases List.mem_append.mp member with early | rest
    · refine agrees.completed stage ?_ finished generates
      rw [isCurrent.split]
      exact List.mem_append_left _ early
    · rcases List.mem_cons.mp rest with rfl | late
      · exact reports finished generates
      · refine agrees.completed stage ?_ finished generates
        rw [isCurrent.split]
        exact List.mem_append_right _ (List.mem_cons_of_mem _ late)
  pending stage member waits := by
    rw [stages] at member
    rcases List.mem_append.mp member with early | rest
    · refine agrees.pending stage ?_ waits
      rw [isCurrent.split]
      exact List.mem_append_left _ early
    · rcases List.mem_cons.mp rest with rfl | late
      · exact absurd waits begun
      · refine agrees.pending stage ?_ waits
        rw [isCurrent.split]
        exact List.mem_append_right _ (List.mem_cons_of_mem _ late)
  selected := selected

/-- An advanced run agrees with the children that its snapshot reports. -/
theorem VersionAgrees.advanced {effects : PlayStageEffects} {nowMs : Instant}
    (agrees : VersionAgrees definition children version) (active : IsActive version)
    (reports : ∀ current snapshot, currentStage version.execution.stages = some current →
      capturedSnapshot effects version current = some snapshot →
      SnapshotReports children version current snapshot) :
    VersionAgrees definition children
      (progressedRun version (advanceClaimedRun effects version nowMs) nowMs) := by
  have next := (advanceClaimedRun_progresses effects nowMs agrees.invariant active).invariant nowMs
  cases advanceClaimedRun_advances effects active nowMs with
  | kept stages selected =>
      refine ⟨next, agrees.sameDefinition, ?_, ?_, ?_⟩
      · rw [progressedRun, stages]
        exact agrees.completed
      · rw [progressedRun, stages]
        exact agrees.pending
      · rw [progressedRun, selected]
        exact agrees.selected
  | @projected current projection found projects stages selected =>
      obtain ⟨begun, done, later, split, completed⟩ := currentStage_eq_some found
      have isCurrent : IsCurrent version done current later := ⟨split, completed, begun⟩
      rw [isCurrent.replaceStage agrees.invariant
        (show (projectedStage current projection).ordinal = current.ordinal from rfl)] at stages
      refine agrees.replaced isCurrent next rfl stages (by simp [projectedStage])
        (fun _ generates => absurd projects generates) ?_
      rw [progressedRun, selected]
      exact agrees.selected
  | @captured current found stages selected =>
      obtain ⟨begun, done, later, split, completed⟩ := currentStage_eq_some found
      have isCurrent : IsCurrent version done current later := ⟨split, completed, begun⟩
      rw [isCurrent.replaceStage agrees.invariant
        (show (snapshotStage current (captureStageSnapshot effects version current)).ordinal =
          current.ordinal from rfl)] at stages
      have snapshots : captureStageSnapshot effects version current =
          (capturedSnapshot effects version current).getD (unavailableSnapshot current) :=
        rfl
      cases answer : capturedSnapshot effects version current with
      | none =>
          rw [answer, Option.getD_none] at snapshots
          refine agrees.replaced isCurrent next rfl stages ?_ ?_ ?_
          · rw [snapshots]
            exact snapshotStageState_ne_pending .ambiguous
          · rw [snapshots]
            intro finished
            cases finished
          · rw [progressedRun, selected, snapshots]
            exact agrees.selected
      | some snapshot =>
          rw [answer, Option.getD_some] at snapshots
          have reported := reports current snapshot found answer
          refine agrees.replaced isCurrent next rfl stages ?_ ?_ ?_
          · rw [snapshots]
            exact snapshotStageState_ne_pending snapshot.state
          · rw [snapshots]
            intro finished _
            exact reported.completed (snapshotStageState_eq_completed finished)
          · rw [progressedRun, selected, snapshots]
            cases ids : snapshot.selectedRecordIds with
            | none => exact agrees.selected
            | some recordIds =>
                obtain ⟨listing, contactStage, records⟩ := reported.selected recordIds ids
                have before := agrees.selected
                rw [← agrees.sameDefinition] at before ⊢
                exact selectContactRecords_length before records

variable {canonicalContentHash : PlayContent → ContentHash}
  {stableSuffix : StoredGtmPlayRun → GtmPlayRunStageReceipt → String}

/-- **Every run whose stages start while the floor is left** keeps the invariant. -/
theorem playSpending_invariant :
    ((playSpendingSystem canonicalContentHash stableSuffix).restrict FloorIsLeft).Invariant
      PlaySpendingInvariant where
  initially state start := by
    obtain ⟨request, playRevision, valid, rfl⟩ := start
    refine ⟨valid, ?_, ?_⟩
    · intro version member
      obtain rfl := List.mem_singleton.mp member
      have waiting : ∀ stage ∈ (playRunRow request.actor.workspaceId
          (playRunWrite canonicalContentHash request playRevision)).execution.stages,
          stage.state = .pending ∧ stage.cost.spent = 0 := by
        intro stage member
        obtain ⟨compiled, _, rfl⟩ := List.mem_map.mp member
        exact ⟨rfl, rfl⟩
      refine ⟨playRunRow_invariant _ request playRevision, rfl, ?_, ?_, ?_⟩
      · intro stage member finished
        rw [(waiting stage member).1] at finished
        cases finished
      · exact fun stage member _ => (waiting stage member).2
      · have contacts := (bounds_of_validatePlayDefinition valid).2.1
        change ((0 : ℕ) : ℚ) ≤ min 3 _
        rw [Nat.cast_zero]
        exact le_min (by norm_num) (zero_le_one.trans contacts)
    · refine ⟨rfl, ?_, ?_, ?_, trivial, .nil⟩
      · intro child member
        cases member
      · intro child member
        cases member
      · intro before child after split
        simp at split
  preserved before event after invariant moved := by
    obtain ⟨floor, moved⟩ := moved
    cases moved with
    | @start version stage listing request member found pending generates fresh requested =>
        have agrees := invariant.versions version member
        obtain ⟨ordinal, completed, spent, operation⟩ :=
          invariant.children.ready agrees found pending fresh
        have sameDefinition := agrees.sameDefinition
        have selected := agrees.selected
        rw [← sameDefinition] at selected
        obtain ⟨budget, callsNonneg, calls⟩ :=
          childRequest_bounds generates selected requested
        have left : minimumBudget ≤
            version.definition.budget.limit - version.execution.cost.spent := floor
        have limit : request.budget.limit =
            version.definition.budget.limit - version.execution.cost.spent := by
          rw [budget]
          exact max_eq_right left
        have positive : 0 ≤ minimumBudget := by norm_num [minimumBudget]
        refine ⟨invariant.valid, ?_, ?_⟩
        · intro other inside
          refine (invariant.versions other inside).mono fun child stored _ => ?_
          exact List.mem_append_left _ stored
        · rw [ordinal]
          refine invariant.children.started completed ?_ ?_ operation ?_ callsNonneg
          · rw [limit, spent, sameDefinition]
          · rw [limit]
            exact positive.trans left
          · rw [← sameDefinition]
            exact calls
    | @spend earlier later child amount calls split unfinished _ _ spent within =>
        have children := invariant.children
        rw [split] at children
        refine ⟨invariant.valid, ?_, children.replaced unfinished
          (show (child.settle amount calls).ordinal = child.ordinal from rfl) rfl spent within⟩
        intro other inside
        exact (invariant.versions other inside).mono (split ▸ completed_kept unfinished)
    | @finish earlier later child split unfinished =>
        have children := invariant.children
        rw [split] at children
        have spent := children.spent child (List.mem_append_right _ List.mem_cons_self)
        have within := children.calls child (List.mem_append_right _ List.mem_cons_self)
        refine ⟨invariant.valid, ?_, children.replaced unfinished
          (show child.finish.ordinal = child.ordinal from rfl) rfl
          spent within⟩
        intro other inside
        exact (invariant.versions other inside).mono (split ▸ completed_kept unfinished)
    | @advance effects nowMs active reports =>
        have agrees := invariant.versions before.run List.mem_cons_self
        refine ⟨invariant.valid, ?_, invariant.children⟩
        intro version member
        rcases List.mem_cons.mp member with rfl | stored
        · exact agrees.advanced active reports
        · exact invariant.versions version stored

private theorem ChildrenInvariant.sum_calls_le (invariant : ChildrenInvariant definition children)
    (valid : validatePlayDefinition definition = []) :
    (children.map PlayChild.calls).sum ≤ requiredProviderCallsFor definition := by
  have planned := List.Forall₂.sum_le_sum
    (List.forall₂_map_left_iff.mpr (List.forall₂_map_right_iff.mpr invariant.planned))
  have within : (children.map PlayChild.calls).sum ≤
      ((children.map PlayChild.request).map ChildRequest.maxCalls).sum := by
    rw [List.map_map]
    exact List.sum_le_sum fun child member => invariant.calls child member
  have first : (((operationIds definition).take children.length).map (callBound definition)).sum ≤
      ((operationIds definition).map (callBound definition)).sum := by
    refine ((List.take_sublist _ _).map _).sum_le_sum fun bound member => ?_
    obtain ⟨operationId, _, rfl⟩ := List.mem_map.mp member
    exact callBound_nonneg valid operationId
  calc (children.map PlayChild.calls).sum
      ≤ ((children.map PlayChild.request).map ChildRequest.maxCalls).sum := within
    _ ≤ (((operationIds definition).take children.length).map (callBound definition)).sum := planned
    _ ≤ ((operationIds definition).map (callBound definition)).sum := first
    _ = requiredProviderCallsFor definition := sum_callBound definition

private theorem PlaySpendingInvariant.staysWithinBudget {state : PlaySpendingState}
    (invariant : PlaySpendingInvariant state) : StaysWithinBudget state := by
  obtain ⟨limit, _, required⟩ := bounds_of_validatePlayDefinition invariant.valid
  have calls := invariant.children.sum_calls_le invariant.valid
  refine ⟨?_, invariant.children.funded.sum_le limit.le invariant.children.spent, ?_, calls,
    calls.trans required⟩
  · rw [invariant.children.ordinals]
    exact List.pairwise_lt_range'
  · intro before child after split
    have funded := invariant.children.funded
    rw [split] at funded
    exact funded.requested_le

private def sampleSecondVersion (spent : Amount) : StoredGtmPlayRun :=
  progressedRun sampleFirstVersion
    (advanceClaimedRun (sampleStageEffects spent) sampleFirstVersion 2) 2

/-- The organizations' child, requested with the whole limit. -/
def sampleBegunChild (spent : Amount) (calls : ℚ) : PlayChild where
  ordinal := 1
  request := { maxCalls := 1, budget := { limit := 2, unit := "credits" } }
  spent := spent
  calls := calls
  completed := false

/-- The run whose organization stage spent an amount. -/
def sampleSpendingState (spent : Amount) : PlaySpendingState where
  run := sampleSecondVersion spent
  earlier := [sampleFirstVersion]
  children := [(sampleBegunChild spent 1).finish]

/-- The contacts' child: requested with a budget, of which it spent an amount. -/
def sampleContactChild (limit spent : Amount) : PlayChild where
  ordinal := 2
  request := { maxCalls := 1, budget := { limit := limit, unit := "credits" } }
  spent := spent
  calls := 0
  completed := false

private def sampleOrganizationStage : GtmPlayRunStageReceipt :=
  initialStageReceipt samplePlay
    (compiledStage sampleContentHash samplePlay "organizations.discover" 0)

private def sampleContactStage : GtmPlayRunStageReceipt :=
  initialStageReceipt samplePlay (compiledStage sampleContentHash samplePlay "contacts.discover" 1)

/-- The run, with its child while the organization stage spends. -/
def sampleBegunState (children : List PlayChild) : PlaySpendingState where
  run := sampleFirstVersion
  earlier := []
  children := children

/-- The contacts' child of the run whose organization stage spent an amount. -/
def sampleContactState (spent : Amount) (child : PlayChild) : PlaySpendingState :=
  { sampleSpendingState spent with
    children := [(sampleBegunChild spent 1).finish, child] }

/-- What the sample evaluates to. -/
theorem samplePlay_evaluates :
    validatePlayDefinition samplePlay = [] ∧
      currentStage sampleFirstVersion.execution.stages = some sampleOrganizationStage ∧
      remainingBudget sampleFirstVersion = { limit := 2, unit := "credits" } ∧
      sampleFirstVersion.execution.cost.spent = 0 ∧
      currentStage (sampleSecondVersion 1).execution.stages = some sampleContactStage ∧
      remainingBudget (sampleSecondVersion 1) = { limit := 1, unit := "credits" } ∧
      (sampleSecondVersion 1).execution.cost.spent = 1 ∧
      currentStage (sampleSecondVersion 2).execution.stages = some sampleContactStage ∧
      remainingBudget (sampleSecondVersion 2) = { limit := 1 / 1000000, unit := "credits" } := by
  with_unfolding_all decide

/-- No contact is listed. -/
def sampleNoListing : ContactListing where
  isContact _ _ := false
  stored := none
  page := none
  authorization := none
  allows _ := none

section Sample

variable (stableSuffix : StoredGtmPlayRun → GtmPlayRunStageReceipt → String)

private theorem sampleOrganizations_start :
    PlaySpendingStep stableSuffix (sampleBegunState []) (.start sampleFirstVersion)
      (sampleBegunState [sampleBegunChild 0 0]) := by
  obtain ⟨_, found, budget, _⟩ := samplePlay_evaluates
  have operation : sampleOrganizationStage.operationId = "organizations.discover" := rfl
  have requested : childRequest (stableSuffix sampleFirstVersion sampleOrganizationStage)
      sampleFirstVersion sampleOrganizationStage sampleNoListing =
        some (sampleBegunChild 0 0).request := by
    unfold childRequest
    rw [operation, if_pos (beq_self_eq_true _)]
    change some ({ maxCalls := 1, budget := remainingBudget sampleFirstVersion } : ChildRequest) = _
    rw [budget]
    rfl
  have waits : sampleOrganizationStage.state = .pending := rfl
  have generates : sampleOrganizationStage.operationId ≠ "workbooks.project" := by
    simp [operation]
  exact @PlaySpendingStep.start stableSuffix (sampleBegunState []) sampleFirstVersion
    sampleOrganizationStage sampleNoListing (sampleBegunChild 0 0).request List.mem_cons_self
    found waits generates (fun _ none => by cases none) requested

private theorem sampleOrganizations_spend {spent : Amount} (nonneg : 0 ≤ spent)
    (within : spent ≤ 2) :
    PlaySpendingStep stableSuffix (sampleBegunState [sampleBegunChild 0 0]) .spend
      (sampleBegunState [sampleBegunChild spent 1]) := by
  have settled : sampleBegunChild spent 1 = (sampleBegunChild 0 0).settle spent 1 := by
    simp [PlayChild.settle, sampleBegunChild]
  rw [settled]
  refine @PlaySpendingStep.spend stableSuffix (sampleBegunState [sampleBegunChild 0 0]) [] []
    (sampleBegunChild 0 0) spent 1 rfl rfl nonneg zero_le_one ?_ ?_
  · simpa [sampleBegunChild] using within
  · simp [sampleBegunChild]

private theorem sampleOrganizations_advance (spent : Amount) :
    PlaySpendingStep stableSuffix (sampleBegunState [(sampleBegunChild spent 1).finish]) .advance
      (sampleSpendingState spent) := by
  refine @PlaySpendingStep.advance stableSuffix
    (sampleBegunState [(sampleBegunChild spent 1).finish]) (sampleStageEffects spent) 2
    (.inl rfl) ?_
  intro current snapshot found answer
  cases samplePlay_evaluates.2.1.symm.trans found
  have reported : sampleOrganizationSnapshot spent = snapshot := Option.some.inj answer
  subst reported
  exact ⟨fun _ => ⟨_, List.mem_cons_self, rfl, rfl, rfl⟩, fun _ none => by cases none⟩

private theorem samplePlaySpending_initial :
    (playSpendingSystem sampleContentHash stableSuffix).initial (sampleBegunState []) :=
  ⟨sampleRequest .start, 1, samplePlay_evaluates.1, rfl⟩

/-- The organization stage may spend any amount within the limit. -/
theorem sampleSpendingState_reachable {spent : Amount} (nonneg : 0 ≤ spent) (within : spent ≤ 2) :
    ((playSpendingSystem sampleContentHash stableSuffix).restrict FloorIsLeft).Reachable
      (sampleSpendingState spent) := by
  have floor : minimumBudget ≤
      sampleFirstVersion.definition.budget.limit - sampleFirstVersion.execution.cost.spent := by
    rw [samplePlay_evaluates.2.2.2.1]
    change minimumBudget ≤ samplePlay.budget.limit - 0
    norm_num [minimumBudget, samplePlay]
  have finished : PlaySpendingStep stableSuffix (sampleBegunState [sampleBegunChild spent 1])
      .finish (sampleBegunState [(sampleBegunChild spent 1).finish]) :=
    @PlaySpendingStep.finish stableSuffix (sampleBegunState [sampleBegunChild spent 1]) [] []
      (sampleBegunChild spent 1) rfl rfl
  have begun : ((playSpendingSystem sampleContentHash stableSuffix).restrict
      FloorIsLeft).Reachable (sampleBegunState []) :=
    .initial (samplePlaySpending_initial stableSuffix)
  have started := begun.step (And.intro (show FloorIsLeft _ (.start sampleFirstVersion) from floor)
    (sampleOrganizations_start stableSuffix))
  have paid := started.step (And.intro (show FloorIsLeft _ .spend from trivial)
    (sampleOrganizations_spend stableSuffix nonneg within))
  have done := paid.step (And.intro (show FloorIsLeft _ .finish from trivial) finished)
  exact done.step (And.intro (show FloorIsLeft _ .advance from trivial)
    (sampleOrganizations_advance stableSuffix spent))

private theorem sampleContacts_start (spent limit : Amount)
    (found : currentStage (sampleSecondVersion spent).execution.stages = some sampleContactStage)
    (budget : remainingBudget (sampleSecondVersion spent) = { limit := limit, unit := "credits" }) :
    PlaySpendingStep stableSuffix (sampleSpendingState spent) (.start (sampleSecondVersion spent))
      (sampleContactState spent (sampleContactChild limit 0)) := by
  have operation : sampleContactStage.operationId = "contacts.discover" := rfl
  have requested : childRequest (stableSuffix (sampleSecondVersion spent) sampleContactStage)
      (sampleSecondVersion spent) sampleContactStage sampleNoListing =
        some (sampleContactChild limit 0).request := by
    unfold childRequest
    rw [operation, if_neg (by simp), if_pos (beq_self_eq_true _)]
    change some ({ maxCalls := 1, budget := remainingBudget (sampleSecondVersion spent) } :
      ChildRequest) = _
    rw [budget]
    rfl
  have waits : sampleContactStage.state = .pending := rfl
  have generates : sampleContactStage.operationId ≠ "workbooks.project" := by simp [operation]
  have fresh : ∀ child ∈ (sampleSpendingState spent).children,
      child.ordinal ≠ sampleContactStage.ordinal := by
    intro child member
    obtain rfl := List.mem_singleton.mp member
    change (1 : ℕ) ≠ 2
    simp
  exact @PlaySpendingStep.start stableSuffix (sampleSpendingState spent)
    (sampleSecondVersion spent) sampleContactStage sampleNoListing
    (sampleContactChild limit 0).request List.mem_cons_self found waits generates fresh requested

end Sample

end Kurobara.Application
