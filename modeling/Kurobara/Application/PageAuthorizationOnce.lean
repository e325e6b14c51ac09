import Kurobara.Application.PageAuthorizationActivity

/-! # Page authorization is idempotent

At every reachable state each page is the only one of its sequence and has the only Run of
its key, and later authorizations of the sequence answer with it. When an authorization is
also all-or-nothing is `refusalLeavesRows_iff`.
-/

namespace Kurobara.Application

open Engine Foundation Kernel Persistence

section System

variable {Value : Type} {canonical : PageCanonicalization Value}

section Once

variable [DecidableEq Value]

/-- A page stays the page of its sequence, and its Run the Run of its key: later
authorizations of the sequence are answered with it. -/
structure PageIsAuthorizedOnce (canonical : PageCanonicalization Value)
    (rows : PageCreationRows Value) (page : DatasetGenerationPage) : Prop where
  row : rows.generation.pages.countP (·.pageSequence == page.pageSequence) = 1
  run : rows.creation.runs.runs.countP
    (·.idempotencyKey == creationKey page.generationId page.pageSequence) = 1
  named : ∃ run ∈ rows.creation.runs.runs, run.runId = page.runId ∧
    run.idempotencyKey = creationKey page.generationId page.pageSequence
  answers : ∀ environment request plan, authorizingPlan rows request = .ok plan →
    request.generationId = rows.generation.creation.generation.generationId →
    nextPageSequence rows = page.pageSequence →
      authorizePage environment rows request = .ok (.ok ⟨page, true⟩, rows)
  later : ∀ labels last, (pageAuthorizationSystem canonical).Run rows labels last →
    (∃ moved ∈ last.generation.pages, KeepsPageIdentity page moved) ∧
      ∀ request success, .authorizePage request (.ok success) ∈ labels →
        success.page.pageSequence = page.pageSequence →
          success.replayed = true ∧ KeepsPageIdentity page success.page

/-- Every stored page is authorized once, and every authorized page is stored. -/
structure PagesAreAuthorizedOnce (canonical : PageCanonicalization Value)
    (rows : PageCreationRows Value) : Prop where
  pages : ∀ page ∈ rows.generation.pages, PageIsAuthorizedOnce canonical rows page
  stored : ∀ request success after,
    PageAuthorizationStep canonical rows (.authorizePage request (.ok success)) after →
      success.page ∈ after.generation.pages

variable {before after : PageCreationRows Value}

omit [DecidableEq Value] in
theorem PagesHaveRuns.loadPage (pages : PagesHaveRuns canonical before)
    {page : DatasetGenerationPage} (member : page ∈ before.generation.pages) :
    before.generation.loadPage page.pageSequence = some page := by
  cases found : before.generation.loadPage page.pageSequence with
  | none => exact absurd (List.find?_eq_none.mp found page member) (by simp)
  | some known =>
      have same := List.inj_on_of_nodup_map pages.sequences (loadPage_mem found) member
        (loadPage_sequence found)
      rw [same]

/-- A stored page is kept by every step, and answers every authorization of its sequence. -/
theorem page_step {label : PageAuthorizationLabel} (pages : PagesHaveRuns canonical before)
    {page : DatasetGenerationPage} (member : page ∈ before.generation.pages)
    (moved : PageAuthorizationStep canonical before label after) :
    ∃ kept ∈ after.generation.pages, KeepsPageIdentity page kept := by
  cases moved with
  | authorizePage request identifiers now result _ named authorized =>
      have pagesOf {rows : PageRows} (left : after.pageRows = rows) :
          after.generation.pages = rows.generation.pages := congrArg (·.generation.pages) left
      cases authorizePage_rows pages.runs authorized with
      | unchanged same => exact ⟨page, pagesOf same ▸ member, .refl page⟩
      | refused run left => exact ⟨page, pagesOf left ▸ member, .refl page⟩
      | created other run _ _ _ _ _ left =>
          exact ⟨page, pagesOf left ▸ List.mem_append_left _ member, .refl page⟩
  | movePage other moved loaded transition =>
      by_cases same : page.pageSequence = other.pageSequence
      · have isOther := List.inj_on_of_nodup_map pages.sequences member (loadPage_mem loaded) same
        subst isOther
        have sequence := transition.keepsIdentity.pageSequence
        refine ⟨moved, List.mem_map.mpr ⟨page, member, ?_⟩, transition.keepsIdentity⟩
        exact if_pos (by simp [sequence])
      · have sequence := transition.keepsIdentity.pageSequence
        refine ⟨page, List.mem_map.mpr ⟨page, member, ?_⟩, .refl page⟩
        exact if_neg (by simpa [sequence] using same)
  | _ => exact ⟨page, member, .refl page⟩

private theorem authorizePage_stored {request : AuthorizePageRequest}
    {success : AuthorizePageSuccess}
    (pages : PagesHaveRuns canonical before)
    (moved : PageAuthorizationStep canonical before (.authorizePage request (.ok success)) after) :
    success.page ∈ after.generation.pages ∧
      (success.replayed = true ∧ success.page ∈ before.generation.pages ∨
        before.generation.loadPage success.page.pageSequence = none) := by
  cases moved with
  | authorizePage _ identifiers now _ _ named authorized =>
      cases authorizePage_effect pages.runs named authorized with
      | unchanged _ same replayed =>
          obtain ⟨isReplay, member⟩ := replayed success rfl
          exact ⟨same ▸ member, .inl ⟨isReplay, member⟩⟩
      | created other creation _ _ absent _ left _ =>
          exact ⟨left ▸ List.mem_append_right _ (List.mem_singleton.mpr rfl), .inr absent⟩

/-- **Run lemma.** Along every run a stored page stays stored, and answers every
authorization of its sequence. -/
theorem page_run {first last : PageCreationRows Value} {labels : List PageAuthorizationLabel}
    (run : (pageAuthorizationSystem canonical).Run first labels last)
    (pages : PagesHaveRuns canonical first) {page : DatasetGenerationPage}
    (member : page ∈ first.generation.pages) :
    (∃ kept ∈ last.generation.pages, KeepsPageIdentity page kept) ∧
      ∀ request success, .authorizePage request (.ok success) ∈ labels →
        success.page.pageSequence = page.pageSequence →
          success.replayed = true ∧ KeepsPageIdentity page success.page := by
  induction run generalizing page with
  | nil state => exact ⟨⟨page, member, .refl page⟩, fun _ _ none => nomatch none⟩
  | cons moved _ ih =>
      obtain ⟨kept, keptMember, identity⟩ := page_step pages member moved
      obtain ⟨⟨final, finalMember, onward⟩, answers⟩ :=
        ih (pagesHaveRuns_step pages moved) keptMember
      refine ⟨⟨final, finalMember, identity.trans onward⟩, ?_⟩
      intro request success labelled sequence
      rcases List.mem_cons.mp labelled with rfl | later
      · rcases (authorizePage_stored pages moved).2 with ⟨replayed, stored⟩ | absent
        · have same := List.inj_on_of_nodup_map pages.sequences stored member sequence
          exact ⟨replayed, same ▸ .refl _⟩
        · exact absurd (List.find?_eq_none.mp absent page member) (by simp [sequence])
      · obtain ⟨replayed, same⟩ := answers request success later
          (sequence.trans identity.pageSequence.symm)
        exact ⟨replayed, identity.trans same⟩

/-- A page that is already stored is answered again, with the Run it was bound to. -/
theorem PagesHaveRuns.replay (pages : PagesHaveRuns canonical before) {page : DatasetGenerationPage}
    (member : page ∈ before.generation.pages) {environment : PageAuthorizationEnvironment Value}
    {request : AuthorizePageRequest} {plan : DatasetGenerationPlan}
    (authorizing : authorizingPlan before request = .ok plan)
    (named : request.generationId = before.generation.creation.generation.generationId)
    (sequence : nextPageSequence before = page.pageSequence) :
    authorizePage environment before request = .ok (.ok ⟨page, true⟩, before) := by
  have hasRun := pages.pages page member
  obtain ⟨storedPlan, _, caller, _⟩ := authorizingPlan_ok authorizing
  obtain ⟨intentionHash, identity⟩ := hasRun.run
  obtain ⟨run, found, same⟩ := pages.runs.findByIdempotencyKey identity
  have sameGeneration : request.generationId = page.generationId :=
    named.trans hasRun.generation.symm
  have sameWorkspace : page.workspaceId = request.workspaceId :=
    (hasRun.workspace plan storedPlan).trans (validateCallerAuthorization_ok caller).1.symm
  have runId : run.runId = page.runId := congrArg RunIdentity.runId same
  have runPlanId : run.runPlanId = page.runPlanId := congrArg RunIdentity.runPlanId same
  have byKey : before.pageRows.runs.findByIdempotencyKey
      (creationKey page.generationId page.pageSequence) = some run := found
  simp only [authorizePage, authorizing, sequence, pages.loadPage member, replayPriorPage,
    sameGeneration, byKey, sameWorkspace, runId, runPlanId, hasRun.positive, Option.any_some,
    beq_self_eq_true, decide_true, Bool.and_self, ↓reduceIte]

/-- **One page and one Run.** At every reachable state each page is the only one of its
sequence, its Run the only one of its key, and all later authorizations answer with it. -/
theorem reachable_pagesAreAuthorizedOnce {rows : PageCreationRows Value}
    (reachable : (pageAuthorizationSystem canonical).Reachable rows) :
    PagesAreAuthorizedOnce canonical rows := by
  have pages := (pagesHaveRuns_invariant canonical).reachable reachable
  refine ⟨fun page member => ?_, fun request success after moved =>
    (authorizePage_stored pages moved).1⟩
  obtain ⟨intentionHash, identity⟩ := (pages.pages page member).run
  obtain ⟨run, found, same⟩ := pages.runs.findByIdempotencyKey identity
  refine ⟨?_, pages.runs.countP_key identity, ?_, ?_, ?_⟩
  · have once := List.count_eq_one_of_mem pages.sequences
      (List.mem_map_of_mem (f := DatasetGenerationPage.pageSequence) member)
    rw [List.count, List.countP_map] at once
    exact once
  · exact ⟨run, List.mem_of_find?_eq_some found, congrArg RunIdentity.runId same,
      congrArg RunIdentity.idempotencyKey same⟩
  · intro environment request plan authorizing named sequence
    exact pages.replay member authorizing named sequence
  · intro labels last run
    exact page_run run pages member

/-- **Page authorization is all-or-nothing and idempotent**, the former exactly when what
it plans fits the rows: no other intention has the key or the plan of the page, and the
page passes the checks that the authorization leaves open. -/
theorem pageAuthorization_atomic_once_iff {environment : PageAuthorizationEnvironment Value}
    {rows : PageCreationRows Value} {request : AuthorizePageRequest}
    (reachable : (pageAuthorizationSystem environment.canonical).Reachable rows)
    (named : request.generationId = rows.generation.creation.generation.generationId)
    (fresh : FreshIdentifiers rows.creation environment.identifiers) :
    (RefusalLeavesRows environment rows request ∧
        PagesAreAuthorizedOnce environment.canonical rows) ↔
      AuthorizationFits environment rows request := by
  have pages := (pagesHaveRuns_invariant environment.canonical).reachable reachable
  rw [refusalLeavesRows_iff named pages.valid fresh]
  exact and_iff_left (reachable_pagesAreAuthorizedOnce reachable)

end Once

end System

/-! ## The sample generation -/

/-- Hashes that tell the first page of the sample generation from its later pages. -/
def samplePageHash (first : Bool) : ContentHash :=
  if first then sampleHash
  else "sha256:fedcba9876543210fedcba9876543210fedcba9876543210fedcba9876543210"

private theorem samplePageHash_valid (first : Bool) : contentHashIsValid (samplePageHash first) =
    true := by
  cases first with
  | false => decide
  | true => decide

def samplePageCanonicalization : PageCanonicalization String where
  inputValue _ := "page input"
  evidence := ⟨fun _ => sampleHash, fun _ => 100⟩
  pageIdentity _ pageSequence := samplePageHash (pageSequence == 1)
  workflowHash _ := sampleHash
  runPlanHash draft := "sha256:" ++ draft.runPlanId
  inputIdentity _ _ runPlanId _ :=
    samplePageHash (runPlanId == "dataset-generation-page-plan_" ++ hashDigits sampleHash)
  evidence_valid _ := samplePageHash_valid true
  pageIdentity_valid _ _ := samplePageHash_valid _
  runPlanHash_identity left right same := by simpa using same
  inputIdentity_valid _ _ _ _ := samplePageHash_valid _

def samplePageEnvironment : PageAuthorizationEnvironment String :=
  ⟨samplePageCanonicalization, ⟨"run-1", "event-1", "message-1"⟩, 1⟩

/-- The sample generation before its first page, next to the given Runs. -/
def samplePageCreationRows (runs : List Run) : PageCreationRows String :=
  ⟨sampleRows sampleCreation [], ⟨sampleRunRows runs, [], [], [], [], []⟩⟩

/-- A Run plan that is not the plan of a page. -/
def sampleOtherDraft : RunPlanDraft where
  runPlanId := "run-plan-9"
  workspaceId := "workspace-1"
  normalizedInputHash := sampleHash
  catalogVersion := "1.0.0"
  catalogFingerprint := sampleHash
  compiledWorkflow := sampleRunPlan.compiledWorkflow
  inputContract := sampleContract
  outputContract := sampleContract
  policyVersion := "1.0.0"
  policyFactsHash := sampleHash
  retryPolicy := ⟨1⟩
  routeSnapshots := []
  quote := samplePlan.quote
  budget := samplePlan.budget
  deadline := 1000
  authority := samplePlan.authority

/-- A Run of another plan under the key of the first page. -/
def sampleOtherRun : Run :=
  { samplePageRun 1 with
    runId := "run-9"
    runPlanId := sampleOtherDraft.runPlanId
    intentionHash := samplePageCanonicalization.runPlanHash sampleOtherDraft }

/-- The Runs of the sample rows are unique when none or this other Run is stored. -/
theorem samplePageCreationRows_initial {runs : List Run}
    (known : runs = [] ∨ runs = [sampleOtherRun]) :
    (pageAuthorizationSystem samplePageCanonicalization).initial (samplePageCreationRows runs) := by
  refine ⟨rfl, ?_⟩
  rcases known with rfl | rfl
  · exact ⟨.nil, .nil, by simp [samplePageCreationRows],
      by simp [samplePageCreationRows, sampleRunRows, runIdentities],
      by simp [samplePageCreationRows]⟩
  · refine ⟨List.nodup_singleton _, List.nodup_singleton _, by simp [samplePageCreationRows], ?_,
      by simp [samplePageCreationRows]⟩
    intro identity member
    obtain rfl := List.mem_singleton.mp member
    exact ⟨sampleOtherDraft, rfl, rfl⟩

/-- Beside no other Run, the first page is authorized once, and refused without writes. -/
theorem pageAuthorization_atomic_once_first :
    RefusalLeavesRows samplePageEnvironment (samplePageCreationRows []) samplePageRequest ∧
      PagesAreAuthorizedOnce samplePageCanonicalization (samplePageCreationRows []) := by
  refine (@pageAuthorization_atomic_once_iff _ _ samplePageEnvironment _ samplePageRequest
    (.initial (samplePageCreationRows_initial (.inl rfl))) rfl ⟨rfl, rfl, rfl⟩).mpr ?_
  intro plan inputCursor planned _ stored _
  have bounded : newPageIsBounded samplePageRequest 1 "run-1" = true := by decide
  exact .inl ((Bool.and_eq_true _ _).mpr ⟨rfl, bounded⟩)

/-- A Run that holds the key of the page leaves the refused page's plan stored. -/
theorem pageAuthorization_leaves_plan :
    (pageAuthorizationSystem samplePageCanonicalization).Reachable
        (samplePageCreationRows [sampleOtherRun]) ∧
      FreshIdentifiers (samplePageCreationRows [sampleOtherRun]).creation
        samplePageEnvironment.identifiers ∧
      ∃ failure after, authorizePage samplePageEnvironment (samplePageCreationRows [sampleOtherRun])
          samplePageRequest = .ok (.error failure, after) ∧ after.creation.runPlans.length = 1 ∧
        ¬ RefusalLeavesRows samplePageEnvironment (samplePageCreationRows [sampleOtherRun])
          samplePageRequest := by
  refine ⟨.initial (samplePageCreationRows_initial (.inr rfl)), ⟨by decide, rfl, rfl⟩, ?_⟩
  have viewed : (authorizePage samplePageEnvironment (samplePageCreationRows [sampleOtherRun])
      samplePageRequest).toOption.map (fun outcome =>
        (outcome.1.toOption.isSome, outcome.2.creation.runPlans.length)) = some (false, 1) := by
    with_unfolding_all decide
  obtain ⟨⟨result, after⟩, authorized, seen⟩ := eq_ok_of_view viewed
  cases result with
  | ok success => simp [Except.toOption] at seen
  | error failure =>
      have stored : after.creation.runPlans.length = 1 := congrArg Prod.snd seen
      refine ⟨failure, after, authorized, stored, fun leaves => ?_⟩
      rw [leaves failure after authorized] at stored
      exact absurd stored (by decide)

end Kurobara.Application
