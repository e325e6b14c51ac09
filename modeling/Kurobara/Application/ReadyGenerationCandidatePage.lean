import Kurobara.Engine.SourcingBudgetPreflight
import Kurobara.Foundation.Paging
import Kurobara.Kernel.Generation.Snapshot

/-! # Pages of generated candidates

`readReadyGenerationCandidatePage`: one page of a ready generation, cut from the answer of a
record port that is not trusted. Following the cursor of its pages visits every ordinal once.
-/

namespace Kurobara.Application.ReadyGenerationCandidatePage

open Kurobara.Foundation Kurobara.Kernel Kurobara.Engine

/-- `MAX_GENERATED_CANDIDATE_PAGE_SIZE`. -/
def maxGeneratedCandidatePageSize : ℤ := 100

inductive ReadyGenerationCandidatePageFailureCode where
  | datasetGenerationNotFound
  | datasetGenerationNotReady
  | datasetRecordInvalid
  | datasetSchemaInvalid
  | requestInvalid
  deriving DecidableEq, Repr

structure ReadyGenerationCandidatePageFailure where
  code : ReadyGenerationCandidatePageFailureCode
  message : String
  deriving DecidableEq, Repr

/-- A row that the record port answers; its ordinal may be any number. -/
structure DatasetRecordPageEntry where
  ordinal : Engine.JsNumber
  record : DatasetRecord
  deriving DecidableEq, Repr

/-- A page of records as the port answers it. -/
structure DatasetRecordPage where
  dataset : Dataset
  fields : List Field
  hasMore : Bool
  items : List DatasetRecordPageEntry
  materialization : DatasetMaterialization
  deriving DecidableEq, Repr

/-- A candidate with the ordinal of its record. -/
structure ListedCandidate (Candidate : Type) where
  candidate : Candidate
  ordinal : ℤ
  deriving DecidableEq, Repr

/-- Where a page starts, its limit and where the next one starts. -/
structure CandidatePageCursor where
  afterOrdinal : ℤ
  hasMore : Bool
  limit : ℤ
  nextAfterOrdinal : Option ℤ
  deriving DecidableEq, Repr

/-- The candidates of one page of a ready generation. -/
structure ReadyGenerationCandidatePageSuccess (Candidate : Type) where
  generation : DatasetGeneration
  items : List (ListedCandidate Candidate)
  materialization : DatasetMaterialization
  page : CandidatePageCursor
  deriving DecidableEq, Repr

/-- The request of one page. -/
structure ReadyGenerationCandidatePageRequest where
  afterOrdinal : ℤ
  generationId : DatasetGenerationId
  limit : ℤ
  workspaceId : WorkspaceId
  deriving DecidableEq, Repr

/-- The keys of the fields of a page, by their identities. -/
abbrev FieldMap := List (FieldId × String)

/-- What is read of a generation; the labels are ASCII. -/
structure GeneratedCandidateProjection (Candidate : Type) where
  capabilityId : String
  capabilityVersion : String
  fields : List (String × FieldValueType)
  label : String
  project : DatasetRecordPageEntry → FieldMap → Option Candidate

/-- `requestIsValid`: safe integers, a limit from 1 to the page size. -/
def requestIsValid (request : ReadyGenerationCandidatePageRequest) (maxPageSize : ℤ) : Bool :=
  isSafeInteger request.afterOrdinal && decide (0 ≤ request.afterOrdinal) &&
    isSafeInteger request.limit && decide (1 ≤ request.limit) &&
    decide (request.limit ≤ maxPageSize)

private def completionProofMatches (materialization : DatasetMaterialization) : Bool :=
  (materialization.completionReason == some "caps-reached" &&
      materialization.coverage.any fun coverage => coverage.status == .bounded) ||
    (materialization.completionReason == some "source-completed" &&
      materialization.coverage.any fun coverage => coverage.status == .completeForDeclaredSource)

section

variable {Candidate : Type}

/-- The generation is the requested one and ready for the projection. -/
def generationIsReady (creation : DatasetGenerationCreation)
    (request : ReadyGenerationCandidatePageRequest)
    (projection : GeneratedCandidateProjection Candidate) : Bool :=
  let generation := creation.generation
  let materialization := creation.materialization
  generation.workspaceId == request.workspaceId &&
    materialization.workspaceId == request.workspaceId &&
    generation.capability.capabilityId == projection.capabilityId &&
    generation.capability.capabilityVersion == projection.capabilityVersion &&
    materialization.origin == .generation generation.generationId &&
    generation.datasetId == materialization.datasetId &&
    generation.materializationId == materialization.materializationId &&
    generation.state == .completed && materialization.state == .ready &&
    materialization.contentHash.isSome && materialization.completedAt.isSome &&
    materialization.completionReason.isSome &&
    (materialization.coverage.any fun coverage => coverage.basis == .lockedProviderRoute) &&
    completionProofMatches materialization

/-- The page the port answered is of the materialized dataset, at the requested place. -/
def pageIsConsistent (creation : DatasetGenerationCreation) (page : DatasetRecordPage)
    (request : ReadyGenerationCandidatePageRequest) : Bool :=
  let remaining := creation.materialization.recordCount - request.afterOrdinal
  page.dataset.datasetId == creation.generation.datasetId &&
    page.dataset.workspaceId == request.workspaceId &&
    page.materialization.materializationId == creation.materialization.materializationId &&
    page.materialization.datasetId == creation.materialization.datasetId &&
    page.materialization.workspaceId == request.workspaceId &&
    page.materialization.state == .ready &&
    page.materialization.revision == creation.materialization.revision &&
    page.materialization.recordCount == creation.materialization.recordCount &&
    page.materialization.schemaHash == creation.materialization.schemaHash &&
    page.materialization.contentHash == creation.materialization.contentHash &&
    decide ((page.items.length : ℤ) = min request.limit remaining) &&
    page.hasMore == decide (request.limit < remaining)

/-- The loop of `exactFieldMap`, behind the fields that are mapped. -/
def mapFields (creation : DatasetGenerationCreation)
    (expectedFields : List (String × FieldValueType)) (mapped : FieldMap) :
    List Field → Option FieldMap
  | [] => if mapped.length = expectedFields.length then some mapped else none
  | field :: rest =>
      if expectedFields.lookup field.key != some field.valueType ||
          field.datasetId != creation.generation.datasetId ||
          field.workspaceId != creation.generation.workspaceId ||
          mapped.any fun known => known.1 == field.fieldId || known.2 == field.key then
        none
      else mapFields creation expectedFields (mapped ++ [(field.fieldId, field.key)]) rest

/-- The identifiers of the expected fields, where the page's fields are exactly these. -/
def exactFieldMap (creation : DatasetGenerationCreation) (page : DatasetRecordPage)
    (expectedFields : List (String × FieldValueType)) : Option FieldMap :=
  if page.fields.length != expectedFields.length then none
  else mapFields creation expectedFields [] page.fields

private def recordInvalid (label : String) : ReadyGenerationCandidatePageFailure where
  code := .datasetRecordInvalid
  message := "A generated " ++ label.toLower ++ " record violates the public projection."

/-- The loop over the rows of a page, behind the previous ordinal. -/
def listCandidates (projection : GeneratedCandidateProjection Candidate)
    (creation : DatasetGenerationCreation) (request : ReadyGenerationCandidatePageRequest)
    (fields : FieldMap) (previousOrdinal : ℤ) : List DatasetRecordPageEntry →
      Except ReadyGenerationCandidatePageFailure (List (ListedCandidate Candidate))
  | [] => .ok []
  | entry :: rest =>
      match projection.project entry fields, entry.ordinal.safeInteger? with
      | some candidate, some ordinal =>
          if entry.record.datasetId != creation.generation.datasetId ||
              entry.record.workspaceId != request.workspaceId ||
              ordinal != previousOrdinal + 1 ||
              decide (creation.materialization.recordCount < ordinal) then
            .error (recordInvalid projection.label)
          else (listCandidates projection creation request fields ordinal rest).map
            (⟨candidate, ordinal⟩ :: ·)
      | _, _ => .error (recordInvalid projection.label)

/-- One page, for what the two ports answer to it. -/
def readReadyGenerationCandidatePage (projection : GeneratedCandidateProjection Candidate)
    (maxPageSize : ℤ) (request : ReadyGenerationCandidatePageRequest)
    (stored : Option DatasetGenerationCreation) (answer : Option DatasetRecordPage) :
    Except ReadyGenerationCandidatePageFailure (ReadyGenerationCandidatePageSuccess Candidate) :=
  if !requestIsValid request maxPageSize then
    .error ⟨.requestInvalid, "The requested page is invalid."⟩
  else
    match stored with
    | none => .error ⟨.datasetGenerationNotFound,
        "The dataset generation does not exist in this workspace."⟩
    | some creation =>
      if !generationIsReady creation request projection then
        .error ⟨.datasetGenerationNotReady, projection.label ++ " candidates are available only " ++
          "from a ready " ++ projection.capabilityId ++ " generation."⟩
      else if creation.materialization.recordCount < request.afterOrdinal then
        .error ⟨.requestInvalid,
          "The requested page starts after the materialized record range."⟩
      else
        match answer.filter fun page => pageIsConsistent creation page request with
        | none => .error ⟨.datasetGenerationNotReady,
            "The ready materialization could not be read consistently."⟩
        | some page =>
          match exactFieldMap creation page projection.fields with
          | none => .error ⟨.datasetSchemaInvalid, "The generated " ++ projection.label.toLower ++
              " dataset schema is invalid."⟩
          | some fields =>
            match listCandidates projection creation request fields request.afterOrdinal
                page.items with
            | .error failure => .error failure
            | .ok items =>
              if page.hasMore && items.isEmpty then
                .error ⟨.datasetRecordInvalid, "A generated " ++ projection.label.toLower ++
                  " page did not advance its cursor."⟩
              else
                .ok
                  { generation := creation.generation
                    items := items
                    materialization := creation.materialization
                    page := {
                      afterOrdinal := request.afterOrdinal
                      hasMore := page.hasMore
                      limit := request.limit
                      nextAfterOrdinal :=
                        if page.hasMore then items.getLast?.map ListedCandidate.ordinal
                        else none } }

/-! ## One page -/

/-- What a page shows of the range: its ordinals and its cursor. -/
def ReadyGenerationCandidatePageSuccess.cursorPage
    (success : ReadyGenerationCandidatePageSuccess Candidate) : CursorPage where
  ordinals := success.items.map ListedCandidate.ordinal
  next := success.page.nextAfterOrdinal

variable {projection : GeneratedCandidateProjection Candidate} {maxPageSize : ℤ}
  {request : ReadyGenerationCandidatePageRequest} {creation : DatasetGenerationCreation}

/-- The rows continue the ordinals of the dataset behind the previous one. -/
structure RowsContinue (creation : DatasetGenerationCreation)
    (request : ReadyGenerationCandidatePageRequest) (previousOrdinal : ℤ)
    (entries : List DatasetRecordPageEntry) : Prop where
  ordinals : entries.map (fun entry => entry.ordinal.safeInteger?) =
    (ordinalsFrom previousOrdinal entries.length).map some
  records : ∀ entry ∈ entries, entry.record.datasetId = creation.generation.datasetId ∧
    entry.record.workspaceId = request.workspaceId

/-- By induction on the rows: the listed ordinals follow the previous one without a gap. -/
theorem listCandidates_ordinals {fields : FieldMap} {entries : List DatasetRecordPageEntry} :
    ∀ {previousOrdinal : ℤ} {items : List (ListedCandidate Candidate)},
      listCandidates projection creation request fields previousOrdinal entries = .ok items →
      items.map ListedCandidate.ordinal = ordinalsFrom previousOrdinal entries.length ∧
        RowsContinue creation request previousOrdinal entries := by
  induction entries with
  | nil =>
      intro previousOrdinal items listed
      obtain rfl := Except.ok.inj listed
      exact ⟨rfl, rfl, fun _ none => absurd none List.not_mem_nil⟩
  | cons entry rest ih =>
      intro previousOrdinal items listed
      rw [listCandidates] at listed
      split at listed
      · rename_i candidate ordinal _ ordinalEq
        split at listed
        · cases listed
        rename_i accepted
        cases laterEq : listCandidates projection creation request fields ordinal rest with
        | error failure =>
            rw [laterEq] at listed
            cases listed
        | ok later =>
            rw [laterEq] at listed
            obtain rfl := Except.ok.inj listed
            simp only [Bool.or_eq_true, not_or, bne_iff_ne, not_not] at accepted
            obtain ⟨⟨⟨dataset, workspace⟩, next⟩, _⟩ := accepted
            obtain ⟨ordinals, continues⟩ := ih laterEq
            rw [next] at ordinals continues
            refine ⟨?_, ?_, List.forall_mem_cons.mpr ⟨⟨dataset, workspace⟩, continues.records⟩⟩
            · rw [List.map_cons, ordinals, List.length_cons, ordinalsFrom_succ, next]
            · rw [List.map_cons, List.length_cons, ordinalsFrom_succ, List.map_cons,
                continues.ordinals, ordinalEq, next]
      · cases listed

private theorem ordinalsFrom_getLast? (after : ℤ) {length : ℕ} (positive : 0 < length) :
    (ordinalsFrom after length).getLast? = some (after + length) := by
  obtain ⟨earlier, rfl⟩ := Nat.exists_eq_succ_of_ne_zero positive.ne'
  rw [Nat.succ_eq_add_one, ordinalsFrom_add, List.getLast?_append_of_ne_nil]
  · simp [ordinalsFrom]
    omega
  · simp [ordinalsFrom]

/-- The answer of the record port is the slice that was asked for, of the same dataset. -/
structure AnswerIsExact (creation : DatasetGenerationCreation)
    (request : ReadyGenerationCandidatePageRequest) (page : DatasetRecordPage) : Prop where
  size : (page.items.length : ℤ) =
    min request.limit (creation.materialization.recordCount - request.afterOrdinal)
  more : page.hasMore =
    decide (request.limit < creation.materialization.recordCount - request.afterOrdinal)
  rows : RowsContinue creation request request.afterOrdinal page.items
  materialization :
    page.materialization.materializationId = creation.materialization.materializationId ∧
      page.materialization.revision = creation.materialization.revision ∧
      page.materialization.contentHash = creation.materialization.contentHash

/-- What a page that succeeds has checked. -/
structure PageHolds (creation : DatasetGenerationCreation)
    (request : ReadyGenerationCandidatePageRequest) (page : DatasetRecordPage)
    (success : ReadyGenerationCandidatePageSuccess Candidate) : Prop where
  limit : 1 ≤ request.limit
  inside : request.afterOrdinal ≤ creation.materialization.recordCount
  answer : AnswerIsExact creation request page
  ordinals : success.items.map ListedCandidate.ordinal =
    ordinalsFrom request.afterOrdinal page.items.length
  next : success.page.nextAfterOrdinal =
    if page.hasMore then success.items.getLast?.map ListedCandidate.ordinal else none

private theorem readPage_holds {answer : Option DatasetRecordPage}
    {success : ReadyGenerationCandidatePageSuccess Candidate}
    (read : readReadyGenerationCandidatePage projection maxPageSize request (some creation) answer =
      .ok success) : ∃ page, answer = some page ∧ PageHolds creation request page success := by
  unfold readReadyGenerationCandidatePage at read
  split at read
  · cases read
  rename_i valid
  dsimp only at read
  split at read
  · cases read
  split at read
  · cases read
  rename_i inside
  split at read
  · cases read
  rename_i page consistent
  split at read
  · cases read
  rename_i fields _
  split at read
  · cases read
  rename_i items listed
  split at read
  · cases read
  obtain rfl := Except.ok.inj read
  obtain ⟨answered, consistentPage⟩ := Option.filter_eq_some_iff.mp consistent
  obtain ⟨ordinals, continues⟩ := listCandidates_ordinals listed
  simp only [pageIsConsistent, Bool.and_eq_true, beq_iff_eq, decide_eq_true_iff] at consistentPage
  obtain ⟨⟨⟨⟨⟨⟨⟨⟨⟨⟨_, materialization⟩, _⟩, _⟩, _⟩, revision⟩, _⟩, _⟩, content⟩, size⟩, more⟩ :=
    consistentPage
  simp only [requestIsValid, Bool.not_eq_true', Bool.not_eq_false, Bool.and_eq_true,
    decide_eq_true_iff] at valid
  exact ⟨page, answered, valid.1.2, not_lt.mp inside,
    ⟨size, more, continues, materialization, revision, content⟩, ordinals, rfl⟩

/-- A page that is answered lists at most its limit. -/
theorem readPage_length {stored : Option DatasetGenerationCreation}
    {answer : Option DatasetRecordPage} {success : ReadyGenerationCandidatePageSuccess Candidate}
    (read : readReadyGenerationCandidatePage projection maxPageSize request stored answer =
      .ok success) : (success.items.length : ℤ) ≤ request.limit := by
  cases stored with
  | none =>
      unfold readReadyGenerationCandidatePage at read
      split at read
      · cases read
      · cases read
  | some creation =>
      obtain ⟨page, _, holds⟩ := readPage_holds read
      have length := congrArg List.length holds.ordinals
      rw [List.length_map, ordinalsFrom_length] at length
      rw [length, holds.answer.size]
      exact min_le_left _ _

/-- A page that is answered is the next slice of the records. -/
theorem readPage_isSlice {answer : Option DatasetRecordPage}
    {success : ReadyGenerationCandidatePageSuccess Candidate}
    (read : readReadyGenerationCandidatePage projection maxPageSize request (some creation) answer =
      .ok success) :
    IsSlice creation.materialization.recordCount request.afterOrdinal success.cursorPage := by
  obtain ⟨page, _, holds⟩ := readPage_holds read
  have size := holds.answer.size
  have more := holds.answer.more
  have limit := holds.limit
  have inside := holds.inside
  have count : success.cursorPage.ordinals.length = page.items.length := by
    rw [ReadyGenerationCandidatePageSuccess.cursorPage, holds.ordinals, ordinalsFrom_length]
  have next : success.cursorPage.next =
      if request.limit < creation.materialization.recordCount - request.afterOrdinal then
        some (request.afterOrdinal + page.items.length) else none := by
    change success.page.nextAfterOrdinal = _
    by_cases follows : request.limit < creation.materialization.recordCount - request.afterOrdinal
    · rw [holds.next, more, decide_eq_true follows, if_pos rfl, if_pos follows,
        ← List.getLast?_map, holds.ordinals, ordinalsFrom_getLast? _ (by omega)]
    · rw [holds.next, more, decide_eq_false follows, if_neg Bool.false_ne_true, if_neg follows]
  refine ⟨?_, ?_, ?_, ?_⟩
  · rw [count]
    exact holds.ordinals
  · rw [count]
    omega
  · rw [count, next]
    split
    · exact iff_of_false (by simp) (by omega)
    · exact iff_of_true rfl (by omega)
  · intro cursor isCursor
    rw [next] at isCursor
    rw [count]
    split at isCursor
    · exact ⟨(Option.some.inj isCursor).symm, by omega⟩
    · cases isCursor

/-! ## All pages -/

/-- One step of a walk: the limit of its page, and what the record port answers to it. -/
structure PageStep where
  limit : ℤ
  answer : Option DatasetRecordPage

/-- Read one page of a generation behind a cursor. -/
def readStep (projection : GeneratedCandidateProjection Candidate) (maxPageSize : ℤ)
    (generationId : DatasetGenerationId) (workspaceId : WorkspaceId)
    (creation : DatasetGenerationCreation) (afterOrdinal : ℤ) (step : PageStep) :
    Except ReadyGenerationCandidatePageFailure CursorPage :=
  (readReadyGenerationCandidatePage projection maxPageSize
    ⟨afterOrdinal, generationId, step.limit, workspaceId⟩ (some creation) step.answer).map
      ReadyGenerationCandidatePageSuccess.cursorPage

/-- Read the pages of a generation from its start, as far as the steps go. -/
def walkCandidates (projection : GeneratedCandidateProjection Candidate) (maxPageSize : ℤ)
    (generationId : DatasetGenerationId) (workspaceId : WorkspaceId)
    (creation : DatasetGenerationCreation) (steps : List PageStep) :
    Except ReadyGenerationCandidatePageFailure CursorPage :=
  followPages (readStep projection maxPageSize generationId workspaceId creation) 0 steps

/-- A walk through `1 .. count` in order: it visits all of it once no cursor is left, which is so
after enough steps at the latest. -/
structure WalkIsExact (count : ℤ) (steps : ℕ) (walked : CursorPage) : Prop where
  ordinals : walked.ordinals = ordinalsFrom 0 walked.ordinals.length
  whole : walked.next = none → (walked.ordinals.length : ℤ) = count
  cursor : ∀ next, walked.next = some next → next = walked.ordinals.length ∧
    (0 < steps → next < count)
  ends : 0 < steps → count ≤ steps → walked.next = none

/-- **Candidate paging is exact**, whatever the record port answers: an inexact answer fails its
page, a page that succeeds is the next slice and has a cursor unless it ends the range, and the
pages that are followed visit every ordinal once, in order, and end. -/
theorem candidatePaging_isExact (projection : GeneratedCandidateProjection Candidate)
    (maxPageSize : ℤ) (creation : DatasetGenerationCreation) :
    (∀ request answer,
      (∀ page, answer = some page → ¬ AnswerIsExact creation request page) →
      ∃ failure, readReadyGenerationCandidatePage projection maxPageSize request (some creation)
        answer = .error failure) ∧
    (∀ request answer success,
      readReadyGenerationCandidatePage projection maxPageSize request (some creation) answer =
        .ok success →
      IsSlice creation.materialization.recordCount request.afterOrdinal success.cursorPage) ∧
    ∀ generationId workspaceId steps walked,
      walkCandidates projection maxPageSize generationId workspaceId creation steps = .ok walked →
      WalkIsExact creation.materialization.recordCount steps.length walked := by
  refine ⟨fun request answer inexact => ?_, fun request answer success => readPage_isSlice, ?_⟩
  · cases read : readReadyGenerationCandidatePage projection maxPageSize request (some creation)
      answer with
    | error failure => exact ⟨failure, rfl⟩
    | ok success =>
        obtain ⟨page, answered, holds⟩ := readPage_holds read
        exact absurd holds.answer (inexact page answered)
  · intro generationId workspaceId steps walked walks
    have slices : ∀ after step page,
        readStep projection maxPageSize generationId workspaceId creation after step = .ok page →
        IsSlice creation.materialization.recordCount after page := by
      intro after step page read
      unfold readStep at read
      cases success : readReadyGenerationCandidatePage projection maxPageSize
          ⟨after, generationId, step.limit, workspaceId⟩ (some creation) step.answer with
      | error failure =>
          rw [success] at read
          cases read
      | ok answered =>
          rw [success] at read
          obtain rfl := Except.ok.inj read
          exact readPage_isSlice success
    have walk := followPages_isWalk slices walks
    refine ⟨walk.ordinals, fun none => ?_, fun next isNext => ?_, fun started enough => ?_⟩
    · have whole := walk.whole none
      rwa [zero_add] at whole
    · obtain ⟨nextIs, _, before⟩ := walk.cursor next isNext
      rw [zero_add] at nextIs
      exact ⟨nextIs, before⟩
    · exact (walk.ended started (by rwa [zero_add])).1

end

/-! ## A sample generation -/

private def sampleReadyGeneration : DatasetGenerationCreation where
  generation := {
    aggregateVersion := 5
    capability := ⟨"organizations.discover", "1.0.0"⟩
    cost := ⟨0, 1, "credit"⟩
    counters := ⟨3, 1, 0, 1, 0, 3⟩
    createdAt := 1
    datasetId := "dataset-1"
    generationId := "generation-1"
    generationPlanId := "generation-plan-1"
    lastPageSequence := some 1
    lockedProvider := some "provider-1"
    materializationId := "materialization-1"
    planHash := sampleHash
    queryHash := sampleHash
    requestIntentHash := sampleHash
    schemaHash := sampleHash
    state := .completed
    stop := none
    workspaceId := "workspace-1" }
  materialization := {
    completedAt := some 2
    completionReason := some "caps-reached"
    contentHash := some sampleHash
    coverage := some ⟨.lockedProviderRoute, .bounded⟩
    createdAt := 1
    datasetId := "dataset-1"
    materializationId := "materialization-1"
    origin := .generation "generation-1"
    recordCount := 3
    rejectedCount := 0
    revision := 2
    schemaHash := sampleHash
    state := .ready
    workspaceId := "workspace-1" }

private def sampleProjection : GeneratedCandidateProjection RecordId where
  capabilityId := "organizations.discover"
  capabilityVersion := "1.0.0"
  fields := [("domain", .string)]
  label := "Company"
  project := fun entry _ => some entry.record.recordId

private def sampleEntry (ordinal : ℤ) : DatasetRecordPageEntry where
  ordinal := .finite ordinal
  record := ⟨"dataset-1", "record-1", [], "workspace-1"⟩

def samplePage (ordinals : List ℤ) (hasMore : Bool) : DatasetRecordPage where
  dataset := ⟨"dataset-1", "Companies", "workspace-1"⟩
  fields := [⟨"dataset-1", "field-1", "domain", "Domain", .string, "workspace-1"⟩]
  hasMore := hasMore
  items := ordinals.map sampleEntry
  materialization := sampleReadyGeneration.materialization

/-- Two pages of two visit three records. -/
theorem candidatePaging_isExact_sample :
    WalkIsExact 3 2 ⟨[1, 2, 3], none⟩ := by
  have walks : walkCandidates sampleProjection maxGeneratedCandidatePageSize "generation-1"
      "workspace-1" sampleReadyGeneration
      [⟨2, some (samplePage [1, 2] true)⟩, ⟨2, some (samplePage [3] false)⟩] =
        .ok ⟨[1, 2, 3], none⟩ := by decide
  exact (candidatePaging_isExact sampleProjection maxGeneratedCandidatePageSize
    sampleReadyGeneration).2.2 _ _ _ _ walks

end Kurobara.Application.ReadyGenerationCandidatePage
