import Kurobara.Application.ImportDataset
import Kurobara.Foundation.Batching

/-! # The batches of an import

The writer of an import puts the items of the decoded events into batches as the greedy batching
of `Foundation.Batching` does, and hands them over in order. An import that completes has handed
over every item up to the first unrecoverable issue.
-/

namespace Kurobara.Application.ImportDataset

open Foundation Kernel DatasetCodec
open ExportRecipeApplication (DatasetImportFormat)

/-! ## The items of decoded events -/

private def itemBytes (item : DatasetImportItem) : ℕ :=
  canonicalContentByteSize (hashableItem item)

/-- The item of an event within the limits of the request. -/
def itemOf (digest : ContentDigest) (prepared : PreparedImport) (maxBytes : ℤ)
    (event : DatasetDecodeEvent) (itemNumber : ℕ) : DatasetImportItem :=
  (boundedItem digest (eventItem digest event itemNumber prepared.dataset prepared.fields)
    maxBytes).item

/-- The items of events behind so many, up to the first unrecoverable issue. -/
def importedItems (digest : ContentDigest) (prepared : PreparedImport) (maxBytes : ℤ) :
    ℕ → List DatasetDecodeEvent → List DatasetImportItem
  | _, [] => []
  | itemNumber, event :: rest =>
      let item := itemOf digest prepared maxBytes event (itemNumber + 1)
      if item.isTerminal then [item]
      else item :: importedItems digest prepared maxBytes (itemNumber + 1) rest

/-- The record of an event, if the dataset admits it and its item is within the limit. -/
def admittedRecord (digest : ContentDigest) (prepared : PreparedImport) (maxBytes : ℤ)
    (itemNumber : ℕ) : DatasetDecodeEvent → Option Units.Record
  | .error _ => none
  | .record candidate recordNumber =>
      match domainRecord prepared.dataset prepared.fields candidate with
      | .error _ => none
      | .ok record =>
          if (itemBytes (eventItem digest (.record candidate recordNumber) itemNumber
            prepared.dataset prepared.fields) : ℤ) ≤ maxBytes then some record else none

section

variable {digest : ContentDigest} {prepared : PreparedImport} {maxBytes : ℤ}

/-- A replacement is small, whatever its number. -/
theorem oversizedItem_bytes (contentHash : JsString) (itemNumber : ℕ) :
    itemBytes (.issue contentHash oversizedBatchItemIssue itemNumber) ≤ 1024 := by
  have number := byteLength_ofCount itemNumber
  have issue : jsonBytes (issueContent oversizedBatchItemIssue).value ≤ 200 := by decide
  rw [itemBytes, canonicalContentByteSize_eq]
  change 2 + 2 + (byteLength (quoted (ascii "issue")) + 1 +
    jsonBytes (issueContent oversizedBatchItemIssue).value +
    (byteLength (quoted (ascii "itemNumber")) + 1 + byteLength (Double.ofCount itemNumber).text +
    (byteLength (quoted (ascii "kind")) + 1 + byteLength (quoted (ascii "issue")) + 0))) ≤ 1024
  have names : byteLength (quoted (ascii "issue")) = 7 ∧
      byteLength (quoted (ascii "itemNumber")) = 12 ∧ byteLength (quoted (ascii "kind")) = 6 := by
    decide
  omega

/-- Every item is within the limit of a batch. -/
theorem itemOf_bytes (least : minBatchBytes ≤ maxBytes) (event : DatasetDecodeEvent)
    (itemNumber : ℕ) : (itemBytes (itemOf digest prepared maxBytes event itemNumber) : ℤ) ≤
      maxBytes := by
  unfold itemOf boundedItem
  dsimp only
  split_ifs with fits
  · exact fits
  · have small := oversizedItem_bytes
      (canonicalContentHash digest (issueContent oversizedBatchItemIssue))
      (eventItem digest event itemNumber prepared.dataset prepared.fields).itemNumber
    exact le_trans (Int.ofNat_le.mpr small) least

private theorem importedItems_bytes (least : minBatchBytes ≤ maxBytes)
    (events : List DatasetDecodeEvent)
    (itemNumber : ℕ) : ∀ item ∈ importedItems digest prepared maxBytes itemNumber events,
      (itemBytes item : ℤ) ≤ maxBytes := by
  induction events generalizing itemNumber with
  | nil => exact List.forall_mem_nil _
  | cons event rest ih =>
      have here := @itemOf_bytes digest prepared maxBytes least event (itemNumber + 1)
      rw [importedItems]
      split_ifs
      · exact List.forall_mem_singleton.mpr here
      · exact List.forall_mem_cons.mpr ⟨here, ih _⟩

/-- An admitted record is its item. -/
theorem itemOf_record {event : DatasetDecodeEvent} {itemNumber : ℕ} {record : Units.Record}
    (admitted : admittedRecord digest prepared maxBytes itemNumber event = some record) :
    (itemOf digest prepared maxBytes event itemNumber).record? = some record ∧
      (itemOf digest prepared maxBytes event itemNumber).isTerminal = false := by
  cases event with
  | error error => cases admitted
  | record candidate recordNumber =>
      rw [admittedRecord] at admitted
      split at admitted
      · cases admitted
      · rename_i created found
        split_ifs at admitted with fits
        cases admitted
        unfold itemBytes at fits
        have item : itemOf digest prepared maxBytes (.record candidate recordNumber) itemNumber =
            .record (canonicalContentHash digest (recordContent record)) itemNumber record
              recordNumber := by
          unfold itemOf boundedItem
          dsimp only
          rw [if_pos fits, eventItem, found]
        rw [item]
        exact ⟨rfl, rfl⟩

/-- **The items are those of the events, in order**, and the import stops at an unrecoverable issue
only. -/
theorem importedItems_inOrder (events : List DatasetDecodeEvent) (itemNumber : ℕ) :
    importedItems digest prepared maxBytes itemNumber events <+:
        events.mapIdx (fun index event =>
          itemOf digest prepared maxBytes event (itemNumber + index + 1)) ∧
      (importedItems digest prepared maxBytes itemNumber events =
          events.mapIdx (fun index event =>
            itemOf digest prepared maxBytes event (itemNumber + index + 1)) ∨
        ∃ last ∈ (importedItems digest prepared maxBytes itemNumber events).getLast?,
          last.isTerminal = true) := by
  induction events generalizing itemNumber with
  | nil => exact ⟨List.prefix_rfl, .inl rfl⟩
  | cons event rest ih =>
      obtain ⟨inOrder, stops⟩ := ih (itemNumber + 1)
      have shift : (fun index event => itemOf digest prepared maxBytes event
          (itemNumber + (index + 1) + 1)) = fun index event =>
          itemOf digest prepared maxBytes event (itemNumber + 1 + index + 1) := by
        funext index event
        rw [Nat.add_right_comm itemNumber 1 index, Nat.add_assoc itemNumber index 1]
      rw [importedItems, List.mapIdx_cons, Nat.add_zero, shift]
      split_ifs with terminal
      · exact ⟨(List.prefix_cons_inj _).mpr (List.nil_prefix), .inr ⟨_, rfl, terminal⟩⟩
      · refine ⟨(List.prefix_cons_inj _).mpr inOrder, ?_⟩
        rcases stops with whole | ⟨last, found, unrecoverable⟩
        · exact .inl (by rw [whole])
        · refine .inr ⟨last, ?_, unrecoverable⟩
          rw [List.getLast?_cons, Option.mem_def.mp found]
          rfl

/-- Records that are all admitted are the items, one by one. -/
theorem importedItems_records {events : List DatasetDecodeEvent} {itemNumber : ℕ}
    {records : List Units.Record}
    (admitted : events.mapIdx (fun index event => admittedRecord digest prepared maxBytes
      (itemNumber + index + 1) event) = records.map some) :
    (importedItems digest prepared maxBytes itemNumber events).map DatasetImportItem.record? =
      records.map some := by
  induction events generalizing itemNumber records with
  | nil => rw [← admitted]; rfl
  | cons event rest ih =>
      have shift : (fun index event => admittedRecord digest prepared maxBytes
          (itemNumber + (index + 1) + 1) event) = fun index event =>
          admittedRecord digest prepared maxBytes (itemNumber + 1 + index + 1) event := by
        funext index event
        rw [Nat.add_right_comm itemNumber 1 index, Nat.add_assoc itemNumber index 1]
      rw [List.mapIdx_cons, Nat.add_zero, shift] at admitted
      cases records with
      | nil => cases admitted
      | cons record records =>
          rw [List.map_cons, List.cons.injEq] at admitted
          obtain ⟨item, continues⟩ := itemOf_record admitted.1
          rw [importedItems, if_neg (by rw [continues]; exact Bool.false_ne_true), List.map_cons,
            item,
            ih admitted.2, List.map_cons]

end

/-! ## The writer -/

/-- The bounds of the batches of a request. -/
def batchBounds (limits : DatasetImportBatchLimits) : BatchBounds :=
  ⟨limits.maxItems.toNat, limits.maxBytes.toNat⟩

section

variable {Progress : Type} {digest : ContentDigest} {datasets : DatasetPersistencePort Progress}
  {limits : DatasetImportBatchLimits}

/-- A writer knows the size of its open batch and the number of those it handed over. -/
structure Tracks (writer : BatchWriter Progress) : Prop where
  bytes : writer.batchBytes = totalWeight itemBytes writer.batchItems
  sequence : writer.batchSequence = writer.appended.length
  numbered : writer.appended.map DatasetImportBatch.sequence =
    List.range' 1 writer.appended.length

/-- The batches of a writer when so many items follow. -/
def batchesWith (limits : DatasetImportBatchLimits) (writer : BatchWriter Progress)
    (items : List DatasetImportItem) : List (List DatasetImportItem) :=
  writer.appended.map DatasetImportBatch.items ++
    batchesFrom itemBytes (batchBounds limits) writer.batchItems items

private theorem tracks_initial (progress : Progress) (replayed : Bool) :
    Tracks (BatchWriter.initial progress replayed) :=
  ⟨rfl, rfl, rfl⟩

/-- The batch that a writer hands over. -/
theorem batch_appended {writer : BatchWriter Progress} (tracks : Tracks writer) :
    (writer.appended ++ [writer.batch digest]).map DatasetImportBatch.sequence =
        List.range' 1 (writer.appended ++ [writer.batch digest]).length ∧
      (writer.appended ++ [writer.batch digest]).map DatasetImportBatch.items =
        writer.appended.map DatasetImportBatch.items ++ [writer.batchItems] := by
  constructor
  · rw [List.map_append, tracks.numbered, List.length_append, List.length_singleton,
      List.range'_concat, List.map_singleton, BatchWriter.batch, tracks.sequence, Nat.one_mul,
      Nat.add_comm 1]
  · rw [List.map_append]
    rfl

/-- **A flush hands over the open batch**, whether it is taken or not. -/
theorem flush_batches {writer next : BatchWriter Progress} {taken : Bool} (tracks : Tracks writer)
    (flushed : writer.flush digest datasets = (next, taken)) :
    Tracks next ∧ next.batchItems = [] ∧
      next.appended.map DatasetImportBatch.items = batchesWith limits writer [] := by
  unfold BatchWriter.flush at flushed
  split_ifs at flushed with empty
  · cases flushed
    have none := List.eq_nil_of_length_eq_zero empty
    refine ⟨tracks, none, ?_⟩
    rw [batchesWith, none, batchesFrom, List.append_nil]
  · have nonempty : writer.batchItems ≠ [] := fun none => empty (by rw [none]; rfl)
    obtain ⟨numbered, items⟩ := @batch_appended _ digest writer tracks
    have count : writer.batchSequence + 1 = (writer.appended ++ [writer.batch digest]).length := by
      rw [tracks.sequence, List.length_append, List.length_singleton]
    rw [batchesWith, batchesFrom_nil nonempty, ← items]
    dsimp only at flushed
    split at flushed <;> cases flushed <;> exact ⟨⟨rfl, count, numbered⟩, rfl, rfl⟩

private theorem push_tracks {writer : BatchWriter Progress} (tracks : Tracks writer)
    (item : DatasetImportItem) : Tracks (writer.push item) := by
  refine ⟨?_, tracks.sequence, tracks.numbered⟩
  rw [BatchWriter.push, tracks.bytes, totalWeight, totalWeight, List.map_append, List.sum_append,
    List.map_singleton, List.sum_singleton, itemBytes]

private theorem isFull_eq (items : 1 ≤ limits.maxItems) (bytes : 1 ≤ limits.maxBytes)
    {writer : BatchWriter Progress} (tracks : Tracks writer) (item : DatasetImportItem) :
    writer.isFull limits item =
      closesBefore itemBytes (batchBounds limits) writer.batchItems item := by
  have few : limits.maxItems ≤ writer.batchItems.length ↔
      (batchBounds limits).maxItems ≤ writer.batchItems.length := by
    unfold batchBounds
    dsimp only
    omega
  have small : limits.maxBytes < writer.batchBytes + canonicalContentByteSize (hashableItem item) ↔
      (batchBounds limits).maxWeight < totalWeight itemBytes writer.batchItems +
        itemBytes item := by
    unfold batchBounds itemBytes
    rw [tracks.bytes]
    unfold itemBytes
    dsimp only
    omega
  rw [BatchWriter.isFull, closesBefore, decide_eq_decide.mpr few, decide_eq_decide.mpr small]

/-- **An item that is added keeps the batches to come**; one that is not leaves them handed over in
part. -/
theorem add_batches (positive : 1 ≤ limits.maxItems) (bytes : 1 ≤ limits.maxBytes)
    {writer next : BatchWriter Progress} {item : DatasetImportItem} {taken : Bool}
    (tracks : Tracks writer) (added : writer.add digest datasets limits item = (next, taken))
    (rest : List DatasetImportItem) :
    Tracks next ∧ (taken = true → batchesWith limits next rest =
        batchesWith limits writer (item :: rest)) ∧
      (taken = false → next.appended.map DatasetImportBatch.items <+:
        batchesWith limits writer (item :: rest)) := by
  unfold BatchWriter.add at added
  rw [isFull_eq positive bytes tracks item] at added
  have opens : batchesWith limits writer (item :: rest) =
      writer.appended.map DatasetImportBatch.items ++
        if closesBefore itemBytes (batchBounds limits) writer.batchItems item then
          writer.batchItems :: batchesFrom itemBytes (batchBounds limits) [item] rest
        else batchesFrom itemBytes (batchBounds limits) (writer.batchItems ++ [item]) rest := by
    rw [batchesWith, batchesFrom_cons]
  split_ifs at added with full
  · have nonempty : writer.batchItems ≠ [] := by
      rintro none
      rw [none] at full
      cases full
    rw [opens, if_pos full]
    cases flushed : writer.flush digest datasets with
    | mk last answered =>
        obtain ⟨lastTracks, closed, items⟩ := @flush_batches _ _ _ limits _ _ _ tracks flushed
        rw [batchesWith, batchesFrom_nil nonempty] at items
        rw [flushed] at added
        cases answered with
        | false =>
            cases added
            refine ⟨lastTracks, fun impossible => (by cases impossible), fun _ => ?_⟩
            rw [items]
            exact ⟨batchesFrom itemBytes (batchBounds limits) [item] rest, by simp⟩
        | true =>
            cases added
            refine ⟨push_tracks lastTracks item, fun _ => ?_,
              fun impossible => (by cases impossible)⟩
            rw [batchesWith, BatchWriter.push, items, closed]
            simp
  · cases added
    refine ⟨push_tracks tracks item, fun _ => ?_, fun impossible => (by cases impossible)⟩
    rw [opens, if_neg full]
    rfl

/-- The persistence takes every batch. -/
def TakesBatches (datasets : DatasetPersistencePort Progress) : Prop :=
  ∀ earlier batch, (datasets.appendImportBatch earlier batch).isConflict = false

private theorem flush_taken (takes : TakesBatches datasets) (writer : BatchWriter Progress) :
    (writer.flush digest datasets).2 = true := by
  have answer := takes writer.appended (writer.batch digest)
  unfold BatchWriter.flush
  split_ifs
  · rfl
  · dsimp only
    split <;> rename_i answered
    · rw [answered] at answer
      cases answer
    · rfl
    · rfl

private theorem add_taken (takes : TakesBatches datasets) (writer : BatchWriter Progress)
    (item : DatasetImportItem) : (writer.add digest datasets limits item).2 = true := by
  unfold BatchWriter.add
  split_ifs
  · have taken := @flush_taken _ digest datasets takes writer
    cases flushed : writer.flush digest datasets with
    | mk next answered =>
        rw [flushed] at taken
        cases taken
        rfl
  · rfl

/-- What is left of the events of a decoder: the batches to come are those of the items, and once
they are consumed the count and the last item are known. -/
structure Consumes (limits : DatasetImportBatchLimits) (before : List (List DatasetImportItem))
    (itemNumber : ℕ) (items : List DatasetImportItem) (writer : BatchWriter Progress)
    (consumed : Option ConsumedImport) : Prop where
  tracks : Tracks writer
  ordered : writer.appended.map DatasetImportBatch.items <+: before
  whole : ∀ result, consumed = some result → batchesWith limits writer [] = before ∧
    result.itemCount = itemNumber + items.length ∧
    result.terminalIssue = items.any DatasetImportItem.isTerminal ∧
    (result.terminalIssue = true → writer.batchItems = [])

private theorem consumeImportEvents_cons {prepared : PreparedImport} (writer : BatchWriter Progress)
    (itemNumber : ℕ) (event : DatasetDecodeEvent) (rest : List DatasetDecodeEvent) :
    consumeImportEvents digest datasets limits prepared writer itemNumber (event :: rest) =
      match writer.add digest datasets limits
          (itemOf digest prepared limits.maxBytes event (itemNumber + 1)) with
      | (writer, false) => (writer, none)
      | (writer, true) =>
          if (itemOf digest prepared limits.maxBytes event (itemNumber + 1)).isTerminal then
            match writer.flush digest datasets with
            | (writer, false) => (writer, none)
            | (writer, true) => (writer, some ⟨itemNumber + 1, true⟩)
          else consumeImportEvents digest datasets limits prepared writer (itemNumber + 1) rest :=
  rfl

/-- **The events of a decoder are consumed item by item.** -/
theorem consumeImportEvents_consumes {prepared : PreparedImport} (positive : 1 ≤ limits.maxItems)
    (bytes : 1 ≤ limits.maxBytes) (events : List DatasetDecodeEvent) {itemNumber : ℕ}
    {writer : BatchWriter Progress} (tracks : Tracks writer) :
    let items := importedItems digest prepared limits.maxBytes itemNumber events
    let run := consumeImportEvents digest datasets limits prepared writer itemNumber events
    Consumes limits (batchesWith limits writer items) itemNumber items run.1 run.2 ∧
      (TakesBatches datasets → run.2.isSome = true) := by
  dsimp only
  induction events generalizing itemNumber writer with
  | nil =>
      refine ⟨⟨tracks, List.prefix_append _ _, ?_⟩, fun _ => rfl⟩
      rintro result ⟨⟩
      exact ⟨rfl, rfl, rfl, fun impossible => (by cases impossible)⟩
  | cons event rest ih =>
      rw [consumeImportEvents_cons, importedItems]
      generalize itemOf digest prepared limits.maxBytes event (itemNumber + 1) = item
      have taken := fun takes => @add_taken _ digest datasets limits takes writer item
      cases added : writer.add digest datasets limits item with
      | mk next answered =>
          have step := add_batches positive bytes tracks added
          rw [added] at taken
          cases answered with
          | false =>
              refine ⟨⟨(step []).1, ?_, fun result none => (by cases none)⟩,
                fun takes => (by cases taken takes)⟩
              dsimp only
              split_ifs
              · exact (step _).2.2 rfl
              · exact (step _).2.2 rfl
          | true =>
              dsimp only
              split_ifs with terminal
              · -- The import stops behind an unrecoverable issue.
                have emptied := fun takes => @flush_taken _ digest datasets takes next
                cases flushed : next.flush digest datasets with
                | mk last closed =>
                    obtain ⟨lastTracks, none, items⟩ :=
                      @flush_batches _ _ _ limits _ _ _ (step []).1 flushed
                    rw [(step []).2.1 rfl] at items
                    rw [flushed] at emptied
                    cases closed with
                    | false =>
                        exact ⟨⟨lastTracks, items ▸ List.prefix_rfl, fun result none =>
                          (by cases none)⟩, fun takes => (by cases emptied takes)⟩
                    | true =>
                        refine ⟨⟨lastTracks, items ▸ List.prefix_rfl, ?_⟩, fun _ => rfl⟩
                        rintro result ⟨⟩
                        refine ⟨?_, rfl, ?_, fun _ => none⟩
                        · rw [batchesWith, none, items]
                          exact List.append_nil _
                        · rw [List.any_cons, terminal, Bool.true_or]
              · obtain ⟨consumes, finishes⟩ := @ih (itemNumber + 1) next (step []).1
                rw [(step _).2.1 rfl] at consumes
                refine ⟨⟨consumes.tracks, consumes.ordered, fun result found => ?_⟩, finishes⟩
                obtain ⟨whole, count, terminalIssue, closed⟩ := consumes.whole result found
                refine ⟨whole, ?_, ?_, closed⟩
                · rw [count, List.length_cons]
                  omega
                · rw [terminalIssue, List.any_cons, Bool.eq_false_iff.mpr terminal, Bool.false_or]

/-! ## Imports -/

/-- **The batches of an import partition its items.** They are handed over in order, within the
limits of the request and numbered from one; and when the completion of the import is asked for,
no item is lost. -/
structure PartitionsItems (limits : DatasetImportBatchLimits) (items : List DatasetImportItem)
    (run : ImportRun Progress) : Prop where
  ordered : run.batches.flatMap DatasetImportBatch.items <+: items
  bounded : ∀ batch ∈ run.batches, batch.items ≠ [] ∧
    (batch.items.length : ℤ) ≤ limits.maxItems ∧
    (totalWeight itemBytes batch.items : ℤ) ≤ limits.maxBytes
  numbered : run.batches.map DatasetImportBatch.sequence = List.range' 1 run.batches.length
  lossless : ∀ completion ∈ run.completion,
    run.batches.flatMap DatasetImportBatch.items = items ∧
      completion = ⟨run.batches.length, items.length,
        if items.any DatasetImportItem.isTerminal then .failed else .completed⟩

/-- Batches that are the first of the greedy batches are in order and within the limits. -/
theorem partitions_ofPrefix (positive : 1 ≤ limits.maxItems)
    (least : minBatchBytes ≤ limits.maxBytes)
    {items : List DatasetImportItem}
    (small : ∀ item ∈ items, (itemBytes item : ℤ) ≤ limits.maxBytes)
    {batches : List DatasetImportBatch}
    (handed : batches.map DatasetImportBatch.items <+:
      batchesFrom itemBytes (batchBounds limits) [] items) :
    batches.flatMap DatasetImportBatch.items <+: items ∧
      ∀ batch ∈ batches, batch.items ≠ [] ∧ (batch.items.length : ℤ) ≤ limits.maxItems ∧
        (totalWeight itemBytes batch.items : ℤ) ≤ limits.maxBytes := by
  unfold minBatchBytes at least
  have bounds : 1 ≤ (batchBounds limits).maxItems ∧
      ((batchBounds limits).maxItems : ℤ) = limits.maxItems ∧
      ((batchBounds limits).maxWeight : ℤ) = limits.maxBytes := by
    unfold batchBounds
    dsimp only
    omega
  constructor
  · obtain ⟨later, split⟩ := handed
    refine ⟨later.flatten, ?_⟩
    rw [List.flatMap_def, ← List.flatten_append, split, flatten_batchesFrom, List.nil_append]
  · intro batch member
    have isBatch := batchesFrom_areBatches bounds.1
      (fun item inside => by have fits := small item inside; omega) (.inl rfl) batch.items
      (handed.subset (List.mem_map_of_mem member))
    refine ⟨isBatch.nonempty, ?_, ?_⟩
    · rw [← bounds.2.1]
      exact Int.ofNat_le.mpr isBatch.items
    · rw [← bounds.2.2]
      exact Int.ofNat_le.mpr isBatch.weight

/-- What is handed over before the completion of an import is asked for. -/
theorem partitions_ofUnfinished (positive : 1 ≤ limits.maxItems)
    (least : minBatchBytes ≤ limits.maxBytes) {items : List DatasetImportItem}
    (small : ∀ item ∈ items, (itemBytes item : ℤ) ≤ limits.maxBytes) {writer : BatchWriter Progress}
    (tracks : Tracks writer) (handed : writer.appended.map DatasetImportBatch.items <+:
      batchesFrom itemBytes (batchBounds limits) [] items) {run : ImportRun Progress}
    (batches : run.batches = writer.appended) (unfinished : run.completion = none) :
    PartitionsItems limits items run := by
  obtain ⟨ordered, bounded⟩ := partitions_ofPrefix positive least small handed
  refine ⟨batches ▸ ordered, batches ▸ bounded, batches ▸ tracks.numbered, ?_⟩
  intro completion found
  rw [unfinished] at found
  cases found

private theorem partitions_ofComplete (positive : 1 ≤ limits.maxItems)
    (least : minBatchBytes ≤ limits.maxBytes) {items : List DatasetImportItem}
    (small : ∀ item ∈ items, (itemBytes item : ℤ) ≤ limits.maxBytes) {writer : BatchWriter Progress}
    (tracks : Tracks writer) (handed : writer.appended.map DatasetImportBatch.items =
      batchesFrom itemBytes (batchBounds limits) [] items) {consumed : ConsumedImport}
    (count : consumed.itemCount = items.length)
    (terminal : consumed.terminalIssue = items.any DatasetImportItem.isTerminal) :
    PartitionsItems limits items (completeImport datasets writer consumed) := by
  obtain ⟨ordered, bounded⟩ :=
    partitions_ofPrefix positive least small ⟨[], by rw [List.append_nil, handed]⟩
  refine ⟨ordered, bounded, tracks.numbered, ?_⟩
  rintro completion ⟨⟩
  constructor
  · change writer.appended.flatMap DatasetImportBatch.items = items
    rw [List.flatMap_def, handed, flatten_batchesFrom, List.nil_append]
  · rw [completionOf, tracks.sequence, count, terminal]
    rfl

private theorem importEvents_partitions {request : ImportDatasetRequest} {prepared : PreparedImport}
    (positive : 1 ≤ request.batchLimits.maxItems)
    (least : minBatchBytes ≤ request.batchLimits.maxBytes) (source : List Bytes)
    (progress : Progress) (replayed : Bool) :
    let items := importedItems digest prepared request.batchLimits.maxBytes 0
      (prepared.codec.decode (decodeInput request prepared) source)
    let run := importEvents digest datasets request prepared source progress replayed
    PartitionsItems request.batchLimits items run ∧
      (TakesBatches datasets → digest.ofBytes source.flatten = prepared.sourceContentHash →
        run.completion.isSome = true) := by
  dsimp only
  have bytes : 1 ≤ request.batchLimits.maxBytes := by
    unfold minBatchBytes at least
    omega
  obtain ⟨consumes, finishes⟩ := @consumeImportEvents_consumes _ digest datasets
    request.batchLimits prepared positive bytes
    (prepared.codec.decode (decodeInput request prepared) source) 0 _
    (tracks_initial progress replayed)
  have small := @importedItems_bytes digest prepared request.batchLimits.maxBytes least
    (prepared.codec.decode (decodeInput request prepared) source) 0
  unfold importEvents
  generalize prepared.codec.decode (decodeInput request prepared) source = events at *
  generalize importedItems digest prepared request.batchLimits.maxBytes 0 events = items at *
  change Consumes _ (batchesFrom itemBytes (batchBounds request.batchLimits) [] items) _ _ _ _
    at consumes
  generalize consumeImportEvents digest datasets request.batchLimits prepared
    (BatchWriter.initial progress replayed) 0 events = outcome at *
  obtain ⟨writer, consumed⟩ := outcome
  cases consumed with
  | none =>
      exact ⟨partitions_ofUnfinished positive least small consumes.tracks consumes.ordered rfl rfl,
        fun takes _ => (by cases finishes takes)⟩
  | some consumed =>
      obtain ⟨whole, count, terminal, closed⟩ := consumes.whole consumed rfl
      rw [Nat.zero_add] at count
      dsimp only
      unfold finishConsumedImport
      split_ifs with mismatch stopped
      · refine ⟨?_, fun _ same => absurd same mismatch⟩
        split <;>
          exact partitions_ofUnfinished positive least small consumes.tracks consumes.ordered rfl
            rfl
      · refine ⟨partitions_ofComplete positive least small consumes.tracks ?_ count terminal,
          fun _ _ => rfl⟩
        rw [← whole, batchesWith, closed stopped]
        exact (List.append_nil _).symm
      · have taken := fun takes => @flush_taken _ digest datasets takes writer
        cases flushed : writer.flush digest datasets with
        | mk last answered =>
            obtain ⟨lastTracks, _, handed⟩ :=
              @flush_batches _ _ _ request.batchLimits _ _ _ consumes.tracks flushed
            rw [whole] at handed
            rw [flushed] at taken
            cases answered with
            | false =>
                exact ⟨partitions_ofUnfinished positive least small lastTracks
                  ⟨[], by rw [List.append_nil, handed]⟩ rfl rfl, fun takes _ =>
                    (by cases taken takes)⟩
            | true =>
                exact ⟨partitions_ofComplete positive least small lastTracks handed count terminal,
                  fun _ _ => rfl⟩

private theorem prepareImport_admits {codecs : DatasetImportFormat → DatasetCodecPort}
    {request : ImportDatasetRequest} {prepared : PreparedImport}
    (admitted : prepareImport codecs request =
      (.ok prepared : Except (ImportDatasetFailure Progress) _)) :
    1 ≤ request.batchLimits.maxItems ∧ minBatchBytes ≤ request.batchLimits.maxBytes ∧
      prepared.codec = codecs request.format := by
  unfold prepareImport at admitted
  split at admitted
  · cases admitted
  rename_i identity
  split at admitted
  · cases admitted
  split at admitted
  · cases admitted
  split at admitted
  · cases admitted
  split at admitted
  · cases admitted
  split at admitted
  · cases admitted
  cases admitted
  have valid : validLimits request.maxRecordBytes request.batchLimits = true := by
    rw [Bool.or_eq_true, not_or, Bool.not_eq_true', Bool.not_eq_false] at identity
    exact identity.2
  simp only [validLimits, Bool.and_eq_true, decide_eq_true_eq, max_le_iff] at valid
  obtain ⟨⟨⟨⟨⟨_, items⟩, _⟩, _⟩, _, least⟩, _⟩ := valid
  exact ⟨items, least, rfl⟩

/-- What an import makes of the events of its decoder: its batches partition the items of the
events, which are in order and end at an unrecoverable issue only; and records that are all
admitted are what a complete import has handed over. -/
structure ImportsLosslessly (digest : ContentDigest) (prepared : PreparedImport)
    (limits : DatasetImportBatchLimits) (events : List DatasetDecodeEvent)
    (run : ImportRun Progress) : Prop where
  partitions : PartitionsItems limits (importedItems digest prepared limits.maxBytes 0 events) run
  inOrder : importedItems digest prepared limits.maxBytes 0 events <+: events.mapIdx
    fun index event => itemOf digest prepared limits.maxBytes event (0 + index + 1)
  untilTerminal : importedItems digest prepared limits.maxBytes 0 events = events.mapIdx
      (fun index event => itemOf digest prepared limits.maxBytes event (0 + index + 1)) ∨
    ∃ last ∈ (importedItems digest prepared limits.maxBytes 0 events).getLast?,
      last.isTerminal = true
  records : ∀ records : List Units.Record,
    (events.mapIdx fun index event => admittedRecord digest prepared limits.maxBytes
      (0 + index + 1) event) = records.map some →
    ∀ completion ∈ run.completion,
      (run.batches.flatMap DatasetImportBatch.items).map DatasetImportItem.record? =
        records.map some

private theorem importsLosslessly_ofPartitions {prepared : PreparedImport}
    {events : List DatasetDecodeEvent} {run : ImportRun Progress}
    (partitions : PartitionsItems limits (importedItems digest prepared limits.maxBytes 0 events)
      run) : ImportsLosslessly digest prepared limits events run := by
  obtain ⟨inOrder, untilTerminal⟩ := @importedItems_inOrder digest prepared limits.maxBytes events 0
  refine ⟨partitions, inOrder, untilTerminal, ?_⟩
  intro records admitted completion found
  rw [(partitions.lossless completion found).1]
  exact importedItems_records admitted

private theorem partitions_ofRefused (items : List DatasetImportItem)
    (failure : ImportDatasetFailure Progress) : PartitionsItems limits items (refused failure) :=
  ⟨List.nil_prefix, List.forall_mem_nil _, rfl, fun _ none => (by cases none)⟩

private theorem importDataset_flatten (requiredPermission : JsString)
    (request : ImportDatasetRequest)
    {left right : List Bytes} (same : left.flatten = right.flatten) :
    importDataset digest datasetCodecs datasets requiredPermission request left =
      importDataset digest datasetCodecs datasets requiredPermission request right := by
  unfold importDataset
  split
  · rfl
  · cases prepares : (prepareImport datasetCodecs request :
        Except (ImportDatasetFailure Progress) _) with
    | error failure => rfl
    | ok prepared =>
        have decoded : prepared.codec.decode (decodeInput request prepared) left =
            prepared.codec.decode (decodeInput request prepared) right := by
          rw [(prepareImport_admits prepares).2.2]
          cases request.format with
          | csv => exact decodeCsv_flatten _ same
          | jsonl => exact decodeJsonl_flatten _ same
        dsimp only
        unfold importEvents finishConsumedImport
        rw [decoded, same]

/-- **Import batching is a lossless partition.** Whatever the persistence answers, the batches of
an import are those of the items of its decoded events, and they do not depend on how the source
was cut into chunks. An import whose batches are taken and whose source has its hash completes. -/
theorem importBatches_partition (digest : ContentDigest)
    (datasets : DatasetPersistencePort Progress)
    (requiredPermission : JsString) (request : ImportDatasetRequest) (source : List Bytes) :
    (∀ other : List Bytes, other.flatten = source.flatten →
      importDataset digest datasetCodecs datasets requiredPermission request other =
        importDataset digest datasetCodecs datasets requiredPermission request source) ∧
    match (prepareImport datasetCodecs request : Except (ImportDatasetFailure Progress) _) with
    | .error _ =>
        (importDataset digest datasetCodecs datasets requiredPermission request source).batches = []
    | .ok prepared =>
        ImportsLosslessly digest prepared request.batchLimits
          (prepared.codec.decode (decodeInput request prepared) source)
          (importDataset digest datasetCodecs datasets requiredPermission request source) ∧
        (request.actor.permissions.contains requiredPermission = true →
          (datasets.beginImport request prepared).isConflict = false → TakesBatches datasets →
          digest.ofBytes source.flatten = prepared.sourceContentHash →
          (importDataset digest datasetCodecs datasets requiredPermission request
            source).completion.isSome = true) := by
  refine ⟨fun other same => importDataset_flatten requiredPermission request same, ?_⟩
  unfold importDataset
  cases prepares : (prepareImport datasetCodecs request :
      Except (ImportDatasetFailure Progress) _) with
  | error failure =>
      dsimp only
      split <;> rfl
  | ok prepared =>
      obtain ⟨positive, least, _⟩ := prepareImport_admits prepares
      have imports := fun progress replayed => @importEvents_partitions _ digest datasets request
        prepared positive least source progress replayed
      dsimp only
      split_ifs with forbidden
      · refine ⟨importsLosslessly_ofPartitions (partitions_ofRefused _ _), fun permitted => ?_⟩
        rw [permitted] at forbidden
        cases forbidden
      · cases datasets.beginImport request prepared with
        | conflict =>
            exact ⟨importsLosslessly_ofPartitions (partitions_ofRefused _ _),
              fun _ impossible => (by cases impossible)⟩
        | applied progress =>
            exact ⟨importsLosslessly_ofPartitions (imports progress false).1,
              fun _ _ => (imports progress false).2⟩
        | unchanged progress =>
            exact ⟨importsLosslessly_ofPartitions (imports progress true).1,
              fun _ _ => (imports progress true).2⟩

end

/-! ## A record that no batch holds -/

private def wideName : JsString := List.replicate 250 97

def wideDataset : Units.Dataset := ⟨wideName, wideName, wideName⟩

def wideField : Units.Field := ⟨wideName, wideName, [97], wideName, .string, wideName⟩

def wideRecord : DatasetCodec.DatasetRecord :=
  ⟨wideName, wideName, [⟨wideName, .string []⟩], wideName⟩

private def widePrepared : PreparedImport :=
  ⟨datasetCodecs .jsonl, wideDataset, [wideField], []⟩

def wideDomainRecord : Units.Record := ⟨wideName, wideName, [(wideName, .string [])], wideName⟩

private theorem domainRecord_wide : domainRecord wideDataset [wideField] wideRecord =
    .ok wideDomainRecord := by
  set_option maxRecDepth 2000 in
  with_unfolding_all decide

private theorem wideRecord_bytes : 1024 < jsonBytes (recordContent wideDomainRecord).value := by
  set_option maxRecDepth 2000 in
  with_unfolding_all decide

/-- A persistence that takes every batch, and a digest. -/
def takingPersistence : DatasetPersistencePort Unit where
  beginImport := fun _ _ => .applied ()
  appendImportBatch := fun _ _ => .applied ()
  resetImport := fun _ _ => .applied ()
  finishImport := fun _ _ => .applied ()

private def sampleDigest : ContentDigest := ⟨fun _ => [], fun _ => []⟩

def narrowLimits : DatasetImportBatchLimits := ⟨1024, 100⟩

/-- The item of a record is larger than its record. -/
theorem recordContent_bytes (contentHash : JsString) (itemNumber recordNumber : ℕ)
    (record : Units.Record) : jsonBytes (recordContent record).value ≤
      itemBytes (.record contentHash itemNumber record recordNumber) := by
  rw [itemBytes, canonicalContentByteSize_eq, hashableItem, JsonContent.object]
  simp only [JsonContent.present, List.map_cons, jsonBytes, jsonBytesProperties]
  omega

private theorem boundedItem_wide : boundedItem sampleDigest
    (eventItem sampleDigest (.record wideRecord 1) 1 wideDataset [wideField])
      narrowLimits.maxBytes =
    ⟨itemBytes (.issue [] oversizedBatchItemIssue 1), .issue [] oversizedBatchItemIssue 1⟩ := by
  have wide : 1024 < itemBytes (.record [] 1 wideDomainRecord 1) :=
    lt_of_lt_of_le wideRecord_bytes (recordContent_bytes [] 1 1 wideDomainRecord)
  unfold itemBytes at wide
  have item : eventItem sampleDigest (.record wideRecord 1) 1 wideDataset [wideField] =
      .record [] 1 wideDomainRecord 1 := by
    rw [eventItem, domainRecord_wide]
    rfl
  have large : ¬ (canonicalContentByteSize (hashableItem (.record [] 1 wideDomainRecord 1)) : ℤ) ≤
      narrowLimits.maxBytes := not_le.mpr (Int.ofNat_lt.mpr wide)
  rw [item, boundedItem, if_neg large]
  rfl

/-- The batches handed over for the events of one record. -/
def wideBatches : List DatasetImportBatch :=
  (consumeImportEvents sampleDigest takingPersistence narrowLimits widePrepared
    (.initial () false) 0 [.record wideRecord 1]).1.appended

/-- A decoded record within every bound of the dataset is in no batch when its item alone is larger
than a batch: an issue stands in its place. -/
theorem wideRecord_isReplaced : validLimits 1024 narrowLimits = true ∧
    Units.createDataset wideDataset = .ok wideDataset ∧
    Units.validateDatasetFields wideDataset [wideField] = .ok [wideField] ∧
    domainRecord wideDataset [wideField] wideRecord = .ok wideDomainRecord ∧
    wideBatches.map (fun batch => batch.items.map DatasetImportItem.record?) = [[none]] := by
  refine ⟨by decide, ?_, ?_, domainRecord_wide, ?_⟩
  · set_option maxRecDepth 2000 in
    with_unfolding_all decide
  · set_option maxRecDepth 2000 in
    with_unfolding_all decide
  rw [wideBatches, consumeImportEvents, widePrepared, Nat.zero_add]
  dsimp only
  rw [boundedItem_wide]
  rfl

end Kurobara.Application.ImportDataset
