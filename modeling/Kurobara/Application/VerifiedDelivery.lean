import Kurobara.Application.ExportDelivery

/-! # The events of a delivery

`verifiedDeliveryEvents` hands the chunks of an artifact to a consumer. A chunk is withheld until
the next event is read, and the chunk that is pending behind the last event is withheld until the
content is proved and privacy is authorized again. An empty chunk takes the place of the chunk
that is pending, so that nothing is withheld behind it.
-/

namespace Kurobara.Application

open Kurobara.Kernel

/-- What the store answers when a delivery is recorded. -/
inductive CompleteExportDeliveryStatus where
  | delivered
  | notFoundOrOwnerMismatch
  | proofConflict
  | revoked
  deriving DecidableEq, Repr

/-- What is recorded of a completed delivery. -/
structure CompleteExportDeliveryInput where
  contentHash : ContentHash
  contentLength : ℕ
  deliveredAt : Instant
  deliveryId : ExportDeliveryId
  ownerActorId : ActorId
  deriving DecidableEq, Repr

/-- What the dependencies answer to one consumption, in the order of the calls; a call that
throws has no answer. -/
structure DeliveryAnswers where
  current : Option (Option ExportDelivery)
  readable : Option PrivacyAnswers
  reauthorization : Option PrivacyAnswers
  completion : Option PrivacyAnswers
  completed : Option CompleteExportDeliveryStatus
  deriving DecidableEq, Repr

/-- What a consumption does: the chunks that it yields, the end of the source, the checks that
succeed, and the call that records the delivery, with its answer. -/
inductive DeliveryStep where
  | yielded (chunk : EncodedChunk)
  | sourceEnded
  | contentProved
  | reauthorized
  | completion (input : CompleteExportDeliveryInput) (status : Option CompleteExportDeliveryStatus)
  deriving DecidableEq, Repr

/-- The steps of a consumption, and whether it ends with an error. -/
structure DeliveryRun where
  steps : List DeliveryStep
  failed : Bool
  deriving DecidableEq, Repr

/-- The run after steps that came before it. -/
def DeliveryRun.behind (steps : List DeliveryStep) (run : DeliveryRun) : DeliveryRun :=
  { run with steps := steps ++ run.steps }

/-- The chunk of an event; any other event throws. -/
def accumulateDeliveryEvent : DatasetEncodeEvent → Option EncodedChunk
  | .chunk chunk => some chunk
  | _ => none

/-- What is pending behind a chunk that was read. -/
def withheldChunk (chunk : EncodedChunk) : Option EncodedChunk :=
  if chunk.bytes.isEmpty then none else some chunk

/-- `assertContentProof`: the bytes that were read are those of the manifest. -/
def contentIsProved (sha256 : Bytes → String) (manifest : ExportDeliveryManifest) (read : Bytes) :
    Bool :=
  sha256 read == manifest.contentHash && (read.length : ℤ) == manifest.contentLength

section Delivery

variable {Subject Thrown : Type} (sha256 : Bytes → String)
  (request : PrepareExportDeliveryRequest Subject) (delivery : ExportDelivery)
  (answers : DeliveryAnswers)

/-- `assertDeliveryReadable`. -/
def deliveryIsReadable : Bool :=
  match answers.current with
  | some (some current) =>
      current.state != .revoked && current.intentHash == delivery.intentHash &&
        answers.readable.any (privacyIsCurrent request current.manifest)
  | _ => false

private def privacyIsReauthorized : Bool :=
  answers.reauthorization.any (privacyIsCurrent request delivery.manifest)

/-- The instant of the completion, when the authorization behind the last chunk succeeds. -/
def completionTime : Option Instant :=
  answers.completion.bind (completionTimeIfAuthorized request delivery.manifest)

/-- The end of a consumption, behind the last chunk. -/
def completeDelivery (read : Bytes) : DeliveryRun :=
  match completionTime request delivery answers with
  | none => ⟨[], true⟩
  | some deliveredAt =>
      let input : CompleteExportDeliveryInput :=
        { contentHash := sha256 read
          contentLength := read.length
          deliveredAt := deliveredAt
          deliveryId := delivery.deliveryId
          ownerActorId := request.actor.actorId }
      ⟨[.completion input answers.completed], answers.completed != some .delivered⟩

/-- What follows the end of the source. -/
def concludeDelivery (read : Bytes) (pending : Option EncodedChunk) : DeliveryRun :=
  if !contentIsProved sha256 delivery.manifest read then ⟨[.sourceEnded], true⟩
  else if !privacyIsReauthorized request delivery answers then
    ⟨[.sourceEnded, .contentProved], true⟩
  else
    (completeDelivery sha256 request delivery answers read).behind
      ([.sourceEnded, .contentProved, .reauthorized] ++ pending.toList.map .yielded)

/-- The loop over the events of the source, behind the bytes read and with its pending chunk. -/
def deliverFrom (thrown : Option Thrown) (read : Bytes) (pending : Option EncodedChunk) :
    List DatasetEncodeEvent → DeliveryRun
  | [] =>
      if thrown.isSome then ⟨[], true⟩
      else concludeDelivery sha256 request delivery answers read pending
  | event :: rest =>
      match accumulateDeliveryEvent event with
      | none => ⟨[], true⟩
      | some chunk =>
          (deliverFrom thrown (read ++ chunk.bytes) (withheldChunk chunk) rest).behind
            (pending.toList.map .yielded)

/-- `verifiedDeliveryEvents`: what is yielded, checked and recorded while a delivery is read. -/
def verifiedDeliveryEvents (stream : EncodeStream Thrown) : DeliveryRun :=
  if deliveryIsReadable request delivery answers then
    deliverFrom sha256 request delivery answers stream.thrown [] none stream.events
  else ⟨[], true⟩

end Delivery

/-! ## The chunks that are read -/

/-- The chunks of a stream up to the first event that is none. -/
def deliveredChunks : List DatasetEncodeEvent → List EncodedChunk
  | [] => []
  | event :: rest =>
      match accumulateDeliveryEvent event with
      | none => []
      | some chunk => chunk :: deliveredChunks rest

/-- Whether every event is a chunk. -/
def hasOnlyChunks (events : List DatasetEncodeEvent) : Bool :=
  events.all fun event => (accumulateDeliveryEvent event).isSome

/-- What is yielded while chunks are read. -/
def releasedWhile : Option EncodedChunk → List EncodedChunk → List EncodedChunk
  | _, [] => []
  | pending, chunk :: rest => pending.toList ++ releasedWhile (withheldChunk chunk) rest

/-- What is pending once chunks are read. -/
def withheldAfter : Option EncodedChunk → List EncodedChunk → Option EncodedChunk
  | pending, [] => pending
  | _, chunk :: rest => withheldAfter (withheldChunk chunk) rest

/-- No empty chunk follows the last chunk that has bytes. -/
def endsWithBytes (chunks : List EncodedChunk) : Bool :=
  (nonEmptyChunks chunks).isEmpty || (chunks.getLast?.bind withheldChunk).isSome

private theorem releasedWhile_withheldAfter (pending : Option EncodedChunk)
    (chunks : List EncodedChunk) :
    releasedWhile pending chunks ++ (withheldAfter pending chunks).toList =
      pending.toList ++ nonEmptyChunks chunks := by
  induction chunks generalizing pending with
  | nil => simp [releasedWhile, withheldAfter, nonEmptyChunks]
  | cons chunk rest ih =>
      rw [releasedWhile, withheldAfter, List.append_assoc, ih]
      by_cases empty : chunk.bytes = []
      · simp [withheldChunk, nonEmptyChunks, empty]
      · simp [withheldChunk, nonEmptyChunks, empty]

private theorem withheldAfter_getLast (pending : Option EncodedChunk) (chunks : List EncodedChunk) :
    withheldAfter pending chunks =
      match chunks.getLast? with
      | none => pending
      | some chunk => withheldChunk chunk := by
  induction chunks generalizing pending with
  | nil => rfl
  | cons chunk rest ih =>
      rw [withheldAfter, ih]
      cases rest with
      | nil => rfl
      | cons next later =>
          rw [List.getLast?_cons_cons,
            List.getLast?_eq_some_getLast (List.cons_ne_nil next later)]

/-- When no empty chunk ends the stream, exactly the last chunk with bytes is withheld. -/
theorem releasedWhile_endsWithBytes {chunks : List EncodedChunk}
    (ends : endsWithBytes chunks = true) :
    releasedWhile none chunks = (nonEmptyChunks chunks).dropLast := by
  have split := releasedWhile_withheldAfter none chunks
  rw [Option.toList_none, List.nil_append] at split
  rw [← split]
  unfold endsWithBytes at ends
  rcases Bool.or_eq_true_iff.mp ends with empty | last
  · rw [← split, List.isEmpty_iff, List.append_eq_nil_iff] at empty
    rw [empty.1, empty.2]
    rfl
  · cases found : chunks.getLast? with
    | none =>
        rw [found] at last
        cases last
    | some chunk =>
        rw [found, Option.bind_some] at last
        obtain ⟨kept, keptEq⟩ := Option.isSome_iff_exists.mp last
        have pending : withheldAfter none chunks = some kept := by
          rw [withheldAfter_getLast, found]
          exact keptEq
        rw [pending, Option.toList_some, List.dropLast_concat]

/-- Behind an empty chunk, every chunk with bytes is released before the source ends. -/
theorem releasedWhile_endsEmpty {chunks : List EncodedChunk} (ends : endsWithBytes chunks = false) :
    releasedWhile none chunks = nonEmptyChunks chunks ∧ nonEmptyChunks chunks ≠ [] := by
  obtain ⟨occupied, last⟩ := Bool.or_eq_false_iff.mp ends
  have split := releasedWhile_withheldAfter none chunks
  rw [Option.toList_none, List.nil_append] at split
  refine ⟨?_, fun none => by simp [none] at occupied⟩
  have pending : withheldAfter none chunks = none := by
    rw [withheldAfter_getLast]
    cases found : chunks.getLast? with
    | none => rfl
    | some chunk =>
        rw [found, Option.bind_some, Option.isSome_eq_false_iff, Option.isNone_iff_eq_none] at last
        exact last
  rw [pending, Option.toList_none, List.append_nil] at split
  exact split

/-! ## What a consumption does -/

private def DeliveryStep.yielded? : DeliveryStep → Option EncodedChunk
  | .yielded chunk => some chunk
  | _ => none

/-- The chunks that steps yield. -/
def yieldedChunks (steps : List DeliveryStep) : List EncodedChunk :=
  steps.filterMap DeliveryStep.yielded?

/-- The delivered record is written. -/
def DeliveryStep.recordsDelivery : DeliveryStep → Bool
  | .completion _ status => status == some .delivered
  | _ => false

@[simp] theorem yieldedChunks_map (chunks : List EncodedChunk) :
    yieldedChunks (chunks.map .yielded) = chunks := by
  unfold yieldedChunks
  rw [List.filterMap_map]
  exact List.filterMap_some

@[simp] theorem yieldedChunks_append (left right : List DeliveryStep) :
    yieldedChunks (left ++ right) = yieldedChunks left ++ yieldedChunks right :=
  List.filterMap_append

section Delivery

variable {Subject Thrown : Type} {sha256 : Bytes → String}
  {request : PrepareExportDeliveryRequest Subject} {delivery : ExportDelivery}
  {answers : DeliveryAnswers}

/-- **What the loop does**: it yields while it reads, and it is concluded when the source ends
without an error. -/
theorem deliverFrom_eq (thrown : Option Thrown) (events : List DatasetEncodeEvent) :
    ∀ (read : Bytes) (pending : Option EncodedChunk),
      deliverFrom sha256 request delivery answers thrown read pending events =
        (if hasOnlyChunks events && thrown.isNone then
          concludeDelivery sha256 request delivery answers
            (read ++ chunkBytes (deliveredChunks events))
            (withheldAfter pending (deliveredChunks events))
        else ⟨[], true⟩).behind
          ((releasedWhile pending (deliveredChunks events)).map .yielded) := by
  induction events with
  | nil =>
      intro read pending
      cases thrown with
      | some error => rfl
      | none =>
          simp [deliverFrom, hasOnlyChunks, deliveredChunks, releasedWhile, withheldAfter,
            chunkBytes, DeliveryRun.behind]
  | cons event rest ih =>
      intro read pending
      rw [deliverFrom.eq_def, deliveredChunks]
      dsimp only
      cases taken : accumulateDeliveryEvent event with
      | none => simp [hasOnlyChunks, taken, releasedWhile, DeliveryRun.behind]
      | some chunk =>
          have only : hasOnlyChunks (event :: rest) = hasOnlyChunks rest := by
            simp [hasOnlyChunks, taken]
          have bytes : chunkBytes (chunk :: deliveredChunks rest) =
              chunk.bytes ++ chunkBytes (deliveredChunks rest) :=
            List.flatMap_cons
          dsimp only
          rw [ih, only, bytes, List.append_assoc, releasedWhile, withheldAfter]
          simp [DeliveryRun.behind]

/-- A stream of chunks alone is read to its end. -/
theorem deliveredChunks_all {events : List DatasetEncodeEvent}
    (only : hasOnlyChunks events = true) :
    deliveredChunks events = events.filterMap DatasetEncodeEvent.chunk? := by
  induction events with
  | nil => rfl
  | cons event rest ih =>
      unfold hasOnlyChunks at only ih
      rw [List.all_cons, Bool.and_eq_true] at only
      cases event with
      | chunk encoded =>
          rw [deliveredChunks, chunks_cons]
          exact congrArg (encoded :: ·) (ih only.2)
      | malformed => cases only.1
      | error code => cases only.1

variable (sha256 request delivery answers) in
/-- **A consumption that never releases the whole file before the proof**, for the artifact whose
events it reads. The file is what the artifact holds up to its first event that is no chunk. -/
structure ReleasesOnlyProvenFile (stream : EncodeStream Thrown) (run : DeliveryRun) : Prop where
  proven : ∀ steps, steps <+: run.steps → chunkBytes (deliveredChunks stream.events) ≠ [] →
    chunkBytes (yieldedChunks steps) = chunkBytes (deliveredChunks stream.events) →
    [.sourceEnded, .contentProved, .reauthorized].Sublist steps ∧
      contentIsProved sha256 delivery.manifest (chunkBytes (deliveredChunks stream.events)) = true ∧
      privacyIsReauthorized request delivery answers = true
  withheld : contentIsProved sha256 delivery.manifest (chunkBytes (deliveredChunks stream.events)) =
        false ∨ privacyIsReauthorized request delivery answers = false →
    yieldedChunks run.steps <+: (nonEmptyChunks (deliveredChunks stream.events)).dropLast ∧
      (∀ step ∈ run.steps, step.recordsDelivery = false) ∧ run.failed = true
  unrecorded : completionTime request delivery answers = none ∨
      answers.completed ≠ some .delivered →
    (∀ step ∈ run.steps, step.recordsDelivery = false) ∧ run.failed = true
  delivered : run.failed = false →
    chunkBytes (yieldedChunks run.steps) = chunkBytes stream.chunks ∧
      ∃ step ∈ run.steps, step.recordsDelivery = true

/-- What concludes a consumption once both checks have succeeded. -/
theorem concludeDelivery_proven {read : Bytes} {pending : Option EncodedChunk}
    (proved : contentIsProved sha256 delivery.manifest read = true)
    (authorized : privacyIsReauthorized request delivery answers = true) :
    concludeDelivery sha256 request delivery answers read pending =
      (completeDelivery sha256 request delivery answers read).behind
        ([.sourceEnded, .contentProved, .reauthorized] ++ pending.toList.map .yielded) := by
  simp [concludeDelivery, proved, authorized]

/-- A check that fails concludes a consumption with an error, and yields and records nothing. -/
theorem concludeDelivery_unproven {read : Bytes} {pending : Option EncodedChunk}
    (unproven : contentIsProved sha256 delivery.manifest read = false ∨
      privacyIsReauthorized request delivery answers = false) :
    ∃ steps, concludeDelivery sha256 request delivery answers read pending = ⟨steps, true⟩ ∧
      yieldedChunks steps = [] ∧ ∀ step ∈ steps, step.recordsDelivery = false := by
  unfold concludeDelivery
  by_cases proved : contentIsProved sha256 delivery.manifest read = true
  · have unauthorized : privacyIsReauthorized request delivery answers = false := by
      rcases unproven with refuted | unauthorized
      · rw [proved] at refuted
        cases refuted
      · exact unauthorized
    refine ⟨[.sourceEnded, .contentProved], ?_, rfl, ?_⟩
    · simp [proved, unauthorized]
    · simp [DeliveryStep.recordsDelivery]
  · refine ⟨[.sourceEnded], ?_, rfl, ?_⟩
    · simp [proved]
    · simp [DeliveryStep.recordsDelivery]

private theorem completeDelivery_yields (read : Bytes) :
    yieldedChunks (completeDelivery sha256 request delivery answers read).steps = [] := by
  unfold completeDelivery
  cases completionTime request delivery answers with
  | none => rfl
  | some deliveredAt => rfl

/-- A completion succeeds exactly when it writes the delivered record, which takes the
authorization behind the last chunk. -/
theorem completeDelivery_records (read : Bytes) :
    (∃ step ∈ (completeDelivery sha256 request delivery answers read).steps,
        step.recordsDelivery = true) ↔
      (completeDelivery sha256 request delivery answers read).failed = false := by
  unfold completeDelivery
  cases completionTime request delivery answers with
  | none => simp
  | some deliveredAt => simp [DeliveryStep.recordsDelivery]

private theorem completeDelivery_refused {read : Bytes}
    (refused : completionTime request delivery answers = none ∨
      answers.completed ≠ some .delivered) :
    (completeDelivery sha256 request delivery answers read).failed = true := by
  unfold completeDelivery
  cases timed : completionTime request delivery answers with
  | none => rfl
  | some deliveredAt =>
      rcases refused with missing | refused
      · rw [timed] at missing
        cases missing
      · simpa using refused

/-- Chunks that lack the last one with bytes do not have all bytes. -/
theorem chunkBytes_dropLast {chunks yielded : List EncodedChunk}
    (released : yielded <+: (nonEmptyChunks chunks).dropLast)
    (bytes : chunkBytes yielded = chunkBytes chunks) : chunkBytes chunks = [] := by
  rcases List.eq_nil_or_concat (nonEmptyChunks chunks) with empty | ⟨front, last, split⟩
  · rw [← chunkBytes_nonEmpty, empty]
    rfl
  · have hasBytes : last.bytes ≠ [] := by
      have member : last ∈ nonEmptyChunks chunks := by
        rw [split]
        simp
      simpa [nonEmptyChunks] using (List.mem_filter.mp member).2
    rw [split, List.concat_eq_append, List.dropLast_concat] at released
    obtain ⟨rest, restEq⟩ := released
    have whole : chunkBytes chunks = chunkBytes yielded ++ chunkBytes rest ++ last.bytes := by
      rw [← chunkBytes_nonEmpty, split, List.concat_eq_append, ← restEq, chunkBytes_append,
        chunkBytes_append]
      simp [chunkBytes]
    have lengths := congrArg List.length (bytes.trans whole)
    rw [bytes] at lengths
    simp only [List.length_append] at lengths
    exact absurd (List.eq_nil_of_length_eq_zero (by omega)) hasBytes

private theorem verifiedDeliveryEvents_readable {stream : EncodeStream Thrown}
    (readable : deliveryIsReadable request delivery answers = true) :
    verifiedDeliveryEvents sha256 request delivery answers stream =
      (if hasOnlyChunks stream.events && stream.thrown.isNone then
        concludeDelivery sha256 request delivery answers
          (chunkBytes (deliveredChunks stream.events))
          (withheldAfter none (deliveredChunks stream.events))
      else ⟨[], true⟩).behind
        ((releasedWhile none (deliveredChunks stream.events)).map .yielded) := by
  rw [verifiedDeliveryEvents, if_pos readable, deliverFrom_eq, List.nil_append]

/-- A consumption that fails without a record, and without the last chunk with bytes. -/
theorem ReleasesOnlyProvenFile.of_withheld {stream : EncodeStream Thrown} {run : DeliveryRun}
    (released : yieldedChunks run.steps <+:
      (nonEmptyChunks (deliveredChunks stream.events)).dropLast)
    (unrecorded : ∀ step ∈ run.steps, step.recordsDelivery = false) (failed : run.failed = true) :
    ReleasesOnlyProvenFile sha256 request delivery answers stream run where
  proven := by
    intro steps before hasBytes bytes
    have earlier : yieldedChunks steps <+: yieldedChunks run.steps := before.filterMap _
    exact absurd (chunkBytes_dropLast (earlier.trans released) bytes) hasBytes
  withheld _ := ⟨released, unrecorded, failed⟩
  unrecorded _ := ⟨unrecorded, failed⟩
  delivered ended := by
    rw [failed] at ended
    cases ended

/-- A consumption whose checks succeed, when no empty chunk ends the artifact. -/
theorem ReleasesOnlyProvenFile.of_proven {stream : EncodeStream Thrown}
    (ends : endsWithBytes (deliveredChunks stream.events) = true)
    (only : hasOnlyChunks stream.events = true)
    (proved : contentIsProved sha256 delivery.manifest
      (chunkBytes (deliveredChunks stream.events)) = true)
    (authorized : privacyIsReauthorized request delivery answers = true) :
    ReleasesOnlyProvenFile sha256 request delivery answers stream
      ((concludeDelivery sha256 request delivery answers
          (chunkBytes (deliveredChunks stream.events))
          (withheldAfter none (deliveredChunks stream.events))).behind
        ((releasedWhile none (deliveredChunks stream.events)).map .yielded)) := by
  rw [concludeDelivery_proven proved authorized]
  let file := deliveredChunks stream.events
  let tail := completeDelivery sha256 request delivery answers (chunkBytes file)
  have silent : yieldedChunks tail.steps = [] := completeDelivery_yields _
  have recordless : ∀ step, step ∈ (releasedWhile none file).map DeliveryStep.yielded ++
      ([.sourceEnded, .contentProved, .reauthorized] ++
        (withheldAfter none file).toList.map .yielded) → step.recordsDelivery = false := by
    intro step member
    rcases List.mem_append.mp member with loop | checks
    · obtain ⟨chunk, _, rfl⟩ := List.mem_map.mp loop
      rfl
    · rcases List.mem_append.mp checks with check | last
      · simp only [List.mem_cons, List.not_mem_nil, or_false] at check
        rcases check with rfl | rfl | rfl <;> rfl
      · obtain ⟨chunk, _, rfl⟩ := List.mem_map.mp last
        rfl
  refine ⟨?_, ?_, ?_, ?_⟩
  · intro steps before hasBytes bytes
    refine ⟨?_, proved, authorized⟩
    -- Short of the three checks, the steps yield no more than the loop does.
    have checked : (releasedWhile none file).map DeliveryStep.yielded ++
        [.sourceEnded, .contentProved, .reauthorized] <+:
          (releasedWhile none file).map .yielded ++
            (([.sourceEnded, .contentProved, .reauthorized] ++
              (withheldAfter none file).toList.map .yielded) ++ tail.steps) := by
      rw [List.append_assoc, ← List.append_assoc]
      exact List.prefix_append _ _
    rcases List.prefix_or_prefix_of_prefix before checked with short | long
    · have yields := short.filterMap DeliveryStep.yielded?
      change yieldedChunks steps <+: yieldedChunks _ at yields
      rw [yieldedChunks_append, yieldedChunks_map, releasedWhile_endsWithBytes ends] at yields
      have checks : yieldedChunks [.sourceEnded, .contentProved, .reauthorized] = [] := rfl
      rw [checks, List.append_nil] at yields
      exact absurd (chunkBytes_dropLast yields bytes) hasBytes
    · exact (List.sublist_append_right _ _).trans long.sublist
  · intro unproven
    rcases unproven with refuted | refuted
    · rw [proved] at refuted
      cases refuted
    · rw [authorized] at refuted
      cases refuted
  · intro refused
    have failed : tail.failed = true := completeDelivery_refused refused
    refine ⟨?_, failed⟩
    intro step member
    rcases List.mem_append.mp member with loop | rest
    · exact recordless step (List.mem_append_left _ loop)
    · rcases List.mem_append.mp rest with checks | last
      · exact recordless step (List.mem_append_right _ checks)
      · by_contra recorded
        have succeeded := (completeDelivery_records _).mp
          ⟨step, last, by simpa using recorded⟩
        rw [succeeded] at failed
        cases failed
  · intro succeeded
    constructor
    · have yields : yieldedChunks ((releasedWhile none file).map DeliveryStep.yielded ++
          (([.sourceEnded, .contentProved, .reauthorized] ++
            (withheldAfter none file).toList.map .yielded) ++ tail.steps)) =
          nonEmptyChunks file := by
        rw [yieldedChunks_append, yieldedChunks_append, yieldedChunks_append, yieldedChunks_map,
          yieldedChunks_map, silent, List.append_nil]
        exact releasedWhile_withheldAfter none file
      refine (congrArg chunkBytes yields).trans ?_
      rw [chunkBytes_nonEmpty]
      exact congrArg chunkBytes (deliveredChunks_all only)
    · obtain ⟨step, member, records⟩ := (completeDelivery_records _).mpr succeeded
      exact ⟨step, List.mem_append_right _ (List.mem_append_right _ member), records⟩

/-- **A delivery never releases the whole file before the proof exactly when** no empty chunk
follows the last chunk with bytes that is read, or the delivery is not readable and nothing is
read: an empty chunk releases the chunk that is pending. -/
theorem verifiedDeliveryEvents_releasesOnlyProvenFile_iff (stream : EncodeStream Thrown) :
    ReleasesOnlyProvenFile sha256 request delivery answers stream
        (verifiedDeliveryEvents sha256 request delivery answers stream) ↔
      deliveryIsReadable request delivery answers = false ∨
        endsWithBytes (deliveredChunks stream.events) = true := by
  constructor
  · intro releases
    by_contra condition
    rw [not_or, Bool.not_eq_false, Bool.not_eq_true] at condition
    obtain ⟨readable, ends⟩ := condition
    obtain ⟨released, occupied⟩ := releasedWhile_endsEmpty ends
    rw [verifiedDeliveryEvents_readable readable, released] at releases
    have loop := releases.proven ((nonEmptyChunks (deliveredChunks stream.events)).map .yielded)
      (List.prefix_append _ _)
    rw [yieldedChunks_map, chunkBytes_nonEmpty] at loop
    have hasBytes : chunkBytes (deliveredChunks stream.events) ≠ [] := by
      intro empty
      refine occupied (List.filter_eq_nil_iff.mpr fun chunk member => ?_)
      have none := List.flatMap_eq_nil_iff.mp empty chunk member
      simp [none]
    have ended := (loop hasBytes rfl).1.subset (List.mem_cons_self ..)
    obtain ⟨chunk, _, yielded⟩ := List.mem_map.mp ended
    cases yielded
  · intro condition
    by_cases readable : deliveryIsReadable request delivery answers = true
    · have ends : endsWithBytes (deliveredChunks stream.events) = true := by
        rcases condition with unreadable | ends
        · rw [readable] at unreadable
          cases unreadable
        · exact ends
      rw [verifiedDeliveryEvents_readable readable]
      have interrupted : ∀ steps, yieldedChunks steps = [] →
          (∀ step ∈ steps, step.recordsDelivery = false) →
          ReleasesOnlyProvenFile sha256 request delivery answers stream
            (DeliveryRun.behind ((releasedWhile none (deliveredChunks stream.events)).map .yielded)
              ⟨steps, true⟩) := by
        intro steps silent recordless
        refine .of_withheld ?_ ?_ rfl
        · change yieldedChunks (_ ++ steps) <+: _
          simp only [yieldedChunks_append, yieldedChunks_map, silent, List.append_nil,
            releasedWhile_endsWithBytes ends, List.prefix_rfl]
        · intro step member
          rcases List.mem_append.mp member with loop | later
          · obtain ⟨chunk, _, rfl⟩ := List.mem_map.mp loop
            rfl
          · exact recordless step later
      by_cases whole : (hasOnlyChunks stream.events && stream.thrown.isNone) = true
      · rw [if_pos whole]
        by_cases checks : contentIsProved sha256 delivery.manifest
            (chunkBytes (deliveredChunks stream.events)) = true ∧
              privacyIsReauthorized request delivery answers = true
        · exact .of_proven ends (Bool.and_eq_true_iff.mp whole).1 checks.1 checks.2
        · rw [not_and_or, Bool.not_eq_true, Bool.not_eq_true] at checks
          obtain ⟨steps, concluded, silent, recordless⟩ := concludeDelivery_unproven checks
          rw [concluded]
          exact interrupted steps silent recordless
      · rw [if_neg whole]
        exact interrupted [] rfl (by simp)
    · rw [verifiedDeliveryEvents, if_neg readable]
      exact .of_withheld (List.nil_prefix) (by simp) rfl

end Delivery

/-! ## An artifact that ends with an empty chunk -/

private def sampleDeliveryManifest : ExportDeliveryManifest where
  contentHash := "sha256:expected"
  contentLength := 1
  dataClasses := [.contactIdentity]
  datasetId := "dataset"
  fieldIds := ["field"]
  format := .csv
  observedExpiries := [⟨.contactIdentity, 10, 1⟩]
  ownerActorId := "actor"
  policyPurpose := ⟨10, "1", "outreach", "FR"⟩
  providerRights := ⟨10, .syntheticFixture, "1"⟩
  source := .recipeApplication "application" "recipe" "1"
  workspaceId := "workspace"

def sampleDelivery : ExportDelivery where
  deliveryId := "delivery"
  effectiveExpiresAt := some 10
  intentHash := "sha256:intent"
  manifest := sampleDeliveryManifest
  preparedAt := 2
  state := .prepared
  deliveredAt := none
  revokedAt := none

def sampleDeliveryRequest : PrepareExportDeliveryRequest String where
  actor := ⟨"actor", [], "workspace"⟩
  exported := .generatedDataset
    { contentHash := "sha256:expected"
      contentLength := 1
      dataset := ⟨"dataset", "Contacts", "workspace"⟩
      fields := [⟨"dataset", "field", "name", "Name", .string, "workspace"⟩]
      format := .csv
      recordCount := 1
      source := ⟨"capability", "1", "generation", "plan", "sha256:plan"⟩ }
  privacy :=
    { facts := ⟨some "outreach", [⟨"contact-identity", some 1⟩], some "FR"⟩
      policyExpiresAt := 10
      policyVersion := "1"
      subjectGroups := none
      subjects := ["subject"] }

private def samplePrivacyAnswers : PrivacyAnswers where
  results := [some ⟨⟨true, "1", [.allowed], [], [⟨.contactIdentity, 9, 10⟩], false, false⟩, []⟩]
  now := 5
  manifestNow := 5

def sampleDeliveryAnswers : DeliveryAnswers where
  current := some (some sampleDelivery)
  readable := some samplePrivacyAnswers
  reauthorization := some samplePrivacyAnswers
  completion := some samplePrivacyAnswers
  completed := some .delivered

/-- One chunk with a byte, and an empty chunk behind it. -/
def sampleArtifact : EncodeStream Unit :=
  ⟨[.chunk ⟨[1], some 1⟩, .chunk ⟨[], none⟩], none⟩

/-- The digest does not match the manifest, and the whole file is released. -/
theorem verifiedDeliveryEvents_releasesUnproven :
    ¬ ReleasesOnlyProvenFile (fun _ => "sha256:observed") sampleDeliveryRequest sampleDelivery
      sampleDeliveryAnswers sampleArtifact
      (verifiedDeliveryEvents (fun _ => "sha256:observed") sampleDeliveryRequest sampleDelivery
        sampleDeliveryAnswers sampleArtifact) := by
  intro releases
  have released := (releases.withheld (Or.inl (by decide))).1
  revert released
  decide

end Kurobara.Application
