import Kurobara.Application.EncodedStream

/-! # Streaming a dataset export

The preflight of the encoded content and `verifiedEncodedEvents` of the dataset export, which
reads the content again, withholds one chunk, and checks the proof before it yields the last.
-/

namespace Kurobara.Application.ExportDataset

/-- What interrupts an encoder; anything but the two known errors is `other`. -/
inductive StreamInterruption where
  | contactPrivacy
  | exportDrift
  | other
  deriving DecidableEq, Repr

inductive ExportDatasetFailureCode where
  | exportTooLarge
  | codecConfigurationInvalid
  | contactPrivacyRestricted
  deriving DecidableEq, Repr

/-- `preflightEncodedContent`, behind the bytes that were read. -/
def preflightEncodedContent (sha256 : Bytes → String) (maxExportBytes : ℤ)
    (thrown : Option StreamInterruption) (read : Bytes) :
    List DatasetEncodeEvent → Except ExportDatasetFailureCode EncodedContentProof
  | [] =>
      match thrown with
      | some .contactPrivacy => .error .contactPrivacyRestricted
      | some _ => .error .codecConfigurationInvalid
      | none => .ok ⟨sha256 read, read.length⟩
  | .error code :: _ =>
      if code = .recordTooLarge then .error .exportTooLarge else .error .codecConfigurationInvalid
  | .malformed :: _ => .error .exportTooLarge
  | .chunk chunk :: rest =>
      if maxExportBytes - read.length < chunk.bytes.length then .error .exportTooLarge
      else preflightEncodedContent sha256 maxExportBytes thrown (read ++ chunk.bytes) rest

/-- The chunk of an event within the remaining bytes. -/
def immutableEncodedChunk (event : DatasetEncodeEvent) (remainingBytes : ℤ) : Option EncodedChunk :=
  match event with
  | .chunk chunk => if remainingBytes < chunk.bytes.length then none else some chunk
  | _ => none

/-- What a consumer sees: the chunks, and the error that ended them, if one did. -/
structure VerifiedEvents where
  yielded : List EncodedChunk
  thrown : Option StreamInterruption
  deriving DecidableEq, Repr

/-- An error behind some chunks. -/
def VerifiedEvents.behind (chunks : List EncodedChunk) (events : VerifiedEvents) : VerifiedEvents :=
  { events with yielded := chunks ++ events.yielded }

/-- The safe interruptions are thrown as they are, and all other errors as drift. -/
def rethrown : StreamInterruption → StreamInterruption
  | .contactPrivacy => .contactPrivacy
  | _ => .exportDrift

/-- The loop of `verifiedEncodedEvents`, behind the bytes read and with its pending chunk. An
empty chunk yields the pending chunk, which stays pending. -/
def verifyFrom (sha256 : Bytes → String) (maxExportBytes : ℤ) (expected : EncodedContentProof)
    (thrown : Option StreamInterruption) (read : Bytes) (pending : Option EncodedChunk) :
    List DatasetEncodeEvent → VerifiedEvents
  | [] =>
      match thrown with
      | some interruption => ⟨[], some (rethrown interruption)⟩
      | none =>
          if matchesProof sha256 read expected then ⟨pending.toList, none⟩
          else ⟨[], some .exportDrift⟩
  | event :: rest =>
      match immutableEncodedChunk event (maxExportBytes - read.length) with
      | none => ⟨[], some .exportDrift⟩
      | some chunk =>
          (verifyFrom sha256 maxExportBytes expected thrown (read ++ chunk.bytes)
            (if 0 < chunk.bytes.length then some chunk else pending) rest).behind pending.toList

/-- `verifiedEncodedEvents`: the events of a stream, checked against its limit and its proof. -/
def verifiedEncodedEvents (sha256 : Bytes → String) (maxExportBytes : ℤ)
    (expected : EncodedContentProof) (stream : EncodeStream StreamInterruption) : VerifiedEvents :=
  verifyFrom sha256 maxExportBytes expected stream.thrown [] none stream.events

/-! ## The chunks that are read -/

/-- The chunks taken in behind some bytes, up to the first event that is refused. -/
def chunksRead (maxExportBytes : ℤ) (read : ℕ) : List DatasetEncodeEvent → List EncodedChunk
  | [] => []
  | event :: rest =>
      match immutableEncodedChunk event (maxExportBytes - read) with
      | none => []
      | some chunk => chunk :: chunksRead maxExportBytes (read + chunk.bytes.length) rest

/-- Whether every event is taken in. -/
def readsAll (maxExportBytes : ℤ) (read : ℕ) : List DatasetEncodeEvent → Bool
  | [] => true
  | event :: rest =>
      match immutableEncodedChunk event (maxExportBytes - read) with
      | none => false
      | some chunk => readsAll maxExportBytes (read + chunk.bytes.length) rest

/-- What is yielded while the chunks are read. -/
def yieldedWhile : Option EncodedChunk → List EncodedChunk → List EncodedChunk
  | _, [] => []
  | pending, chunk :: rest =>
      pending.toList ++ yieldedWhile (if 0 < chunk.bytes.length then some chunk else pending) rest

/-- What is pending once the chunks are read. -/
def pendingAfter : Option EncodedChunk → List EncodedChunk → Option EncodedChunk
  | pending, [] => pending
  | pending, chunk :: rest =>
      pendingAfter (if 0 < chunk.bytes.length then some chunk else pending) rest

section

variable {sha256 : Bytes → String} {maxExportBytes : ℤ} {expected : EncodedContentProof}

/-- **What the loop does**, in terms of the chunks it reads: it yields while it reads, and what is
pending once the proof of all bytes is checked. -/
theorem verifyFrom_eq {thrown : Option StreamInterruption} (events : List DatasetEncodeEvent) :
    ∀ (read : Bytes) (pending : Option EncodedChunk),
      let chunks := chunksRead maxExportBytes read.length events
      let complete := readsAll maxExportBytes read.length events && thrown.isNone &&
        matchesProof sha256 (read ++ chunkBytes chunks) expected
      (verifyFrom sha256 maxExportBytes expected thrown read pending events).yielded =
          yieldedWhile pending chunks ++
            (if complete then (pendingAfter pending chunks).toList else []) ∧
        (verifyFrom sha256 maxExportBytes expected thrown read pending events).thrown.isNone =
          complete := by
  induction events with
  | nil =>
      intro read pending
      dsimp only
      rw [verifyFrom.eq_def, chunksRead, readsAll, chunkBytes, List.flatMap_nil, List.append_nil]
      cases thrown with
      | some interruption => exact ⟨rfl, rfl⟩
      | none =>
          cases proved : matchesProof sha256 read expected with
          | true => exact ⟨rfl, rfl⟩
          | false => exact ⟨rfl, rfl⟩
  | cons event rest ih =>
      intro read pending
      dsimp only
      rw [verifyFrom, chunksRead, readsAll]
      cases taken : immutableEncodedChunk event (maxExportBytes - read.length) with
      | none => exact ⟨rfl, rfl⟩
      | some chunk =>
          have later := ih (read ++ chunk.bytes)
            (if 0 < chunk.bytes.length then some chunk else pending)
          simp only [List.length_append] at later
          dsimp only
          have bytes : chunkBytes (chunk :: chunksRead maxExportBytes
              (read.length + chunk.bytes.length) rest) = chunk.bytes ++
                chunkBytes (chunksRead maxExportBytes (read.length + chunk.bytes.length) rest) :=
            List.flatMap_cons
          rw [bytes, ← List.append_assoc, yieldedWhile, pendingAfter, VerifiedEvents.behind]
          dsimp only
          rw [later.1, later.2, List.append_assoc, List.append_assoc]
          exact ⟨rfl, rfl⟩

/-- A stream of which every event is taken in has only chunks, and they are read. -/
theorem chunksRead_all {events : List DatasetEncodeEvent} {read : ℕ}
    (all : readsAll maxExportBytes read events = true) :
    chunksRead maxExportBytes read events = events.filterMap DatasetEncodeEvent.chunk? := by
  induction events generalizing read with
  | nil => rfl
  | cons event rest ih =>
      rw [readsAll] at all
      rw [chunksRead]
      cases taken : immutableEncodedChunk event (maxExportBytes - read) with
      | none =>
          rw [taken] at all
          cases all
      | some chunk =>
          rw [taken] at all
          dsimp only at all ⊢
          have chunkEq : event.chunk? = some chunk := by
            cases event with
            | chunk other =>
                unfold immutableEncodedChunk at taken
                dsimp only at taken
                split at taken
                · cases taken
                · exact taken
            | malformed => cases taken
            | error code => cases taken
          rw [List.filterMap_cons_some chunkEq, ih all]

/-! ## Yielding once -/

/-- No empty chunk comes after a chunk with bytes. -/
def EmptyChunksLead (chunks : List EncodedChunk) : Prop :=
  chunks.Pairwise fun left right => left.bytes ≠ [] → right.bytes ≠ []

private theorem yieldedWhile_once {pending : EncodedChunk} {chunks : List EncodedChunk}
    (full : ∀ chunk ∈ chunks, chunk.bytes ≠ []) :
    yieldedWhile (some pending) chunks = (pending :: chunks).dropLast := by
  induction chunks generalizing pending with
  | nil => rfl
  | cons chunk rest ih =>
      have bytes := List.length_pos_of_ne_nil (full chunk List.mem_cons_self)
      rw [yieldedWhile, if_pos bytes,
        ih fun other member => full other (List.mem_cons_of_mem _ member)]
      rfl

/-- The last chunk with bytes is pending. -/
theorem pendingAfter_eq (pending : Option EncodedChunk) (chunks : List EncodedChunk) :
    pendingAfter pending chunks = (pending.toList ++ nonEmptyChunks chunks).getLast? := by
  induction chunks generalizing pending with
  | nil => cases pending <;> rfl
  | cons chunk rest ih =>
      rw [pendingAfter, ih]
      by_cases empty : chunk.bytes = []
      · rw [if_neg (by simp [empty]), nonEmptyChunks, nonEmptyChunks,
          List.filter_cons_of_neg (by simp [empty])]
      · rw [if_pos (List.length_pos_of_ne_nil empty), Option.toList_some, nonEmptyChunks,
          nonEmptyChunks, List.filter_cons_of_pos (by simpa using empty), List.singleton_append,
          List.getLast?_append_cons]

private theorem dropLast_append_last {Entry : Type} (entries : List Entry) :
    entries.dropLast ++ entries.getLast?.toList = entries := by
  rcases List.eq_nil_or_concat entries with rfl | ⟨earlier, last, rfl⟩
  · rfl
  · simp

/-- The bytes that are yielded before an empty chunk are yielded again after it. -/
theorem yieldedWhile_again {pending : EncodedChunk} (pendingBytes : pending.bytes ≠ [])
    {chunks : List EncodedChunk} :
    (chunkBytes (pending :: nonEmptyChunks chunks).dropLast).length ≤
        (chunkBytes (yieldedWhile (some pending) chunks)).length ∧
      ((∃ chunk ∈ chunks, chunk.bytes = []) →
        (chunkBytes (pending :: nonEmptyChunks chunks).dropLast).length <
          (chunkBytes (yieldedWhile (some pending) chunks)).length) := by
  induction chunks generalizing pending with
  | nil => exact ⟨Nat.le_refl 0, fun ⟨_, member, _⟩ => absurd member List.not_mem_nil⟩
  | cons chunk rest ih =>
      have positive := List.length_pos_of_ne_nil pendingBytes
      have yields : ∀ next, (chunkBytes (pending :: next)).length =
          pending.bytes.length + (chunkBytes next).length := by
        intro next
        rw [chunkBytes, List.flatMap_cons, List.length_append]
        rfl
      by_cases empty : chunk.bytes = []
      · have again := (@ih pending pendingBytes).1
        rw [yieldedWhile, if_neg (by simp [empty]), Option.toList_some, List.singleton_append,
          yields,
          nonEmptyChunks, List.filter_cons_of_neg (by simp [empty]), ← nonEmptyChunks]
        exact ⟨by omega, fun _ => by omega⟩
      · obtain ⟨some_le, some_lt⟩ := @ih chunk empty
        rw [yieldedWhile, if_pos (List.length_pos_of_ne_nil empty), Option.toList_some,
          List.singleton_append, yields, nonEmptyChunks,
          List.filter_cons_of_pos (by simpa using empty), ← nonEmptyChunks,
          List.dropLast_cons_of_ne_nil (List.cons_ne_nil _ _), yields]
        refine ⟨by omega, ?_⟩
        rintro ⟨other, member, otherEmpty⟩
        rcases List.mem_cons.mp member with rfl | later
        · exact absurd otherEmpty empty
        · have strict := some_lt ⟨other, later, otherEmpty⟩
          omega

private theorem emptyChunksLead_cons {chunk : EncodedChunk} {chunks : List EncodedChunk} :
    EmptyChunksLead (chunk :: chunks) ↔
      (chunk.bytes ≠ [] → ∀ other ∈ chunks, other.bytes ≠ []) ∧ EmptyChunksLead chunks := by
  unfold EmptyChunksLead
  rw [List.pairwise_cons]
  exact and_congr_left fun _ => ⟨fun all some other member => all other member some,
    fun all other member some => all some other member⟩

private theorem nonEmptyChunks_full {chunks : List EncodedChunk}
    (full : ∀ chunk ∈ chunks, chunk.bytes ≠ []) : nonEmptyChunks chunks = chunks := by
  rw [nonEmptyChunks, List.filter_eq_self]
  intro chunk member
  simpa using full chunk member

private theorem emptyChunksLead_full {chunks : List EncodedChunk}
    (full : ∀ chunk ∈ chunks, chunk.bytes ≠ []) : EmptyChunksLead chunks := by
  induction chunks with
  | nil => exact List.Pairwise.nil
  | cons chunk rest ih =>
      have later := fun other member => full other (List.mem_cons_of_mem chunk member)
      exact emptyChunksLead_cons.mpr ⟨fun _ => later, ih later⟩

/-- When the empty chunks lead, all chunks but the last are yielded while they are read. -/
theorem yieldedWhile_leading {chunks : List EncodedChunk} (leads : EmptyChunksLead chunks) :
    yieldedWhile none chunks = (nonEmptyChunks chunks).dropLast := by
  induction chunks with
  | nil => rfl
  | cons chunk rest ih =>
      obtain ⟨full, later⟩ := emptyChunksLead_cons.mp leads
      by_cases empty : chunk.bytes = []
      · rw [yieldedWhile, if_neg (by simp [empty]), nonEmptyChunks,
          List.filter_cons_of_neg (by simp [empty]), ← nonEmptyChunks]
        exact ih later
      · rw [yieldedWhile, if_pos (List.length_pos_of_ne_nil empty), nonEmptyChunks_full]
        · exact yieldedWhile_once (full empty)
        · intro other member
          rcases List.mem_cons.mp member with rfl | inside
          · exact empty
          · exact full empty other inside

/-- When an empty chunk follows bytes, more is yielded than all chunks but the last. -/
theorem yieldedWhile_exceeds {chunks : List EncodedChunk} (follows : ¬ EmptyChunksLead chunks) :
    (chunkBytes (nonEmptyChunks chunks).dropLast).length <
      (chunkBytes (yieldedWhile none chunks)).length := by
  induction chunks with
  | nil => exact absurd List.Pairwise.nil follows
  | cons chunk rest ih =>
      by_cases empty : chunk.bytes = []
      · rw [yieldedWhile, if_neg (by simp [empty]), nonEmptyChunks,
          List.filter_cons_of_neg (by simp [empty]), ← nonEmptyChunks]
        exact ih fun leads => follows
          (emptyChunksLead_cons.mpr ⟨fun some => absurd empty some, leads⟩)
      · have later : ∃ other ∈ rest, other.bytes = [] := by
          by_contra none
          have full : ∀ other ∈ rest, other.bytes ≠ [] :=
            fun other member isEmpty => none ⟨other, member, isEmpty⟩
          exact follows (emptyChunksLead_cons.mpr ⟨fun _ => full, emptyChunksLead_full full⟩)
        rw [yieldedWhile, if_pos (List.length_pos_of_ne_nil empty), nonEmptyChunks,
          List.filter_cons_of_pos (by simpa using empty), ← nonEmptyChunks]
        exact (yieldedWhile_again empty).2 later

end

/-! ## Conservation of bytes -/

/-- A stream that ends is yielded whole and as proved; of one that is interrupted, the last chunk
with bytes that was read is missing, and nothing is yielded that was not read before it. -/
structure ConservesBytes (sha256 : Bytes → String) (maxExportBytes : ℤ)
    (expected : EncodedContentProof) (stream : EncodeStream StreamInterruption)
    (events : VerifiedEvents) : Prop where
  whole : events.thrown = none → chunkBytes events.yielded = chunkBytes stream.chunks ∧
    (chunkBytes events.yielded).length = expected.contentLength ∧
    sha256 (chunkBytes events.yielded) = expected.contentHash
  withheld : events.thrown ≠ none → chunkBytes events.yielded <+:
    chunkBytes (nonEmptyChunks (chunksRead maxExportBytes 0 stream.events)).dropLast

/-- **The verified stream conserves bytes exactly when no empty chunk that is read follows a
chunk with bytes.** -/
theorem verifiedEncodedEvents_conserves_iff (sha256 : Bytes → String) (maxExportBytes : ℤ)
    (expected : EncodedContentProof) (stream : EncodeStream StreamInterruption) :
    ConservesBytes sha256 maxExportBytes expected stream
        (verifiedEncodedEvents sha256 maxExportBytes expected stream) ↔
      EmptyChunksLead (chunksRead maxExportBytes 0 stream.events) := by
  obtain ⟨yielded, thrown⟩ := @verifyFrom_eq sha256 maxExportBytes expected stream.thrown
    stream.events [] none
  rw [← verifiedEncodedEvents, List.length_nil, List.nil_append] at yielded thrown
  generalize verifiedEncodedEvents sha256 maxExportBytes expected stream =
    events at yielded thrown ⊢
  have all := @chunksRead_all maxExportBytes stream.events 0
  rw [← EncodeStream.chunks] at all
  obtain ⟨chunks, read⟩ : ∃ chunks, chunksRead maxExportBytes 0 stream.events = chunks := ⟨_, rfl⟩
  rw [read] at yielded thrown all ⊢
  have last : (chunkBytes (nonEmptyChunks chunks)).length =
      (chunkBytes (nonEmptyChunks chunks).dropLast).length +
        (chunkBytes (pendingAfter none chunks).toList).length := by
    rw [pendingAfter_eq, Option.toList_none, List.nil_append, ← List.length_append,
      ← chunkBytes_append, dropLast_append_last]
  rw [chunkBytes_nonEmpty] at last
  cases complete : (readsAll maxExportBytes 0 stream.events && stream.thrown.isNone &&
      matchesProof sha256 (chunkBytes chunks) expected) with
  | false =>
      rw [complete, if_neg Bool.false_ne_true, List.append_nil] at yielded
      rw [complete, Option.isNone_eq_false_iff, Option.isSome_iff_ne_none] at thrown
      constructor
      · intro conserves
        by_contra follows
        have exceeds := yieldedWhile_exceeds follows
        have within := (conserves.withheld thrown).length_le
        rw [yielded, read] at within
        omega
      · intro leads
        refine ⟨fun ended => absurd ended thrown, fun _ => ?_⟩
        refine ⟨[], ?_⟩
        rw [List.append_nil, yielded, yieldedWhile_leading leads, read]
  | true =>
      rw [complete, if_pos rfl] at yielded
      rw [complete, Option.isNone_iff_eq_none] at thrown
      simp only [Bool.and_eq_true, matchesProof, decide_eq_true_eq] at complete
      obtain ⟨⟨readAll, _⟩, length, hash⟩ := complete
      constructor
      · intro conserves
        by_contra follows
        have exceeds := yieldedWhile_exceeds follows
        have same := congrArg List.length (conserves.whole thrown).1
        rw [yielded, chunkBytes_append, List.length_append, ← all readAll] at same
        omega
      · intro leads
        have bytes : chunkBytes events.yielded = chunkBytes chunks := by
          rw [yielded, yieldedWhile_leading leads, pendingAfter_eq, Option.toList_none,
            List.nil_append, dropLast_append_last, chunkBytes_nonEmpty]
        refine ⟨fun _ => ⟨?_, ?_, ?_⟩, fun interrupted => absurd thrown interrupted⟩
        · rw [bytes, all readAll]
        · rw [bytes, length]
        · rw [bytes, hash]

/-- An empty chunk behind a chunk of one byte: the export of its own preflight ends without an
error, and yields the byte twice. -/
theorem verifiedEncodedEvents_repeats :
    ¬ (∀ sha256 maxExportBytes expected stream, ConservesBytes sha256 maxExportBytes expected stream
      (verifiedEncodedEvents sha256 maxExportBytes expected stream)) ∧
    ∀ sha256 : Bytes → String,
      preflightEncodedContent sha256 10 none [] [.chunk ⟨[65], none⟩, .chunk ⟨[], none⟩] =
        .ok ⟨sha256 [65], 1⟩ ∧
      verifiedEncodedEvents sha256 10 ⟨sha256 [65], 1⟩
          ⟨[.chunk ⟨[65], none⟩, .chunk ⟨[], none⟩], none⟩ =
        ⟨[⟨[65], none⟩, ⟨[65], none⟩], none⟩ := by
  have repeats : ∀ sha256 : Bytes → String, verifiedEncodedEvents sha256 10 ⟨sha256 [65], 1⟩
      ⟨[.chunk ⟨[65], none⟩, .chunk ⟨[], none⟩], none⟩ =
        ⟨[⟨[65], none⟩, ⟨[65], none⟩], none⟩ := by
    intro sha256
    simp [verifiedEncodedEvents, verifyFrom, immutableEncodedChunk, matchesProof,
      VerifiedEvents.behind]
  refine ⟨fun conserves => ?_, fun sha256 => ⟨?_, repeats sha256⟩⟩
  · have whole := (conserves (fun _ => "") 10 ⟨"", 1⟩
      ⟨[.chunk ⟨[65], none⟩, .chunk ⟨[], none⟩], none⟩).whole
    rw [repeats fun _ => ""] at whole
    exact absurd (whole rfl).1 (by decide)
  · simp [preflightEncodedContent]

end Kurobara.Application.ExportDataset
