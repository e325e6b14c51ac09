import Kurobara.Persistence.RecipeCellRows

/-! # What the recipe adapter writes

One lemma for each operation on the recipe cell rows: what it has found when it succeeds, and
which rows differ afterwards.
-/

namespace Kurobara.Persistence

open Foundation Kernel

variable {canonical : RecipeCanonicalization} {evidence : RecipeEvidence} {scope : WorkspaceId}
  {rows before after : RecipeCellRows} {input : ExactRecipeCellInput}
  {cellResultId : CellResultId}

/-! ## Slots -/

/-- One slot is written and nothing else. -/
structure SlotWritten (before after : RecipeCellRows) (snapshot : RecipeCellCacheSnapshot) :
    Prop where
  cells : after.cells = before.cells
  bindings : after.applicationCells = before.applicationCells
  slot : after.findSlot snapshot.cacheKey = some snapshot
  others : ∀ cacheKey, cacheKey ≠ snapshot.cacheKey →
    after.findSlot cacheKey = before.findSlot cacheKey

theorem loadCache_ok {cacheKey : ContentHash} {found : Option RecipeCellCacheSnapshot}
    (loaded : loadCache canonical rows cacheKey = .ok found) :
    rows.findSlot cacheKey = found := by
  unfold loadCache at loaded
  split at loaded
  · rename_i missing
    rw [missing, Except.ok.inj loaded]
  · rename_i slot located
    split at loaded
    · cases loaded
    · rw [located, Except.ok.inj loaded]

theorem findSlot_cacheKey {cacheKey : ContentHash} {slot : RecipeCellCacheSnapshot}
    (found : rows.findSlot cacheKey = some slot) : slot.cacheKey = cacheKey := by
  simpa using List.find?_some found

private theorem updateSlot_cacheKey (expectedRevision : ℤ)
    (snapshot slot : RecipeCellCacheSnapshot) :
    (updateSlot expectedRevision snapshot slot).cacheKey = slot.cacheKey := by
  unfold updateSlot
  split <;> rfl

private theorem updateSlot_other {expectedRevision : ℤ} {snapshot slot : RecipeCellCacheSnapshot}
    (other : slot.cacheKey ≠ snapshot.cacheKey) :
    updateSlot expectedRevision snapshot slot = slot := by
  simp [updateSlot, other]

private theorem writeCache_ok {snapshot : RecipeCellCacheSnapshot} {expectedRevision : Option ℤ}
    (written : writeCache rows snapshot expectedRevision = .ok after) :
    after.cells = rows.cells ∧ after.applicationCells = rows.applicationCells ∧
      ∀ cacheKey, cacheKey ≠ snapshot.cacheKey →
        after.findSlot cacheKey = rows.findSlot cacheKey := by
  unfold writeCache at written
  split at written
  · split at written
    · cases written
    split at written
    · cases written
    obtain rfl := Except.ok.inj written
    refine ⟨rfl, rfl, fun cacheKey other => ?_⟩
    simp [RecipeCellRows.findSlot, List.find?_append, other.symm]
  · rename_i expectedRevision
    split at written
    · cases written
    split at written
    · cases written
    obtain rfl := Except.ok.inj written
    refine ⟨rfl, rfl, fun cacheKey other => ?_⟩
    have same : ((fun slot : RecipeCellCacheSnapshot => slot.cacheKey == cacheKey) ∘
        updateSlot expectedRevision snapshot) = fun slot => slot.cacheKey == cacheKey := by
      funext slot
      rw [Function.comp_apply, updateSlot_cacheKey]
    unfold RecipeCellRows.findSlot
    rw [List.find?_map, same]
    cases found : rows.cache.find? fun slot => slot.cacheKey == cacheKey with
    | none => rfl
    | some slot =>
        have key : slot.cacheKey = cacheKey := by simpa using List.find?_some found
        rw [Option.map_some, updateSlot_other (key ▸ other)]

/-- An accepted save is of a valid slot and writes it. -/
private theorem saveCache_ok {snapshot : RecipeCellCacheSnapshot} {expectedRevision : Option ℤ}
    (saved : saveCache canonical scope rows expectedRevision snapshot = .ok after) :
    cacheSnapshotIsValid canonical scope snapshot = true ∧ SlotWritten rows after snapshot := by
  unfold saveCache at saved
  split at saved
  · cases saved
  rename_i valid
  obtain ⟨written, writtenEq, readEq⟩ := bind_eq_ok.mp saved
  obtain ⟨stored, loaded, checked⟩ := bind_eq_ok.mp readEq
  split at checked
  · cases checked
  rename_i same
  obtain rfl := Except.ok.inj checked
  obtain ⟨cells, bindings, others⟩ := writeCache_ok writtenEq
  have storedEq : stored = some snapshot := by simpa using same
  exact ⟨by simpa using valid, cells, bindings, (loadCache_ok loaded).trans storedEq, others⟩

/-- The slot of a claimed pending cell. -/
inductive ClaimedSlot (rows : RecipeCellRows) (input : ExactRecipeCellInput)
    (cellResultId : CellResultId) (now : Instant) : RecipeCellCacheSnapshot → Prop where
  | first (unclaimed : rows.findSlot input.cacheKey = none) :
      ClaimedSlot rows input cellResultId now
        ⟨some cellResultId, input.toRecipeCellCacheIdentity, input.cacheKey, 1, none, none⟩
  | next (current : RecipeCellCacheSnapshot) (found : rows.findSlot input.cacheKey = some current)
      (inactive : current.activeCellResultId = none)
      (expired : ∀ validUntil ∈ current.validUntil, validUntil ≤ now) :
      ClaimedSlot rows input cellResultId now
        { current with activeCellResultId := some cellResultId, revision := current.revision + 1 }

theorem ClaimedSlot.cacheKey {now : Instant} {snapshot : RecipeCellCacheSnapshot}
    (claimed : ClaimedSlot rows input cellResultId now snapshot) :
    snapshot.cacheKey = input.cacheKey := by
  cases claimed with
  | first => rfl
  | next current found =>
      show current.cacheKey = input.cacheKey
      exact findSlot_cacheKey found

theorem ClaimedSlot.active {now : Instant} {snapshot : RecipeCellCacheSnapshot}
    (claimed : ClaimedSlot rows input cellResultId now snapshot) :
    snapshot.activeCellResultId = some cellResultId := by
  cases claimed <;> rfl

/-- A claim finds the cell active already, or writes its slot. -/
theorem claimCacheForPendingCell_ok {now : Instant}
    (claimed : claimCacheForPendingCell canonical scope rows input cellResultId now = .ok after) :
    (after = rows ∧ ∃ slot, rows.findSlot input.cacheKey = some slot ∧
        slot.activeCellResultId = some cellResultId) ∨
      ∃ snapshot, ClaimedSlot rows input cellResultId now snapshot ∧
        cacheSnapshotIsValid canonical scope snapshot = true ∧
          SlotWritten rows after snapshot := by
  unfold claimCacheForPendingCell at claimed
  split at claimed
  · cases claimed
  · rename_i loaded
    exact .inr ⟨_, .first (loadCache_ok loaded), saveCache_ok claimed⟩
  · rename_i current loaded
    have found := loadCache_ok loaded
    split at claimed
    · cases claimed
    split at claimed
    · rename_i active
      exact .inl ⟨(Except.ok.inj claimed).symm, current, found, active⟩
    split at claimed
    · cases claimed
    rename_i inactive
    split at claimed
    · cases claimed
    rename_i expired
    refine .inr ⟨_, .next current found (by simpa using inactive) ?_, saveCache_ok claimed⟩
    intro validUntil valid
    simpa [Option.mem_def.mp valid] using expired

theorem settleCacheForTerminalCell_ok {row : CellRow} {cellResult : CellResult}
    (settled : settleCacheForTerminalCell canonical scope rows row cellResult = .ok after) :
    ∃ current, rows.findSlot row.cacheKey = some current ∧
      current.activeCellResultId = some cellResult.cellResultId ∧
      cacheSnapshotIsValid canonical scope ⟨none, current.cacheIdentity, current.cacheKey,
        current.revision + 1, (terminalCacheValidity current cellResult).1,
          (terminalCacheValidity current cellResult).2⟩ = true ∧
      SlotWritten rows after ⟨none, current.cacheIdentity, current.cacheKey,
        current.revision + 1, (terminalCacheValidity current cellResult).1,
          (terminalCacheValidity current cellResult).2⟩ := by
  obtain ⟨slot, loaded, checked⟩ := bind_eq_ok.mp settled
  split at checked
  · cases checked
  rename_i current owned
  obtain ⟨slotEq, active⟩ := Option.filter_eq_some_iff.mp owned
  exact ⟨current, (loadCache_ok loaded).trans slotEq, by simpa using active,
    saveCache_ok checked⟩

/-! ## Bindings -/

/-- The cells of applications grow by at most one row. -/
structure BindingAdded (before after : RecipeCellRows) (row : ApplicationCellRow) : Prop where
  cells : after.cells = before.cells
  cache : after.cache = before.cache
  kept : before.applicationCells <+: after.applicationCells
  added : ∀ known ∈ after.applicationCells, known ∈ before.applicationCells ∨ known = row
  bound : after.findApplicationCell row.recipeApplicationId row.columns.recordId = some row

theorem BindingAdded.findSlot {row : ApplicationCellRow} (added : BindingAdded before after row) :
    after.findSlot = before.findSlot := by
  funext cacheKey
  rw [RecipeCellRows.findSlot, RecipeCellRows.findSlot, added.cache]

theorem insertApplicationCell_ok {binding : RecipeCellBinding}
    (inserted : insertApplicationCell evidence rows input cellResultId binding = .ok after) :
    ∃ ordinal, BindingAdded rows after ⟨input.recipeApplicationId, input.columns, ordinal,
      input.cacheKey, cellResultId, binding⟩ := by
  unfold insertApplicationCell at inserted
  split at inserted
  · cases inserted
  rename_i ordinal _
  dsimp only at inserted
  split at inserted
  · cases inserted
  rename_i readBack
  obtain rfl := Except.ok.inj inserted
  refine ⟨ordinal, ?_⟩
  have bound := not_not.mp (bne_iff_ne.not.mp readBack)
  unfold insertedApplicationCell at bound ⊢
  split at bound
  · rename_i taken
    rw [if_pos taken]
    exact ⟨rfl, rfl, List.prefix_rfl, fun known member => .inl member, bound⟩
  · rename_i free
    rw [if_neg free]
    refine ⟨rfl, rfl, List.prefix_append _ _, fun known member => ?_, bound⟩
    simpa using member

/-! ## Cells -/

theorem findCell_mem {row : CellRow} (found : rows.findCell cellResultId = some row) :
    row ∈ rows.cells ∧ row.cellResult.cellResultId = cellResultId :=
  ⟨List.mem_of_find?_eq_some found, by simpa using List.find?_some found⟩

private theorem parseCellResultPayload_ok {context : DatasetContext} {record : DatasetRecord}
    {recipe : EnrichmentRecipe} {expected : CellResultPayloadIdentity} {cell parsed : CellResult}
    (accepted : parseCellResultPayload context record recipe expected cell = .ok parsed) :
    parsed = cell ∧ payloadIdentity cell = expected := by
  unfold parseCellResultPayload at accepted
  split at accepted
  · cases accepted
  rename_i created createdEq
  split at accepted
  · cases accepted
  rename_i same
  obtain rfl := Except.ok.inj accepted
  have cellEq := createCellResult_ok createdEq
  exact ⟨cellEq, cellEq ▸ by simpa using same⟩

private theorem parsedRow_ok {found parsed : Option CellRow}
    (accepted : parsedRow evidence found = .ok parsed) : parsed = found := by
  unfold parsedRow at accepted
  split at accepted
  · exact (Except.ok.inj accepted).symm
  rename_i row
  obtain ⟨cellResult, parsedEq, rfl⟩ := map_eq_ok.mp accepted
  unfold parseCellRow at parsedEq
  split at parsedEq
  · cases parsedEq
  split at parsedEq
  · split at parsedEq
    · cases parsedEq
    rw [(parseCellResultPayload_ok parsedEq).1]
  · cases parsedEq

private theorem loadCellById_ok {found : Option CellRow}
    (loaded : loadCellById evidence rows cellResultId = .ok found) :
    rows.findCell cellResultId = found :=
  (parsedRow_ok loaded).symm

private theorem parseProposed_ok {row : CellRow} {status : CellResultStatus}
    {proposed parsed : CellResult}
    (accepted : parseProposed evidence row status proposed = .ok parsed) :
    parsed = proposed ∧ payloadIdentity proposed = row.expectedIdentity status := by
  obtain ⟨⟨context, recipe, record⟩, _, parsedEq⟩ := bind_eq_ok.mp accepted
  exact parseCellResultPayload_ok parsedEq

private theorem loadCellByRun_ok {runId : RunId} {found : Option CellRow}
    (loaded : loadCellByRun evidence rows runId = .ok found) :
    rows.findCellByRun runId = found :=
  (parsedRow_ok loaded).symm

private theorem rowMatchesInput_iff {row : CellRow} :
    rowMatchesInput row input = true ↔
      row.cacheKey = input.cacheKey ∧ row.identity.columns = input.columns := by
  simp [rowMatchesInput]

/-- A row is replaced by one with its identifier. -/
theorem replaceCell_ids (row : CellRow) :
    ((replaceCell rows row).cells.map fun known => known.cellResult.cellResultId) =
      rows.cells.map fun known => known.cellResult.cellResultId := by
  unfold replaceCell
  rw [List.map_map]
  refine List.map_congr_left fun known _ => ?_
  rw [Function.comp_apply]
  split
  · rename_i same
    exact (beq_iff_eq.mp same).symm
  · rfl

theorem replaceCell_mem {row later : CellRow} (member : later ∈ (replaceCell rows row).cells) :
    later = row ∨ later ∈ rows.cells ∧
      later.cellResult.cellResultId ≠ row.cellResult.cellResultId := by
  obtain ⟨known, knownMember, rfl⟩ := List.mem_map.mp member
  split
  · exact .inl rfl
  · rename_i other
    exact .inr ⟨knownMember, by simpa using other⟩

theorem replaceCell_findCell {old : CellRow} (row : CellRow)
    (found : rows.findCell row.cellResult.cellResultId = some old) (searched : CellResultId) :
    (replaceCell rows row).findCell searched =
      if searched = row.cellResult.cellResultId then some row else rows.findCell searched := by
  unfold replaceCell RecipeCellRows.findCell
  dsimp only
  have same : ((fun known : CellRow => known.cellResult.cellResultId == searched) ∘
      fun known : CellRow =>
        if known.cellResult.cellResultId == row.cellResult.cellResultId then row else known) =
      fun known => known.cellResult.cellResultId == searched := by
    funext known
    rw [Function.comp_apply]
    split
    · rename_i replaced
      rw [beq_iff_eq.mp replaced]
    · rfl
  rw [List.find?_map, same]
  split
  · rename_i here
    subst here
    rw [show rows.cells.find? _ = some old from found, Option.map_some,
      if_pos (by simpa using (findCell_mem found).2)]
  · rename_i other
    cases located : rows.cells.find? fun known => known.cellResult.cellResultId == searched with
    | none => rfl
    | some known =>
        have key : known.cellResult.cellResultId = searched := by
          simpa using List.find?_some located
        rw [Option.map_some, if_neg (by simpa [key] using other)]

/-! ## Pins -/

private theorem readPin_ok {resolved : Bool} {cache : Option RecipeCellCacheSnapshot}
    {stored : Option CellRow}
    (read : readPin canonical evidence scope rows input cellResultId =
      .ok (resolved, cache, stored)) :
    rows.findSlot input.cacheKey = cache ∧ rows.findCell cellResultId = stored := by
  obtain ⟨_, _, read⟩ := bind_eq_ok.mp read
  obtain ⟨_, _, read⟩ := bind_eq_ok.mp read
  obtain ⟨slot, slotEq, read⟩ := bind_eq_ok.mp read
  obtain ⟨row, rowEq, same⟩ := map_eq_ok.mp read
  obtain ⟨_, rfl, rfl⟩ := Prod.mk.inj same
  exact ⟨loadCache_ok slotEq, loadCellById_ok rowEq⟩

/-- What both pins find: the slot of the input and a row of its result. -/
structure PinFound (rows : RecipeCellRows) (input : ExactRecipeCellInput)
    (cellResultId : CellResultId) (slot : RecipeCellCacheSnapshot) (row : CellRow) : Prop where
  located : rows.findSlot input.cacheKey = some slot
  found : rows.findCell cellResultId = some row
  sameKey : row.cacheKey = input.cacheKey
  sameColumns : row.identity.columns = input.columns

private theorem PinFound.of_matches {resolved : Bool} {slot : RecipeCellCacheSnapshot}
    {row : CellRow}
    (located : rows.findSlot input.cacheKey = some slot)
    (found : rows.findCell cellResultId = some row)
    (matched : pinMatches input resolved slot row = true) :
    PinFound rows input cellResultId slot row := by
  unfold pinMatches at matched
  obtain ⟨sameKey, sameColumns⟩ := rowMatchesInput_iff.mp (Bool.and_eq_true _ _ ▸ matched).2
  exact ⟨located, found, sameKey, sameColumns⟩

/-- What pinning a cached cell has found. -/
theorem pinCached_ok {now : Instant} {pinned : Bool}
    (done : pinCached canonical evidence scope rows input cellResultId now =
      .ok (pinned, after)) :
    ∃ slot row validUntil, PinFound rows input cellResultId slot row ∧
      slot.validCellResultId = some cellResultId ∧ slot.validUntil = some validUntil ∧
      row.cellResult.status = .succeeded ∧
      ((pinned = false ∧ validUntil ≤ now ∧ after = rows) ∨
        (pinned = true ∧ now < validUntil ∧
          insertApplicationCell evidence rows input cellResultId .cached = .ok after)) := by
  obtain ⟨⟨resolved, cache, stored⟩, read, done⟩ := bind_eq_ok.mp done
  obtain ⟨located, found⟩ := readPin_ok read
  split at done
  · rename_i slot row same
    obtain ⟨-, rfl, rfl⟩ := Prod.mk.inj same
    split at done
    · cases done
    rename_i validUntil validEq
    split at done
    · cases done
    rename_i checked
    simp only [Bool.or_eq_true, Bool.not_eq_true', bne_iff_ne, ne_eq, not_or,
      Bool.not_eq_false, not_not] at checked
    obtain ⟨⟨matched, valid⟩, succeeded⟩ := checked
    refine ⟨slot, row, validUntil, .of_matches located found matched, valid, validEq, succeeded, ?_⟩
    split at done
    · rename_i expired
      obtain ⟨rfl, rfl⟩ := Prod.mk.inj (Except.ok.inj done)
      exact .inl ⟨rfl, expired, rfl⟩
    · rename_i fresh
      obtain ⟨inserted, insertedEq, same⟩ := map_eq_ok.mp done
      obtain ⟨rfl, rfl⟩ := Prod.mk.inj same
      exact .inr ⟨rfl, not_le.mp fresh, insertedEq⟩
  · cases done

/-- What pinning an active cell has found. -/
theorem pinActive_ok
    (done : pinActive canonical evidence scope rows input cellResultId = .ok after) :
    ∃ slot row, PinFound rows input cellResultId slot row ∧
      slot.activeCellResultId = some cellResultId ∧
      cellStatusIsTerminal row.cellResult.status = false ∧
      insertApplicationCell evidence rows input cellResultId .executed = .ok after := by
  obtain ⟨⟨resolved, cache, stored⟩, read, done⟩ := bind_eq_ok.mp done
  obtain ⟨located, found⟩ := readPin_ok read
  split at done
  · rename_i slot row same
    obtain ⟨-, rfl, rfl⟩ := Prod.mk.inj same
    split at done
    · cases done
    rename_i checked
    simp only [Bool.or_eq_true, Bool.not_eq_true', bne_iff_ne, ne_eq, not_or,
      Bool.not_eq_false, not_not, Bool.not_eq_true] at checked
    obtain ⟨⟨matched, active⟩, inFlight⟩ := checked
    exact ⟨slot, row, .of_matches located found matched, active, inFlight, done⟩
  · cases done

/-! ## Pending cells -/

private theorem insertedCell_cases (rows : RecipeCellRows) (row : CellRow) :
    (insertedCell rows row = rows ∧
      ∃ known ∈ rows.cells, known.cellResult.cellResultId = row.cellResult.cellResultId ∨
        known.cellResult.runId = row.cellResult.runId) ∨
    (insertedCell rows row = { rows with cells := rows.cells ++ [row] } ∧
      ∀ known ∈ rows.cells, known.cellResult.cellResultId ≠ row.cellResult.cellResultId ∧
        known.cellResult.runId ≠ row.cellResult.runId) := by
  unfold insertedCell
  split
  · rename_i taken
    exact .inl ⟨rfl, by simpa using taken⟩
  · rename_i fresh
    exact .inr ⟨rfl, by simpa using fresh⟩

/-- A pending row is stored, its slot is claimed and its application cell is bound. -/
structure PendingStored (rows after : RecipeCellRows) (binding : RecipeCellRunBinding)
    (now : Instant) (snapshot : RecipeCellCacheSnapshot) (ordinal : ℕ) : Prop where
  fresh : ∀ known ∈ rows.cells, known.cellResult.cellResultId ≠ binding.cellResult.cellResultId ∧
    known.cellResult.runId ≠ binding.cellResult.runId
  claimed : ClaimedSlot rows binding.input binding.cellResult.cellResultId now snapshot
  cells : after.cells = rows.cells ++ [binding.row]
  slot : after.findSlot snapshot.cacheKey = some snapshot
  others : ∀ cacheKey, cacheKey ≠ snapshot.cacheKey →
    after.findSlot cacheKey = rows.findSlot cacheKey
  kept : rows.applicationCells <+: after.applicationCells
  added : ∀ known ∈ after.applicationCells, known ∈ rows.applicationCells ∨
    known = ⟨binding.input.recipeApplicationId, binding.input.columns, ordinal,
      binding.input.cacheKey, binding.cellResult.cellResultId, .executed⟩
  bound : after.findApplicationCell binding.input.recipeApplicationId
    binding.input.columns.recordId = some ⟨binding.input.recipeApplicationId,
      binding.input.columns, ordinal, binding.input.cacheKey, binding.cellResult.cellResultId,
      .executed⟩

/-- Over a slot that is not active, a pending cell is stored unless it was stored before. -/
theorem storePending_ok (binding : RecipeCellRunBinding) {now : Instant}
    (inactive : ∀ slot, rows.findSlot binding.input.cacheKey = some slot →
      slot.activeCellResultId = none)
    (done : storePending canonical evidence scope rows binding now = .ok after) :
    (∃ row, rows.findCell binding.cellResult.cellResultId = some row ∧
        row.cacheKey = binding.input.cacheKey ∧ row.cellResult = binding.cellResult) ∨
      ∃ snapshot ordinal, PendingStored rows after binding now snapshot ordinal := by
  obtain ⟨stored, loaded, done⟩ := bind_eq_ok.mp done
  have found := loadCellById_ok loaded
  split at done
  · cases done
  rename_i matched
  obtain ⟨claimed, claimEq, insertEq⟩ := bind_eq_ok.mp done
  obtain ⟨row, rfl, rowMatched⟩ : ∃ row, stored = some row ∧
      pendingRowMatches binding.row row = true := by
    cases stored with
    | none => simp at matched
    | some row => exact ⟨row, rfl, by simpa using matched⟩
  simp only [pendingRowMatches, Bool.and_eq_true, beq_iff_eq] at rowMatched
  rcases insertedCell_cases rows binding.row with ⟨same, _⟩ | ⟨appended, fresh⟩
  · rw [same] at found
    exact .inl ⟨row, found, rowMatched.1.1.1.1, rowMatched.2⟩
  · right
    rw [appended] at claimEq
    obtain ⟨ordinal, added⟩ := insertApplicationCell_ok insertEq
    rcases claimCacheForPendingCell_ok claimEq with ⟨-, slot, located, active⟩ | written
    · rw [inactive slot located] at active
      cases active
    · obtain ⟨snapshot, claimedSlot, -, slotWritten⟩ := written
      have claimedSlot : ClaimedSlot rows binding.input binding.cellResult.cellResultId now
          snapshot := by
        cases claimedSlot with
        | first unclaimed => exact .first unclaimed
        | next current located inactive expired => exact .next current located inactive expired
      refine ⟨snapshot, ordinal, fresh, claimedSlot, added.cells.trans slotWritten.cells,
        ?_, fun cacheKey other => ?_, ?_, fun known member => ?_, added.bound⟩
      · rw [added.findSlot]
        exact slotWritten.slot
      · rw [added.findSlot]
        exact slotWritten.others cacheKey other
      · exact slotWritten.bindings ▸ added.kept
      · exact (added.added known member).imp (slotWritten.bindings ▸ ·) id

/-- An accepted binding is the storing of its pending cell. -/
theorem bindPending_ok {binding : RecipeCellRunBinding} {now : Instant}
    (done : bindPending canonical evidence scope rows binding now = .ok after) :
    storePending canonical evidence scope rows binding now = .ok after := by
  obtain ⟨_, _, done⟩ := bind_eq_ok.mp done
  obtain ⟨resolved, _, done⟩ := bind_eq_ok.mp done
  split at done
  · cases done
  split at done
  · cases done
  split at done
  · obtain ⟨_, _, done⟩ := bind_eq_ok.mp done
    exact done
  · cases done

/-! ## Progress -/

/-- A row takes a result with its identity. -/
structure CellReplaced (rows : RecipeCellRows) (row : CellRow) (cellResult : CellResult) :
    Prop where
  found : row ∈ rows.cells
  identity : payloadIdentity cellResult = row.expectedIdentity cellResult.status

/-- An accepted start moves a pending cell to running, or changes nothing. -/
theorem markRunning_ok {runId : RunId} {proposed : CellResult}
    (done : markRunning evidence rows runId proposed = .ok after) :
    after = rows ∨ ∃ row, CellReplaced rows row proposed ∧ proposed.status = .running ∧
      row.cellResult.status = .pending ∧
        after = replaceCell rows { row with cellResult := proposed } := by
  obtain ⟨found, loaded, checked⟩ := bind_eq_ok.mp done
  split at checked
  · cases checked
  rename_i row
  obtain ⟨parsed, parsedEq, moved⟩ := bind_eq_ok.mp checked
  obtain ⟨rfl, identity⟩ := parseProposed_ok parsedEq
  have running : parsed.status = .running := congrArg CellResultPayloadIdentity.status identity
  split at moved
  · split at moved
    · exact .inl (Except.ok.inj moved).symm
    · cases moved
  split at moved
  · cases moved
  rename_i pending
  exact .inr ⟨row, ⟨List.mem_of_find?_eq_some (loadCellByRun_ok loaded), running ▸ identity⟩,
    running, by simpa using pending, (Except.ok.inj moved).symm⟩

/-- An accepted finalization ends a cell in flight and settles its slot, or changes nothing. -/
theorem finalizeCell_ok {run : Option Run} {finalization : RecipeCellFinalization}
    (done : finalizeCell canonical evidence scope rows run finalization = .ok after) :
    after = rows ∨ ∃ row, CellReplaced rows row finalization.cellResult ∧
      cellStatusIsTerminal row.cellResult.status = false ∧
        settleCacheForTerminalCell canonical scope
          (replaceCell rows { row with
            cellResult := finalization.cellResult
            evidence := finalization.columns }) row finalization.cellResult = .ok after := by
  obtain ⟨found, loaded, done⟩ := bind_eq_ok.mp done
  split at done
  · cases done
  rename_i row
  obtain ⟨parsed, parsedEq, done⟩ := bind_eq_ok.mp done
  obtain ⟨rfl, identity⟩ := parseProposed_ok parsedEq
  split at done
  · cases done
  split at done
  · cases done
  split at done
  · split at done
    · exact .inl (Except.ok.inj done).symm
    · cases done
  rename_i inFlight
  exact .inr ⟨row, ⟨List.mem_of_find?_eq_some (loadCellById_ok loaded), identity⟩,
    by simpa using inFlight, done⟩

end Kurobara.Persistence
