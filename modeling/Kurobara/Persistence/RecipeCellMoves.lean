import Kurobara.Persistence.RecipeCellWrites

/-! # Moves of the recipe cell rows

What a transaction can do to the rows, and what every such move keeps: each slot names the
result in flight and the last valid result of its input, a result in flight is named by its
slot, and the cell of an application names a result of its own input. What was bound and what
was settled stays as it is.
-/

namespace Kurobara.Persistence

open Foundation Kernel

variable {canonical : RecipeCanonicalization} {rows after : RecipeCellRows}

/-- A transaction writes nothing, binds a cell to a known result, stores a pending cell, or
moves the result of a cell on. -/
inductive RecipeCellMove (canonical : RecipeCanonicalization) (rows : RecipeCellRows) :
    RecipeCellRows → Prop where
  | unchanged : RecipeCellMove canonical rows rows
  | pinned {after : RecipeCellRows} {input : ExactRecipeCellInput} {cellResultId : CellResultId}
      {slot : RecipeCellCacheSnapshot} {row : CellRow} {binding : RecipeCellBinding} {ordinal : ℕ}
      (pin : PinFound rows input cellResultId slot row)
      (succeeded : binding = .cached → row.cellResult.status = .succeeded)
      (added : BindingAdded rows after ⟨input.recipeApplicationId, input.columns, ordinal,
        input.cacheKey, cellResultId, binding⟩) : RecipeCellMove canonical rows after
  | stored {after : RecipeCellRows} {binding : RecipeCellRunBinding} {now : Instant}
      {snapshot : RecipeCellCacheSnapshot} {ordinal : ℕ}
      (keyed : binding.input.cacheKey =
        recipeCellCacheKey canonical binding.input.toRecipeCellCacheIdentity)
      (pending : binding.cellResult.status = .pending)
      (unclaimed : ∀ slot, rows.findSlot binding.input.cacheKey = some slot →
        slot.activeCellResultId = none)
      (stored : PendingStored rows after binding now snapshot ordinal) :
      RecipeCellMove canonical rows after
  | started {row : CellRow} {cellResult : CellResult} (replaced : CellReplaced rows row cellResult)
      (running : cellResult.status = .running) (pending : row.cellResult.status = .pending) :
      RecipeCellMove canonical rows (replaceCell rows { row with cellResult := cellResult })
  | settled {after : RecipeCellRows} {row : CellRow} {cellResult : CellResult}
      {columns : CellEvidenceColumns} {current : RecipeCellCacheSnapshot}
      (replaced : CellReplaced rows row cellResult)
      (inFlight : cellStatusIsTerminal row.cellResult.status = false)
      (terminal : cellStatusIsTerminal cellResult.status = true)
      (located : rows.findSlot row.cacheKey = some current)
      (active : current.activeCellResultId = some cellResult.cellResultId)
      (written : SlotWritten
        (replaceCell rows { row with cellResult := cellResult, evidence := columns }) after
        ⟨none, current.cacheIdentity, current.cacheKey, current.revision + 1,
          (terminalCacheValidity current cellResult).1,
          (terminalCacheValidity current cellResult).2⟩) :
      RecipeCellMove canonical rows after

/-! ## Rows -/

/-- The rows of results have distinct identifiers and the keys of their inputs. -/
structure CellsAreKeyed (canonical : RecipeCanonicalization) (rows : RecipeCellRows) : Prop where
  distinct : (rows.cells.map fun row => row.cellResult.cellResultId).Nodup
  keyed : ∀ row ∈ rows.cells, row.cacheKey = recipeCellCacheKey canonical row.identity

theorem CellsAreKeyed.found (keyed : CellsAreKeyed canonical rows) {row : CellRow}
    (member : row ∈ rows.cells) : rows.findCell row.cellResult.cellResultId = some row :=
  (find?_key_eq_some_iff keyed.distinct).mpr ⟨member, rfl⟩

/-- The later row of a result: it is the same row, or a change that the trigger lets through. -/
def RowEvolves (row later : CellRow) : Prop :=
  later = row ∨ guardCellResultChange row later = true

private theorem guardCellResultChange_iff {old new : CellRow} :
    guardCellResultChange old new = true ↔
      old.recipeApplicationId = new.recipeApplicationId ∧ old.identity = new.identity ∧
        old.cacheKey = new.cacheKey ∧ old.inputId = new.inputId ∧
        old.runPlanId = new.runPlanId ∧
        old.cellResult.cellResultId = new.cellResult.cellResultId ∧
        old.cellResult.runId = new.cellResult.runId ∧
        cellTransitionIsAllowed old.cellResult.status new.cellResult.status = true := by
  simp [guardCellResultChange, and_assoc]

private theorem cellTransitionIsAllowed_open {old new : CellResultStatus}
    (allowed : cellTransitionIsAllowed old new = true) : cellStatusIsTerminal old = false := by
  cases old <;> first | rfl | cases allowed

private theorem cellTransitionIsAllowed_trans {first middle last : CellResultStatus}
    (earlier : cellTransitionIsAllowed first middle = true)
    (later : cellTransitionIsAllowed middle last = true) :
    cellTransitionIsAllowed first last = true := by
  revert earlier later
  cases first <;> cases middle <;> cases last <;> decide

/-- A settled row does not evolve. -/
theorem RowEvolves.terminal {row later : CellRow} (evolves : RowEvolves row later)
    (terminal : cellStatusIsTerminal row.cellResult.status = true) : later = row := by
  rcases evolves with same | changed
  · exact same
  · obtain ⟨-, -, -, -, -, -, -, allowed⟩ := guardCellResultChange_iff.mp changed
    rw [cellTransitionIsAllowed_open allowed] at terminal
    cases terminal

theorem RowEvolves.same {row later : CellRow} (evolves : RowEvolves row later) :
    later.cacheKey = row.cacheKey ∧ later.identity = row.identity := by
  rcases evolves with rfl | changed
  · exact ⟨rfl, rfl⟩
  · obtain ⟨-, identity, cacheKey, -⟩ := guardCellResultChange_iff.mp changed
    exact ⟨cacheKey.symm, identity.symm⟩

/-- A cell's later rows follow from each other. -/
theorem RowEvolves.trans {first middle last : CellRow} (earlier : RowEvolves first middle)
    (later : RowEvolves middle last) : RowEvolves first last := by
  rcases earlier with rfl | changed
  · exact later
  rcases later with rfl | again
  · exact .inr changed
  obtain ⟨application, identity, cacheKey, inputId, runPlanId, cellResultId, runId, allowed⟩ :=
    guardCellResultChange_iff.mp changed
  obtain ⟨application', identity', cacheKey', inputId', runPlanId', cellResultId', runId',
    allowed'⟩ := guardCellResultChange_iff.mp again
  exact .inr (guardCellResultChange_iff.mpr ⟨application.trans application',
    identity.trans identity', cacheKey.trans cacheKey', inputId.trans inputId',
    runPlanId.trans runPlanId', cellResultId.trans cellResultId', runId.trans runId',
    cellTransitionIsAllowed_trans allowed allowed'⟩)

private theorem CellReplaced.sameIds {row : CellRow} {cellResult : CellResult}
    (replaced : CellReplaced rows row cellResult) :
    cellResult.cellResultId = row.cellResult.cellResultId ∧
      cellResult.runId = row.cellResult.runId :=
  ⟨congrArg CellResultPayloadIdentity.cellResultId replaced.identity,
    congrArg CellResultPayloadIdentity.runId replaced.identity⟩

theorem CellReplaced.evolves {row : CellRow} {cellResult : CellResult}
    (replaced : CellReplaced rows row cellResult) (columns : CellEvidenceColumns)
    (allowed : cellTransitionIsAllowed row.cellResult.status cellResult.status = true) :
    RowEvolves row { row with cellResult := cellResult, evidence := columns } :=
  .inr (guardCellResultChange_iff.mpr ⟨rfl, rfl, rfl, rfl, rfl, replaced.sameIds.1.symm,
    replaced.sameIds.2.symm, allowed⟩)

/-- The result of a row that was replaced is found in its place. -/
theorem CellReplaced.findCell (keyed : CellsAreKeyed canonical rows) {row : CellRow}
    {cellResult : CellResult} (replaced : CellReplaced rows row cellResult)
    (columns : CellEvidenceColumns) (searched : CellResultId) :
    (replaceCell rows { row with cellResult := cellResult, evidence := columns }).findCell
        searched =
      if searched = row.cellResult.cellResultId then
        some { row with cellResult := cellResult, evidence := columns }
      else rows.findCell searched := by
  have found : rows.findCell cellResult.cellResultId = some row :=
    replaced.sameIds.1 ▸ keyed.found replaced.found
  rw [replaceCell_findCell { row with cellResult := cellResult, evidence := columns } found]
  simp only [replaced.sameIds.1]

private theorem allowed_of_inFlight {old new : CellResultStatus}
    (inFlight : cellStatusIsTerminal old = false) (terminal : cellStatusIsTerminal new = true) :
    cellTransitionIsAllowed old new = true := by
  revert inFlight terminal
  cases old <;> cases new <;> decide

/-- The row of every result evolves. -/
def RowsEvolve (rows after : RecipeCellRows) : Prop :=
  ∀ cellResultId row, rows.findCell cellResultId = some row →
    ∃ later, after.findCell cellResultId = some later ∧ RowEvolves row later

theorem RowsEvolve.refl (rows : RecipeCellRows) : RowsEvolve rows rows :=
  fun _ row found => ⟨row, found, .inl rfl⟩

private theorem RowsEvolve.of_cells (same : after.cells = rows.cells) : RowsEvolve rows after := by
  intro cellResultId row found
  refine ⟨row, ?_, .inl rfl⟩
  rw [RecipeCellRows.findCell, same]
  exact found

private theorem findCell_append {appended : List CellRow} {cellResultId : CellResultId}
    {row : CellRow}
    (cells : after.cells = rows.cells ++ appended)
    (found : rows.findCell cellResultId = some row) : after.findCell cellResultId = some row := by
  unfold RecipeCellRows.findCell at found ⊢
  rw [cells, List.find?_append, found]
  rfl

private theorem CellReplaced.rowsEvolve (keyed : CellsAreKeyed canonical rows) {row : CellRow}
    {cellResult : CellResult} (replaced : CellReplaced rows row cellResult)
    (columns : CellEvidenceColumns)
    (allowed : cellTransitionIsAllowed row.cellResult.status cellResult.status = true) :
    RowsEvolve rows
      (replaceCell rows { row with cellResult := cellResult, evidence := columns }) := by
  intro searched known found
  rw [replaced.findCell keyed columns]
  by_cases here : searched = row.cellResult.cellResultId
  · rw [if_pos here]
    have same : known = row :=
      Option.some.inj (found.symm.trans (here ▸ keyed.found replaced.found))
    exact ⟨_, rfl, same ▸ replaced.evolves columns allowed⟩
  · rw [if_neg here]
    exact ⟨known, found, .inl rfl⟩

/-- The rows of results evolve under every move. -/
theorem RecipeCellMove.rowsEvolve (keyed : CellsAreKeyed canonical rows)
    (move : RecipeCellMove canonical rows after) : RowsEvolve rows after := by
  cases move with
  | unchanged => exact .refl rows
  | pinned _ _ added => exact .of_cells added.cells
  | stored _ _ _ stored =>
      exact fun _ row found => ⟨row, findCell_append stored.cells found, .inl rfl⟩
  | started replaced running pending =>
      exact replaced.rowsEvolve keyed _ (by rw [running, pending]; rfl)
  | settled replaced inFlight terminal located active written =>
      intro cellResultId row found
      obtain ⟨later, laterEq, evolves⟩ :=
        replaced.rowsEvolve keyed _ (allowed_of_inFlight inFlight terminal) cellResultId row found
      refine ⟨later, ?_, evolves⟩
      rw [RecipeCellRows.findCell, written.cells]
      exact laterEq

theorem CellReplaced.keyed (keyed : CellsAreKeyed canonical rows) {row : CellRow}
    {cellResult : CellResult} (replaced : CellReplaced rows row cellResult)
    (columns : CellEvidenceColumns) :
    CellsAreKeyed canonical
      (replaceCell rows { row with cellResult := cellResult, evidence := columns }) where
  distinct := by
    rw [replaceCell_ids]
    exact keyed.distinct
  keyed := by
    intro later member
    rcases replaceCell_mem member with rfl | ⟨known, _⟩
    · exact keyed.keyed row replaced.found
    · exact keyed.keyed later known

private theorem CellsAreKeyed.of_cells (keyed : CellsAreKeyed canonical rows)
    (same : after.cells = rows.cells) : CellsAreKeyed canonical after :=
  ⟨same ▸ keyed.distinct, same ▸ keyed.keyed⟩

/-- A move keeps the cells keyed. -/
theorem RecipeCellMove.keyed (keyed : CellsAreKeyed canonical rows)
    (move : RecipeCellMove canonical rows after) : CellsAreKeyed canonical after := by
  cases move with
  | unchanged => exact keyed
  | pinned _ _ added => exact keyed.of_cells added.cells
  | stored inputKeyed _ _ stored =>
      refine ⟨?_, ?_⟩
      · rw [stored.cells, List.map_append, List.nodup_append]
        refine ⟨keyed.distinct, List.nodup_singleton _, ?_⟩
        intro known member new newMember
        obtain ⟨row, rowMember, rfl⟩ := List.mem_map.mp member
        rw [List.map_singleton, List.mem_singleton] at newMember
        exact newMember ▸ (stored.fresh row rowMember).1
      · intro row member
        rcases List.mem_append.mp (stored.cells ▸ member) with known | new
        · exact keyed.keyed row known
        · rw [List.mem_singleton.mp new]
          exact inputKeyed
  | started replaced => exact replaced.keyed keyed _
  | settled replaced _ _ _ _ written => exact (replaced.keyed keyed _).of_cells written.cells

/-! ## Slots and bindings -/

/-- The cell has not ended. -/
def CellRow.IsInFlight (row : CellRow) : Prop :=
  cellStatusIsTerminal row.cellResult.status = false

/-- The active result of a slot is in flight for its key. -/
def ActiveIsInFlight (rows : RecipeCellRows) : Prop :=
  ∀ cacheKey slot cellResultId, rows.findSlot cacheKey = some slot →
    slot.activeCellResultId = some cellResultId →
      ∃ row, rows.findCell cellResultId = some row ∧ row.cacheKey = cacheKey ∧ row.IsInFlight

/-- A result in flight is the active one of its slot. -/
def InFlightIsActive (rows : RecipeCellRows) : Prop :=
  ∀ row ∈ rows.cells, row.IsInFlight →
    ∃ slot, rows.findSlot row.cacheKey = some slot ∧
      slot.activeCellResultId = some row.cellResult.cellResultId

/-- The valid result of a slot succeeded for its key, until the instant of the slot. -/
def ValidIsSucceeded (rows : RecipeCellRows) : Prop :=
  ∀ cacheKey slot cellResultId, rows.findSlot cacheKey = some slot →
    slot.validCellResultId = some cellResultId →
      ∃ row, rows.findCell cellResultId = some row ∧ row.cacheKey = cacheKey ∧
        row.cellResult.status = .succeeded ∧
          row.cellResult.freshness.bind CellResultFreshness.expiresAt = slot.validUntil

/-- The row that an application cell is bound to. -/
structure IsPinned (rows : RecipeCellRows) (known : ApplicationCellRow) (row : CellRow) :
    Prop where
  found : rows.findCell known.cellResultId = some row
  sameKey : row.cacheKey = known.cacheKey
  sameColumns : row.identity.columns = known.columns
  succeeded : known.binding = .cached → row.cellResult.status = .succeeded

private def BindingsArePinned (rows : RecipeCellRows) : Prop :=
  ∀ known ∈ rows.applicationCells, ∃ row, IsPinned rows known row

/-- What every transaction keeps. -/
structure CacheIsSafe (canonical : RecipeCanonicalization) (rows : RecipeCellRows) : Prop
    extends CellsAreKeyed canonical rows where
  active : ActiveIsInFlight rows
  inFlight : InFlightIsActive rows
  valid : ValidIsSucceeded rows
  pinned : BindingsArePinned rows

theorem RowsEvolve.succeeded (evolve : RowsEvolve rows after) {cellResultId : CellResultId}
    {row : CellRow} (found : rows.findCell cellResultId = some row)
    (succeeded : row.cellResult.status = .succeeded) : after.findCell cellResultId = some row := by
  obtain ⟨later, laterEq, evolves⟩ := evolve cellResultId row found
  rw [laterEq, evolves.terminal (by rw [succeeded]; rfl)]

private theorem IsPinned.evolve (evolve : RowsEvolve rows after) {known : ApplicationCellRow}
    {row : CellRow} (pinned : IsPinned rows known row) : ∃ later, IsPinned after known later := by
  obtain ⟨later, laterEq, evolves⟩ := evolve _ row pinned.found
  obtain ⟨sameKey, sameIdentity⟩ := evolves.same
  refine ⟨later, laterEq, sameKey.trans pinned.sameKey,
    (congrArg _ sameIdentity).trans pinned.sameColumns, fun cached => ?_⟩
  have succeeded := pinned.succeeded cached
  rw [evolves.terminal (by rw [succeeded]; rfl)]
  exact succeeded

private theorem BindingsArePinned.evolve (pinned : BindingsArePinned rows)
    (evolve : RowsEvolve rows after)
    (same : after.applicationCells = rows.applicationCells) : BindingsArePinned after := by
  intro known member
  obtain ⟨row, isPinned⟩ := pinned known (same ▸ member)
  exact isPinned.evolve evolve

/-- The valid result of a slot that still names it. -/
theorem ValidIsSucceeded.evolve (valid : ValidIsSucceeded rows) (evolve : RowsEvolve rows after)
    {cacheKey : ContentHash} (slot later : RecipeCellCacheSnapshot) {cellResultId : CellResultId}
    (located : rows.findSlot cacheKey = some slot)
    (sameResult : later.validCellResultId = slot.validCellResultId)
    (sameExpiry : later.validUntil = slot.validUntil)
    (named : later.validCellResultId = some cellResultId) :
    ∃ row, after.findCell cellResultId = some row ∧ row.cacheKey = cacheKey ∧
      row.cellResult.status = .succeeded ∧
        row.cellResult.freshness.bind CellResultFreshness.expiresAt = later.validUntil := by
  obtain ⟨row, found, sameKey, succeeded, expiry⟩ :=
    valid cacheKey slot cellResultId located (sameResult ▸ named)
  exact ⟨row, evolve.succeeded found succeeded, sameKey, succeeded, expiry.trans sameExpiry.symm⟩

/-- At most one result is in flight for a key. -/
theorem CacheIsSafe.inFlight_unique (safe : CacheIsSafe canonical rows) {row other : CellRow}
    (member : row ∈ rows.cells) (otherMember : other ∈ rows.cells) (open_ : row.IsInFlight)
    (otherOpen : other.IsInFlight) (sameKey : row.cacheKey = other.cacheKey) : row = other := by
  obtain ⟨slot, located, active⟩ := safe.inFlight row member open_
  obtain ⟨otherSlot, otherLocated, otherActive⟩ := safe.inFlight other otherMember otherOpen
  obtain rfl := Option.some.inj ((sameKey ▸ located).symm.trans otherLocated)
  have sameId := Option.some.inj (active.symm.trans otherActive)
  exact Option.some.inj ((safe.found member).symm.trans (sameId ▸ safe.found otherMember))

theorem PendingStored.findCell {binding : RecipeCellRunBinding} {now : Instant}
    {snapshot : RecipeCellCacheSnapshot} {ordinal : ℕ}
    (stored : PendingStored rows after binding now snapshot ordinal) :
    after.findCell binding.cellResult.cellResultId = some binding.row := by
  have missing : rows.cells.find? (fun row =>
      row.cellResult.cellResultId == binding.cellResult.cellResultId) = none := by
    rw [List.find?_eq_none]
    intro known member
    simpa using (stored.fresh known member).1
  rw [RecipeCellRows.findCell, stored.cells, List.find?_append, missing]
  simp [RecipeCellRunBinding.row]

section Moves

variable (safe : CacheIsSafe canonical rows)

include safe

theorem CacheIsSafe.pin {input : ExactRecipeCellInput} {cellResultId : CellResultId}
    {slot : RecipeCellCacheSnapshot} {row : CellRow} {binding : RecipeCellBinding} {ordinal : ℕ}
    (pin : PinFound rows input cellResultId slot row)
    (succeeded : binding = .cached → row.cellResult.status = .succeeded)
    (added : BindingAdded rows after ⟨input.recipeApplicationId, input.columns, ordinal,
      input.cacheKey, cellResultId, binding⟩) : CacheIsSafe canonical after := by
  have sameCells : after.findCell = rows.findCell := by
    funext searched
    rw [RecipeCellRows.findCell, RecipeCellRows.findCell, added.cells]
  refine ⟨safe.toCellsAreKeyed.of_cells added.cells, ?_, ?_, ?_, ?_⟩
  · unfold ActiveIsInFlight
    rw [sameCells, added.findSlot]
    exact safe.active
  · unfold InFlightIsActive
    rw [added.cells, added.findSlot]
    exact safe.inFlight
  · unfold ValidIsSucceeded
    rw [sameCells, added.findSlot]
    exact safe.valid
  · intro known member
    rcases added.added known member with earlier | rfl
    · obtain ⟨bound, pinned⟩ := safe.pinned known earlier
      exact pinned.evolve (.of_cells added.cells)
    · exact ⟨row, sameCells ▸ pin.found, pin.sameKey, pin.sameColumns, succeeded⟩

theorem CacheIsSafe.store {binding : RecipeCellRunBinding} {now : Instant}
    {snapshot : RecipeCellCacheSnapshot} {ordinal : ℕ}
    (keyed : CellsAreKeyed canonical after) (evolve : RowsEvolve rows after)
    (pending : binding.cellResult.status = .pending)
    (unclaimed : ∀ slot, rows.findSlot binding.input.cacheKey = some slot →
      slot.activeCellResultId = none)
    (stored : PendingStored rows after binding now snapshot ordinal) :
    CacheIsSafe canonical after := by
  have open_ : binding.row.IsInFlight := by
    show cellStatusIsTerminal binding.cellResult.status = false
    rw [pending]
    rfl
  have slotKey := stored.claimed.cacheKey
  refine ⟨keyed, ?_, ?_, ?_, ?_⟩
  · intro cacheKey slot cellResultId located active
    by_cases here : cacheKey = snapshot.cacheKey
    · subst here
      obtain rfl := Option.some.inj (stored.slot.symm.trans located)
      obtain rfl := Option.some.inj (stored.claimed.active.symm.trans active)
      exact ⟨binding.row, stored.findCell, slotKey.symm, open_⟩
    · rw [stored.others cacheKey here] at located
      obtain ⟨row, found, sameKey, inFlight⟩ :=
        safe.active cacheKey slot cellResultId located active
      exact ⟨row, findCell_append stored.cells found, sameKey, inFlight⟩
  · intro row member inFlight
    rcases List.mem_append.mp (stored.cells ▸ member) with known | new
    · obtain ⟨slot, located, active⟩ := safe.inFlight row known inFlight
      have other : row.cacheKey ≠ snapshot.cacheKey := by
        intro same
        rw [unclaimed slot (slotKey ▸ same ▸ located)] at active
        cases active
      exact ⟨slot, (stored.others _ other).trans located, active⟩
    · rw [List.mem_singleton.mp new]
      refine ⟨snapshot, ?_, stored.claimed.active⟩
      show after.findSlot binding.input.cacheKey = some snapshot
      rw [← slotKey]
      exact stored.slot
  · intro cacheKey slot cellResultId located named
    by_cases here : cacheKey = snapshot.cacheKey
    · subst here
      obtain rfl := Option.some.inj (stored.slot.symm.trans located)
      cases stored.claimed with
      | first => cases named
      | next current found =>
          refine safe.valid.evolve evolve current _ ?_ rfl rfl named
          rw [show current.cacheKey = binding.input.cacheKey from findSlot_cacheKey found]
          exact found
    · rw [stored.others cacheKey here] at located
      exact safe.valid.evolve evolve slot slot located rfl rfl named
  · intro known member
    rcases stored.added known member with earlier | rfl
    · obtain ⟨row, pinned⟩ := safe.pinned known earlier
      exact pinned.evolve evolve
    · exact ⟨binding.row, stored.findCell, rfl, rfl, fun cached => by cases cached⟩

theorem CacheIsSafe.start {row : CellRow} {cellResult : CellResult}
    (keyed : CellsAreKeyed canonical (replaceCell rows { row with cellResult := cellResult }))
    (evolve : RowsEvolve rows (replaceCell rows { row with cellResult := cellResult }))
    (replaced : CellReplaced rows row cellResult) (running : cellResult.status = .running)
    (pending : row.cellResult.status = .pending) :
    CacheIsSafe canonical (replaceCell rows { row with cellResult := cellResult }) := by
  have open_ : CellRow.IsInFlight { row with cellResult := cellResult } := by
    show cellStatusIsTerminal cellResult.status = false
    rw [running]
    rfl
  refine ⟨keyed, ?_, ?_, ?_, safe.pinned.evolve evolve rfl⟩
  · intro cacheKey slot cellResultId located active
    obtain ⟨known, found, sameKey, inFlight⟩ :=
      safe.active cacheKey slot cellResultId located active
    rw [replaced.findCell safe.toCellsAreKeyed row.evidence]
    by_cases here : cellResultId = row.cellResult.cellResultId
    · rw [if_pos here]
      have same : known = row :=
        Option.some.inj (found.symm.trans (here ▸ safe.found replaced.found))
      exact ⟨_, rfl, same ▸ sameKey, open_⟩
    · rw [if_neg here]
      exact ⟨known, found, sameKey, inFlight⟩
  · intro later member inFlight
    rcases replaceCell_mem member with rfl | ⟨known, _⟩
    · obtain ⟨slot, located, active⟩ := safe.inFlight row replaced.found (by
        show cellStatusIsTerminal row.cellResult.status = false
        rw [pending]
        rfl)
      exact ⟨slot, located, active.trans (congrArg some replaced.sameIds.1.symm)⟩
    · exact safe.inFlight later known inFlight
  · intro cacheKey slot cellResultId located named
    exact safe.valid.evolve evolve slot slot located rfl rfl named

theorem CacheIsSafe.settle {row : CellRow} {cellResult : CellResult}
    {columns : CellEvidenceColumns} {current : RecipeCellCacheSnapshot}
    (keyed : CellsAreKeyed canonical after) (evolve : RowsEvolve rows after)
    (replaced : CellReplaced rows row cellResult)
    (terminal : cellStatusIsTerminal cellResult.status = true)
    (located : rows.findSlot row.cacheKey = some current)
    (active : current.activeCellResultId = some cellResult.cellResultId)
    (written : SlotWritten
      (replaceCell rows { row with cellResult := cellResult, evidence := columns }) after
      ⟨none, current.cacheIdentity, current.cacheKey, current.revision + 1,
        (terminalCacheValidity current cellResult).1,
        (terminalCacheValidity current cellResult).2⟩) :
    CacheIsSafe canonical after := by
  have currentKey : current.cacheKey = row.cacheKey := findSlot_cacheKey located
  have findCell : ∀ searched, after.findCell searched =
      if searched = row.cellResult.cellResultId then
        some { row with cellResult := cellResult, evidence := columns }
      else rows.findCell searched := by
    intro searched
    rw [RecipeCellRows.findCell, written.cells]
    exact replaced.findCell safe.toCellsAreKeyed columns searched
  have others : ∀ cacheKey, cacheKey ≠ row.cacheKey →
      after.findSlot cacheKey = rows.findSlot cacheKey := fun cacheKey other =>
    written.others cacheKey (currentKey ▸ other)
  have settled := currentKey ▸ written.slot
  refine ⟨keyed, ?_, ?_, ?_, safe.pinned.evolve evolve written.bindings⟩
  · intro cacheKey slot cellResultId slotEq named
    by_cases here : cacheKey = row.cacheKey
    · subst here
      obtain rfl := Option.some.inj (settled.symm.trans slotEq)
      cases named
    · rw [others cacheKey here] at slotEq
      obtain ⟨known, found, sameKey, open_⟩ := safe.active cacheKey slot cellResultId slotEq named
      have other : cellResultId ≠ row.cellResult.cellResultId := by
        rintro rfl
        have same : known = row := Option.some.inj (found.symm.trans (safe.found replaced.found))
        exact here (same ▸ sameKey).symm
      exact ⟨known, (findCell _).trans (if_neg other ▸ found), sameKey, open_⟩
  · intro later member open_
    rcases replaceCell_mem (written.cells ▸ member) with rfl | ⟨known, otherId⟩
    · rw [CellRow.IsInFlight, terminal] at open_
      cases open_
    · obtain ⟨slot, slotEq, named⟩ := safe.inFlight later known open_
      have other : later.cacheKey ≠ row.cacheKey := by
        intro same
        obtain rfl := Option.some.inj (located.symm.trans (same ▸ slotEq))
        exact otherId (Option.some.inj (named.symm.trans active))
      exact ⟨slot, (others _ other).trans slotEq, named⟩
  · intro cacheKey slot cellResultId slotEq named
    by_cases here : cacheKey = row.cacheKey
    · subst here
      obtain rfl := Option.some.inj (settled.symm.trans slotEq)
      dsimp only at named ⊢
      unfold terminalCacheValidity at named ⊢
      split at named
      · rename_i succeeded
        split at named
        · cases named
        · rename_i expiresAt expiry
          obtain rfl := Option.some.inj named
          refine ⟨_, (findCell _).trans (if_pos replaced.sameIds.1), rfl,
            beq_iff_eq.mp succeeded, ?_⟩
          simp [succeeded, expiry]
      · rename_i failed
        rw [if_neg failed]
        exact safe.valid.evolve evolve current current located rfl rfl named
    · rw [others cacheKey here] at slotEq
      exact safe.valid.evolve evolve slot slot slotEq rfl rfl named

end Moves

/-- Every move keeps the cache safe. -/
theorem RecipeCellMove.safe (safe : CacheIsSafe canonical rows)
    (move : RecipeCellMove canonical rows after) : CacheIsSafe canonical after := by
  have keyed := move.keyed safe.toCellsAreKeyed
  have evolve := move.rowsEvolve safe.toCellsAreKeyed
  cases move with
  | unchanged => exact safe
  | pinned pin succeeded added => exact safe.pin pin succeeded added
  | stored _ pending unclaimed stored => exact safe.store keyed evolve pending unclaimed stored
  | started replaced running pending => exact safe.start keyed evolve replaced running pending
  | settled replaced _ terminal located active written =>
      exact safe.settle keyed evolve replaced terminal located active written

/-! ## History -/

/-- The later slot of a key: it is the same slot, or one with a later revision. -/
def SlotEvolves (slot later : RecipeCellCacheSnapshot) : Prop :=
  later = slot ∨ slot.cacheIdentity = later.cacheIdentity ∧ slot.cacheKey = later.cacheKey ∧
    slot.revision < later.revision

private theorem SlotEvolves.of_guard {slot later : RecipeCellCacheSnapshot}
    (changed : guardRecipeCacheChange slot later = true) : SlotEvolves slot later := by
  simp only [guardRecipeCacheChange, Bool.and_eq_true, beq_iff_eq] at changed
  obtain ⟨⟨identity, cacheKey⟩, revision⟩ := changed
  exact .inr ⟨identity, cacheKey, by omega⟩

theorem SlotEvolves.trans {first middle last : RecipeCellCacheSnapshot}
    (earlier : SlotEvolves first middle) (later : SlotEvolves middle last) :
    SlotEvolves first last := by
  rcases earlier with rfl | ⟨identity, cacheKey, revision⟩
  · exact later
  rcases later with rfl | ⟨identity', cacheKey', revision'⟩
  · exact .inr ⟨identity, cacheKey, revision⟩
  · exact .inr ⟨identity.trans identity', cacheKey.trans cacheKey', revision.trans revision'⟩

/-- Each slot is kept, or changed as the trigger lets it. -/
def SlotsChange (rows after : RecipeCellRows) : Prop :=
  ∀ cacheKey slot, rows.findSlot cacheKey = some slot →
    ∃ later, after.findSlot cacheKey = some later ∧
      (later = slot ∨ guardRecipeCacheChange slot later = true)

/-- A slot that is written is the next revision of the slot before. -/
theorem SlotsChange.of_written {snapshot : RecipeCellCacheSnapshot}
    (written : after.findSlot snapshot.cacheKey = some snapshot)
    (others : ∀ cacheKey, cacheKey ≠ snapshot.cacheKey →
      after.findSlot cacheKey = rows.findSlot cacheKey)
    (next : ∀ slot, rows.findSlot snapshot.cacheKey = some slot →
      guardRecipeCacheChange slot snapshot = true) : SlotsChange rows after := by
  intro cacheKey slot located
  by_cases here : cacheKey = snapshot.cacheKey
  · subst here
    exact ⟨snapshot, written, .inr (next slot located)⟩
  · exact ⟨slot, (others cacheKey here).trans located, .inl rfl⟩

private theorem ClaimedSlot.next_revision {input : ExactRecipeCellInput}
    {cellResultId : CellResultId}
    {now : Instant} {snapshot slot : RecipeCellCacheSnapshot}
    (claimed : ClaimedSlot rows input cellResultId now snapshot)
    (located : rows.findSlot input.cacheKey = some slot) :
    guardRecipeCacheChange slot snapshot = true := by
  cases claimed with
  | first unclaimed =>
      rw [unclaimed] at located
      cases located
  | next current found =>
      obtain rfl := Option.some.inj (found.symm.trans located)
      simp [guardRecipeCacheChange]

private theorem RecipeCellMove.slotsChange (move : RecipeCellMove canonical rows after) :
    SlotsChange rows after := by
  cases move with
  | unchanged => exact fun _ slot located => ⟨slot, located, .inl rfl⟩
  | pinned _ _ added => exact fun _ slot located => ⟨slot, added.findSlot ▸ located, .inl rfl⟩
  | stored _ _ _ stored =>
      refine .of_written stored.slot stored.others fun slot located => ?_
      exact stored.claimed.next_revision (stored.claimed.cacheKey ▸ located)
  | started => exact fun _ slot located => ⟨slot, located, .inl rfl⟩
  | @settled _ row _ _ current _ _ _ found _ written =>
      refine .of_written written.slot written.others fun slot located => ?_
      have currentKey : current.cacheKey = row.cacheKey := findSlot_cacheKey found
      have same : rows.findSlot row.cacheKey = some slot := currentKey ▸ located
      obtain rfl := Option.some.inj (found.symm.trans same)
      simp [guardRecipeCacheChange]

/-- What stays of the rows: bindings, settled results, and a slot until its next revision. -/
structure RowsPreserved (rows after : RecipeCellRows) : Prop where
  bindings : rows.applicationCells <+: after.applicationCells
  results : RowsEvolve rows after
  slots : ∀ cacheKey slot, rows.findSlot cacheKey = some slot →
    ∃ later, after.findSlot cacheKey = some later ∧ SlotEvolves slot later

theorem RowsPreserved.refl (rows : RecipeCellRows) : RowsPreserved rows rows :=
  ⟨List.prefix_rfl, .refl rows, fun _ slot located => ⟨slot, located, .inl rfl⟩⟩

theorem RowsPreserved.trans {first middle last : RecipeCellRows}
    (earlier : RowsPreserved first middle) (later : RowsPreserved middle last) :
    RowsPreserved first last where
  bindings := earlier.bindings.trans later.bindings
  results := by
    intro cellResultId row found
    obtain ⟨next, nextFound, evolves⟩ := earlier.results cellResultId row found
    obtain ⟨final, finalFound, again⟩ := later.results cellResultId next nextFound
    exact ⟨final, finalFound, evolves.trans again⟩
  slots := by
    intro cacheKey slot located
    obtain ⟨next, nextLocated, evolves⟩ := earlier.slots cacheKey slot located
    obtain ⟨final, finalLocated, again⟩ := later.slots cacheKey next nextLocated
    exact ⟨final, finalLocated, evolves.trans again⟩

/-- A move only appends bindings. -/
theorem RecipeCellMove.bindings (move : RecipeCellMove canonical rows after) :
    rows.applicationCells <+: after.applicationCells := by
  cases move with
  | unchanged => exact List.prefix_rfl
  | pinned _ _ added => exact added.kept
  | stored _ _ _ stored => exact stored.kept
  | started => exact List.prefix_rfl
  | settled _ _ _ _ _ written => exact written.bindings ▸ List.prefix_rfl

/-- What a move leaves as it was. -/
theorem RecipeCellMove.preserves (keyed : CellsAreKeyed canonical rows)
    (move : RecipeCellMove canonical rows after) : RowsPreserved rows after where
  bindings := move.bindings
  results := move.rowsEvolve keyed
  slots := by
    intro cacheKey slot located
    obtain ⟨later, laterLocated, change⟩ := move.slotsChange cacheKey slot located
    exact ⟨later, laterLocated, change.elim .inl SlotEvolves.of_guard⟩

end Kurobara.Persistence
