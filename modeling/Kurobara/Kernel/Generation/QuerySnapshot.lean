import Kurobara.Foundation.ByteLength
import Kurobara.Foundation.JsHeap
import Kurobara.Foundation.JsonMeasure
import Kurobara.Kernel.Generation.Query

/-! # Snapshots of generation queries

`snapshotDatasetGenerationQuery` over values of the runtime, whose objects may be shared, cyclic,
sparse or strange. While it copies a value it reserves one node for each value and the bytes of
its JSON text, and it never calls the serializer on the whole.
-/

namespace Kurobara.Kernel

open Foundation

namespace QuerySnapshot

variable {Ref : Type} [DecidableEq Ref]

private def unsafeKeys : List JsString :=
  [ascii "__proto__", ascii "constructor", ascii "prototype"]

/-- A non-empty key that no object inherits, of at most 255 code points. -/
def keyIsAdmitted (key : JsString) : Bool :=
  key.length != 0 && !unsafeKeys.contains key && decide (codePointCount key ≤ queryMaxKeyCodePoints)

/-- How the value below an array or an object is read. -/
abbrev SnapshotStep (Ref : Type) :=
  JsValue Ref → QuerySnapshotState → Option (JsonValue × QuerySnapshotState)

/-- The loop over the indices of an array. -/
def snapshotEntries (snapshotValue : SnapshotStep Ref) (array : JsObject Ref) :
    List ℕ → QuerySnapshotState → Option (List JsonValue × QuerySnapshotState)
  | [], state => some ([], state)
  | index :: rest, state =>
      match array.getOwnPropertyDescriptor (decimalDigits index) with
      | some (.data value true) => do
          let (entry, state) ← snapshotValue value state
          let (entries, state) ← snapshotEntries snapshotValue array rest state
          some (entry :: entries, state)
      | _ => none

/-- The array branch of `snapshotQueryValue`. -/
def snapshotQueryArray (snapshotValue : SnapshotStep Ref) (parents : List Ref) (ref : Ref)
    (array : JsObject Ref) (state : QuerySnapshotState) :
    Option (JsonValue × QuerySnapshotState) :=
  if array.prototype ≠ .arrayPrototype ∨ 0 < array.symbols ∨ queryMaxEntries < array.length ∨
      array.getOwnPropertyNames.length ≠ array.length + 1 then none
  else do
    let state ← reserveQueryBytes state (2 + (array.length - 1))
    if ref ∈ parents then none
    else
      let (entries, state) ← snapshotEntries snapshotValue array (List.range array.length) state
      some (.array entries, state)

/-- A plain object without symbol keys that is none of its own ancestors. -/
def queryObjectIsSupported (parents : List Ref) (ref : Ref) (object : JsObject Ref) : Bool :=
  (object.prototype == .objectPrototype || object.prototype == .null) && object.symbols == 0 &&
    !decide (ref ∈ parents)

/-- The loop over the names of an object's properties. -/
def snapshotProperties (snapshotValue : SnapshotStep Ref) (object : JsObject Ref) :
    List JsString → QuerySnapshotState → Option (List (JsString × JsonValue) × QuerySnapshotState)
  | [], state => some ([], state)
  | key :: rest, state =>
      match object.getOwnPropertyDescriptor key with
      | some (.data value true) =>
          if keyIsAdmitted key then do
            let state ← reserveQueryBytes state (byteLength (quoted key))
            let state ← reserveQueryBytes state 1
            let (entry, state) ← snapshotValue value state
            let (properties, state) ← snapshotProperties snapshotValue object rest state
            some ((key, entry) :: properties, state)
          else none
      | _ => none

/-- The object branch of `snapshotQueryValue`. -/
def snapshotQueryObject (snapshotValue : SnapshotStep Ref) (parents : List Ref) (ref : Ref)
    (object : JsObject Ref) (state : QuerySnapshotState) :
    Option (JsonValue × QuerySnapshotState) :=
  if !queryObjectIsSupported parents ref object then none
  else if queryMaxEntries < object.getOwnPropertyNames.length then none
  else do
    let state ← reserveQueryBytes state (2 + (object.getOwnPropertyNames.length - 1))
    let (properties, state) ←
      snapshotProperties snapshotValue object object.getOwnPropertyNames state
    some (.object properties, state)

/-- A node within the depth, and within the number of nodes. -/
def queryNodeIsAvailable (state : QuerySnapshotState) : Option QuerySnapshotState :=
  if state.nodes + 1 ≤ queryMaxNodes then some { state with nodes := state.nodes + 1 } else none

/-- A value with the levels that are left for it; without any it lies too deep. -/
def snapshotQueryValue (heap : JsHeap Ref) : ℕ → List Ref → SnapshotStep Ref
  | 0, _, _, _ => none
  | levels + 1, parents, value, state => do
      let state ← queryNodeIsAvailable state
      match value with
      | .null => (reserveQueryBytes state 4).map fun state => (.null, state)
      | .boolean value =>
          (reserveQueryBytes state (if value then 4 else 5)).map fun state =>
            (.boolean value, state)
      | .number (.finite value) =>
          (reserveQueryBytes state (byteLength value.text)).map fun state =>
            (.number (.finite value), state)
      | .string value =>
          if codePointCount value ≤ queryMaxStringCodePoints then
            (reserveQueryBytes state (byteLength (quoted value))).map fun state =>
              (.string value, state)
          else none
      | .object ref =>
          if (heap ref).isArray then
            snapshotQueryArray (snapshotQueryValue heap levels (ref :: parents)) parents ref
              (heap ref) state
          else
            snapshotQueryObject (snapshotQueryValue heap levels (ref :: parents)) parents ref
              (heap ref) state
      | _ => none

structure DatasetGenerationQueryFailure where
  code : String
  message : String
  deriving DecidableEq, Repr

def snapshotDatasetGenerationQuery (heap : JsHeap Ref) (value : JsValue Ref) :
    Except DatasetGenerationQueryFailure JsonValue :=
  match snapshotQueryValue heap (queryMaxDepth + 1) [] value ⟨0, 0⟩ with
  | none => .error ⟨"query-invalid", "The generation query must be bounded inert JSON."⟩
  | some (snapshot, _) => .ok snapshot

end QuerySnapshot

/-- Whether the query of a request is copied. -/
def queryIsBounded (query : DatasetGenerationQueryValue) : Bool :=
  (QuerySnapshot.snapshotDatasetGenerationQuery (plainHeap query.toJson)
    (plainValue [] query.toJson)).toBool

namespace QuerySnapshot

variable {Ref : Type} [DecidableEq Ref]

/-! ## The limits -/

mutual

/-- Bounded strings, and containers with few entries under admitted keys. -/
def isAdmitted : JsonValue → Bool
  | .null | .boolean _ | .number _ => true
  | .string value => decide (codePointCount value ≤ queryMaxStringCodePoints)
  | .array entries => decide (entries.length ≤ queryMaxEntries) && entriesAreAdmitted entries
  | .object properties =>
      decide (properties.length ≤ queryMaxEntries) && propertiesAreAdmitted properties

def entriesAreAdmitted : List JsonValue → Bool
  | [] => true
  | entry :: rest => isAdmitted entry && entriesAreAdmitted rest

def propertiesAreAdmitted : List (JsString × JsonValue) → Bool
  | [] => true
  | (key, value) :: rest => keyIsAdmitted key && isAdmitted value && propertiesAreAdmitted rest

end

/-- The limits that an accepted query is within. -/
structure WithinQueryLimits (snapshot : JsonValue) : Prop where
  admitted : isAdmitted snapshot = true
  depth : levels snapshot ≤ queryMaxDepth + 1
  nodes : nodeCount snapshot ≤ queryMaxNodes
  bytes : byteLength (stringify snapshot) ≤ queryMaxBytes

/-! ## What a copy reserves -/

/-- The state after so many more bytes and nodes. -/
def reserved (state : QuerySnapshotState) (bytes nodes : ℕ) : QuerySnapshotState :=
  ⟨state.bytes + bytes, state.nodes + nodes⟩

def Fits (state : QuerySnapshotState) : Prop :=
  state.bytes ≤ queryMaxBytes ∧ state.nodes ≤ queryMaxNodes

private theorem reserveQueryBytes_iff {state next : QuerySnapshotState} {bytes : ℕ} :
    reserveQueryBytes state bytes = some next ↔
      state.bytes + bytes ≤ queryMaxBytes ∧ next = reserved state bytes 0 := by
  unfold reserveQueryBytes reserved
  split_ifs with exceeds
  · simp only [false_iff, not_and]
    omega
  · rw [Option.some.injEq, Nat.add_zero]
    constructor
    · rintro rfl
      exact ⟨by omega, rfl⟩
    · rintro ⟨_, rfl⟩
      rfl

private theorem queryNodeIsAvailable_iff {state next : QuerySnapshotState} :
    queryNodeIsAvailable state = some next ↔
      state.nodes + 1 ≤ queryMaxNodes ∧ next = reserved state 0 1 := by
  unfold queryNodeIsAvailable reserved
  split_ifs with available
  · rw [Option.some.injEq]
    constructor
    · rintro rfl
      exact ⟨available, rfl⟩
    · rintro ⟨_, rfl⟩
      rfl
  · simp only [false_iff, not_and]
    omega

@[simp] theorem reserved_reserved (state : QuerySnapshotState) (bytes more nodes further : ℕ) :
    reserved (reserved state bytes nodes) more further =
      reserved state (bytes + more) (nodes + further) := by
  unfold reserved
  simp only [Nat.add_assoc]

/-- **What copying a value means**, at a state that fits: it unfolds to the copy, and exactly the
bytes of its text and its nodes are reserved. -/
structure Copies (heap : JsHeap Ref) (most : ℕ) (value : JsValue Ref) (state : QuerySnapshotState)
    (snapshot : JsonValue) (next : QuerySnapshotState) : Prop where
  inert : Inert heap value snapshot
  admitted : isAdmitted snapshot = true
  depth : levels snapshot ≤ most
  reservation : next = reserved state (jsonBytes snapshot) (nodeCount snapshot)
  fits : Fits next

/-- A step copies soundly. -/
def IsSound (heap : JsHeap Ref) (most : ℕ) (snapshotValue : SnapshotStep Ref) : Prop :=
  ∀ value state snapshot next, Fits state →
    snapshotValue value state = some (snapshot, next) → Copies heap most value state snapshot next

/-! ## Copies are sound -/

section

variable {heap : JsHeap Ref} {most : ℕ} {snapshotValue : SnapshotStep Ref}

omit [DecidableEq Ref] in
private theorem snapshotEntries_sound (sound : IsSound heap most snapshotValue)
    {array : JsObject Ref}
    {indices : List ℕ} {state next : QuerySnapshotState} {entries : List JsonValue}
    (fits : Fits state)
    (copied : snapshotEntries snapshotValue array indices state = some (entries, next)) :
    (∃ values, List.Forall₂ (fun index value => array.getOwnPropertyDescriptor
        (decimalDigits index) = some (.data value true)) indices values ∧
      List.Forall₂ (Inert heap) values entries) ∧
      entriesAreAdmitted entries = true ∧ levelsOfEntries entries ≤ most ∧
      next = reserved state (jsonBytesEntries entries) (nodeCountEntries entries) ∧ Fits next := by
  induction indices generalizing state entries with
  | nil =>
      cases copied
      exact ⟨⟨[], .nil, .nil⟩, rfl, Nat.zero_le _, rfl, fits⟩
  | cons index rest ih =>
      rw [snapshotEntries] at copied
      split at copied
      · rename_i value found
        obtain ⟨⟨entry, middle⟩, here, copied⟩ := Option.bind_eq_some_iff.mp copied
        obtain ⟨⟨others, last⟩, later, copied⟩ := Option.bind_eq_some_iff.mp copied
        cases copied
        have one := sound _ _ _ _ fits here
        obtain ⟨⟨values, own, each⟩, admitted, depth, reservation, fitting⟩ := ih one.fits later
        refine ⟨⟨value :: values, .cons found own, .cons one.inert each⟩, ?_, ?_, ?_, fitting⟩
        · rw [entriesAreAdmitted, one.admitted, admitted]
          rfl
        · exact max_le one.depth depth
        · rw [reservation, one.reservation, reserved_reserved, jsonBytesEntries, nodeCountEntries]
      · cases copied

omit [DecidableEq Ref] in
private theorem snapshotProperties_sound (sound : IsSound heap most snapshotValue)
    {object : JsObject Ref} {names : List JsString} {state next : QuerySnapshotState}
    {properties : List (JsString × JsonValue)} (fits : Fits state)
    (copied : snapshotProperties snapshotValue object names state = some (properties, next)) :
    (∃ values : List (JsString × JsValue Ref), List.Forall₂ (fun key value => key = value.1 ∧
        object.getOwnPropertyDescriptor key = some (.data value.2 true)) names values ∧
      List.Forall₂ (fun value property => property.1 = value.1 ∧
        Inert heap value.2 property.2) values properties) ∧
      propertiesAreAdmitted properties = true ∧ levelsOfProperties properties ≤ most ∧
      next = reserved state (jsonBytesProperties properties) (nodeCountProperties properties) ∧
      Fits next := by
  induction names generalizing state properties with
  | nil =>
      cases copied
      exact ⟨⟨[], .nil, .nil⟩, rfl, Nat.zero_le _, rfl, fits⟩
  | cons key rest ih =>
      rw [snapshotProperties] at copied
      split at copied
      · rename_i value found
        split_ifs at copied with keyed
        obtain ⟨named, name, copied⟩ := Option.bind_eq_some_iff.mp copied
        obtain ⟨separated, colon, copied⟩ := Option.bind_eq_some_iff.mp copied
        obtain ⟨⟨entry, middle⟩, here, copied⟩ := Option.bind_eq_some_iff.mp copied
        obtain ⟨⟨others, last⟩, later, copied⟩ := Option.bind_eq_some_iff.mp copied
        cases copied
        obtain ⟨_, rfl⟩ := reserveQueryBytes_iff.mp name
        obtain ⟨room, rfl⟩ := reserveQueryBytes_iff.mp colon
        have roomy : Fits (reserved (reserved state (byteLength (quoted key)) 0) 1 0) :=
          ⟨room, fits.2⟩
        have one := sound _ _ _ _ roomy here
        obtain ⟨⟨values, own, each⟩, admitted, depth, reservation, fitting⟩ := ih one.fits later
        refine ⟨⟨(key, value) :: values, .cons ⟨rfl, found⟩ own, .cons ⟨rfl, one.inert⟩ each⟩,
          ?_, ?_, ?_, fitting⟩
        · rw [propertiesAreAdmitted, keyed, one.admitted, admitted]
          rfl
        · exact max_le one.depth depth
        · rw [reservation, one.reservation, jsonBytesProperties, nodeCountProperties]
          simp only [reserved_reserved, Nat.zero_add, Nat.add_assoc]
      · cases copied

end

omit [DecidableEq Ref] in
private theorem reservedOnce_sound {heap : JsHeap Ref} {most bytes : ℕ} {value : JsValue Ref}
    {snapshot copied : JsonValue} {state next : QuerySnapshotState}
    (inert : Inert heap value snapshot) (admitted : isAdmitted snapshot = true)
    (single : nodeCount snapshot = 1) (shallow : levels snapshot = 1)
    (size : jsonBytes snapshot = bytes) (room : state.nodes + 1 ≤ queryMaxNodes)
    (reserving : (reserveQueryBytes (reserved state 0 1) bytes).map
      (fun state => (snapshot, state)) =
      some (copied, next)) : Copies heap (most + 1) value state copied next := by
  obtain ⟨after, taken, same⟩ := Option.map_eq_some_iff.mp reserving
  cases same
  obtain ⟨fits, rfl⟩ := reserveQueryBytes_iff.mp taken
  refine ⟨inert, admitted, by omega, ?_, fits, room⟩
  rw [reserved_reserved, size, single, Nat.zero_add]

private theorem snapshotQueryValue_sound (heap : JsHeap Ref) (most : ℕ) (parents : List Ref) :
    IsSound heap most (snapshotQueryValue heap most parents) := by
  induction most generalizing parents with
  | zero =>
      intro value state snapshot next _ copied
      cases copied
  | succ most ih =>
      intro value state snapshot next fits copied
      rw [snapshotQueryValue] at copied
      obtain ⟨opened, available, copied⟩ := Option.bind_eq_some_iff.mp copied
      obtain ⟨room, rfl⟩ := queryNodeIsAvailable_iff.mp available
      have roomy : Fits (reserved state 0 1) := ⟨fits.1, room⟩
      cases value with
      | undefined => cases copied
      | null => exact reservedOnce_sound .null rfl rfl rfl rfl room copied
      | boolean value => exact reservedOnce_sound (.boolean value) rfl rfl rfl rfl room copied
      | number value =>
          cases value with
          | finite value => exact reservedOnce_sound (.number value) rfl rfl rfl rfl room copied
          | infinite negative => cases copied
          | nan => cases copied
      | string value =>
          dsimp only at copied
          split_ifs at copied with short
          exact reservedOnce_sound (.string value) (decide_eq_true short) rfl rfl rfl room copied
      | other => cases copied
      | object ref =>
          dsimp only at copied
          cases isArray : (heap ref).isArray with
          | true =>
              rw [isArray, if_pos rfl, snapshotQueryArray] at copied
              split_ifs at copied with refused repeated
              · obtain ⟨_, _, copied⟩ := Option.bind_eq_some_iff.mp copied
                cases copied
              simp only [not_or, not_lt, Decidable.not_not] at refused
              obtain ⟨plain, named, few, names⟩ := refused
              obtain ⟨bracketed, brackets, copied⟩ := Option.bind_eq_some_iff.mp copied
              obtain ⟨within, rfl⟩ := reserveQueryBytes_iff.mp brackets
              obtain ⟨⟨entries, last⟩, inside, copied⟩ := Option.bind_eq_some_iff.mp copied
              cases copied
              have fitting : Fits (reserved (reserved state 0 1) (2 + ((heap ref).length - 1)) 0) :=
                ⟨within, room⟩
              obtain ⟨⟨values, own, each⟩, admitted, depth, reservation, ends⟩ :=
                snapshotEntries_sound (ih (ref :: parents)) fitting inside
              have count : (heap ref).properties.length = (heap ref).length := by
                rw [JsObject.getOwnPropertyNames, isArray, if_pos rfl, List.length_append,
                  List.length_map, List.length_singleton] at names
                omega
              have inert := Inert.ofEntries isArray plain (Nat.le_zero.mp named) count own each
              have size := inert.entries.2.2.2.2.1
              refine ⟨inert, ?_, Nat.succ_le_succ depth, ?_, ends⟩
              · rw [isAdmitted, admitted, Bool.and_true, decide_eq_true_eq, size]
                exact few
              · rw [reservation, jsonBytes, nodeCount, size]
                simp only [reserved_reserved, Nat.zero_add, Nat.add_comm 1]
          | false =>
              rw [isArray, if_neg Bool.false_ne_true, snapshotQueryObject] at copied
              split_ifs at copied with refused many
              rw [Bool.not_eq_true, Bool.not_eq_false', queryObjectIsSupported, Bool.and_eq_true,
                Bool.and_eq_true, Bool.or_eq_true, beq_iff_eq, beq_iff_eq, beq_iff_eq] at refused
              obtain ⟨⟨plain, named⟩, _⟩ := refused
              have names : (heap ref).getOwnPropertyNames = (heap ref).properties.map Prod.fst := by
                rw [JsObject.getOwnPropertyNames, isArray, if_neg Bool.false_ne_true,
                  List.append_nil]
              rw [names] at many copied
              rw [List.length_map] at many copied
              obtain ⟨braced, braces, copied⟩ := Option.bind_eq_some_iff.mp copied
              obtain ⟨within, rfl⟩ := reserveQueryBytes_iff.mp braces
              obtain ⟨⟨properties, last⟩, inside, copied⟩ := Option.bind_eq_some_iff.mp copied
              cases copied
              have fitting : Fits (reserved (reserved state 0 1)
                  (2 + ((heap ref).properties.length - 1)) 0) := ⟨within, room⟩
              obtain ⟨⟨values, own, each⟩, admitted, depth, reservation, ends⟩ :=
                snapshotProperties_sound (ih (ref :: parents)) fitting inside
              have inert := Inert.ofProperties isArray plain named own each
              have size := inert.properties.2.2.2.1
              refine ⟨inert, ?_, Nat.succ_le_succ depth, ?_, ends⟩
              · rw [isAdmitted, admitted, Bool.and_true, decide_eq_true_eq, size]
                omega
              · rw [reservation, jsonBytes, nodeCount, size]
                simp only [reserved_reserved, Nat.zero_add, Nat.add_comm 1]

/-! ## Copies are complete -/

/-- A step copies every value that unfolds within the limits to fewer nodes than the bound. -/
def IsComplete (heap : JsHeap Ref) (most bound : ℕ) (snapshotValue : SnapshotStep Ref) : Prop :=
  ∀ value state snapshot, Inert heap value snapshot → isAdmitted snapshot = true →
    levels snapshot ≤ most → nodeCount snapshot < bound →
    Fits (reserved state (jsonBytes snapshot) (nodeCount snapshot)) →
    snapshotValue value state =
      some (snapshot, reserved state (jsonBytes snapshot) (nodeCount snapshot))

theorem Fits.before {state : QuerySnapshotState} {bytes more nodes further : ℕ}
    (fits : Fits (reserved state (bytes + more) (nodes + further))) :
    Fits (reserved state bytes nodes) := by
  unfold Fits reserved at fits ⊢
  dsimp only at fits ⊢
  omega

section

variable {heap : JsHeap Ref} {most bound : ℕ} {snapshotValue : SnapshotStep Ref}

omit [DecidableEq Ref] in
private theorem snapshotEntries_complete (complete : IsComplete heap most bound snapshotValue)
    {array : JsObject Ref} {indices : List ℕ} {values : List (JsValue Ref)}
    {entries : List JsonValue} (own : List.Forall₂ (fun index value =>
      array.getOwnPropertyDescriptor (decimalDigits index) = some (.data value true))
      indices values)
    (each : List.Forall₂ (Inert heap) values entries) (admitted : entriesAreAdmitted entries = true)
    (depth : levelsOfEntries entries ≤ most) (smaller : nodeCountEntries entries < bound)
    {state : QuerySnapshotState}
    (fits : Fits (reserved state (jsonBytesEntries entries) (nodeCountEntries entries))) :
    snapshotEntries snapshotValue array indices state =
      some (entries, reserved state (jsonBytesEntries entries) (nodeCountEntries entries)) := by
  induction own generalizing entries state with
  | nil => cases each; rfl
  | @cons index value indices values found _ ih =>
      cases each with
      | @cons _ entry _ entries inert others =>
          rw [entriesAreAdmitted, Bool.and_eq_true] at admitted
          rw [levelsOfEntries, max_le_iff] at depth
          rw [nodeCountEntries] at smaller
          rw [jsonBytesEntries, nodeCountEntries] at fits ⊢
          rw [← reserved_reserved] at fits ⊢
          have here := complete value state entry inert admitted.1 depth.1 (by omega)
            (by rw [reserved_reserved] at fits; exact fits.before)
          have later := ih others admitted.2 depth.2 (by omega) fits
          rw [snapshotEntries, found]
          dsimp only
          rw [here, Option.bind_eq_bind, Option.bind_some]
          dsimp only
          rw [later]
          rfl

omit [DecidableEq Ref] in
private theorem snapshotProperties_complete (complete : IsComplete heap most bound snapshotValue)
    {object : JsObject Ref} {names : List JsString} {values : List (JsString × JsValue Ref)}
    {properties : List (JsString × JsonValue)}
    (own : List.Forall₂ (fun key value => key = value.1 ∧
      object.getOwnPropertyDescriptor key = some (.data value.2 true)) names values)
    (each : List.Forall₂ (fun value property => property.1 = value.1 ∧
      Inert heap value.2 property.2) values properties)
    (admitted : propertiesAreAdmitted properties = true)
    (depth : levelsOfProperties properties ≤ most)
    (smaller : nodeCountProperties properties < bound) {state : QuerySnapshotState}
    (fits : Fits (reserved state (jsonBytesProperties properties)
      (nodeCountProperties properties))) :
    snapshotProperties snapshotValue object names state =
      some (properties, reserved state (jsonBytesProperties properties)
        (nodeCountProperties properties)) := by
  induction own generalizing properties state with
  | nil => cases each; rfl
  | @cons key value names values found _ ih =>
      cases each with
      | @cons _ property _ properties inert others =>
          obtain ⟨name, entry⟩ := property
          obtain ⟨stored, content⟩ := value
          obtain ⟨rfl, found⟩ := found
          obtain ⟨same, inert⟩ := inert
          dsimp only at found same inert
          subst same
          rw [propertiesAreAdmitted, Bool.and_eq_true, Bool.and_eq_true] at admitted
          rw [levelsOfProperties, max_le_iff] at depth
          rw [nodeCountProperties] at smaller
          have named : Fits (reserved state (byteLength (quoted name) + 1) 0) := by
            rw [jsonBytesProperties, nodeCountProperties, Nat.add_assoc _ (jsonBytes entry),
              ← Nat.zero_add (nodeCount entry + _)] at fits
            exact fits.before
          have split : reserved state (jsonBytesProperties ((name, entry) :: properties))
              (nodeCountProperties ((name, entry) :: properties)) =
              reserved (reserved (reserved (reserved state (byteLength (quoted name)) 0) 1 0)
                (jsonBytes entry) (nodeCount entry)) (jsonBytesProperties properties)
                (nodeCountProperties properties) := by
            rw [jsonBytesProperties, nodeCountProperties]
            simp only [reserved_reserved, Nat.zero_add]
          rw [split] at fits ⊢
          have here := complete content (reserved (reserved state (byteLength (quoted name)) 0) 1 0)
            entry inert admitted.1.2 depth.1 (by omega)
            (by rw [reserved_reserved] at fits; exact fits.before)
          have later := ih others admitted.2 depth.2 (by omega) fits
          have room : (reserved state (byteLength (quoted name)) 0).bytes + 1 ≤ queryMaxBytes :=
            named.1
          rw [snapshotProperties, found]
          dsimp only
          rw [if_pos admitted.1.1, reserveQueryBytes_iff.mpr ⟨Nat.le_of_succ_le room, rfl⟩,
            Option.bind_eq_bind, Option.bind_some, reserveQueryBytes_iff.mpr ⟨room, rfl⟩,
            Option.bind_some, here, Option.bind_eq_bind, Option.bind_some]
          dsimp only
          rw [later]
          rfl

end

omit [DecidableEq Ref] in
private theorem reservedOnce_complete {snapshot : JsonValue} {state : QuerySnapshotState}
    {bytes : ℕ}
    (size : jsonBytes snapshot = bytes) (single : nodeCount snapshot = 1)
    (fits : Fits (reserved state (jsonBytes snapshot) (nodeCount snapshot))) :
    (reserveQueryBytes (reserved state 0 1) bytes).map (fun state => (snapshot, state)) =
      some (snapshot, reserved state (jsonBytes snapshot) (nodeCount snapshot)) := by
  have room : (reserved state 0 1).bytes + bytes ≤ queryMaxBytes := size ▸ fits.1
  rw [reserveQueryBytes_iff.mpr ⟨room, rfl⟩, Option.map_some, reserved_reserved, size, single,
    Nat.zero_add]

/-- No value is refused for its parents: none of them is reached from itself. -/
theorem snapshotQueryValue_complete (heap : JsHeap Ref) (most : ℕ) {parents : List Ref}
    {bound : ℕ} (outer : ∀ parent ∈ parents, ∃ snapshot, Inert heap (.object parent) snapshot ∧
      bound ≤ nodeCount snapshot) :
    IsComplete heap most bound (snapshotQueryValue heap most parents) := by
  induction most generalizing parents bound with
  | zero =>
      intro value state snapshot _ _ depth _ _
      cases snapshot <;> cases depth
  | succ most ih =>
      intro value state snapshot inert admitted depth smaller fits
      have fresh : ∀ ref, value = .object ref → ref ∉ parents := by
        rintro ref rfl member
        obtain ⟨other, whole, least⟩ := outer ref member
        rw [whole.unique inert] at least
        omega
      have inner : ∀ ref, value = .object ref → ∀ parent ∈ ref :: parents, ∃ other,
          Inert heap (.object parent) other ∧ nodeCount snapshot ≤ nodeCount other := by
        rintro ref rfl parent member
        rcases List.mem_cons.mp member with rfl | member
        · exact ⟨snapshot, inert, le_rfl⟩
        · obtain ⟨other, whole, least⟩ := outer parent member
          exact ⟨other, whole, by omega⟩
      have room : state.nodes + 1 ≤ queryMaxNodes := by
        have nodes := fits.2
        unfold reserved at nodes
        dsimp only at nodes
        cases snapshot <;> simp only [nodeCount] at nodes <;> omega
      rw [snapshotQueryValue, queryNodeIsAvailable_iff.mpr ⟨room, rfl⟩, Option.bind_eq_bind,
        Option.bind_some]
      cases inert with
      | null => exact reservedOnce_complete rfl rfl fits
      | boolean value => exact reservedOnce_complete rfl rfl fits
      | number value => exact reservedOnce_complete rfl rfl fits
      | string value =>
          dsimp only
          rw [if_pos (of_decide_eq_true admitted)]
          exact reservedOnce_complete rfl rfl fits
      | array ref values entries isArray plain named count length lengths own each =>
          have whole : Inert heap (.object ref) (.array entries) :=
            .array ref values entries isArray plain named count length lengths own each
          obtain ⟨_, _, _, _, size, values, own, each⟩ := whole.entries
          rw [isAdmitted, Bool.and_eq_true, decide_eq_true_eq, size] at admitted
          rw [nodeCount] at fits inner
          have split : reserved state (jsonBytes (.array entries)) (nodeCountEntries entries + 1) =
              reserved (reserved (reserved state 0 1) (2 + ((heap ref).length - 1)) 0)
                (jsonBytesEntries entries) (nodeCountEntries entries) := by
            rw [jsonBytes, size]
            simp only [reserved_reserved, Nat.zero_add, Nat.add_comm 1]
          rw [nodeCount, split]
          rw [split] at fits
          have bracketed : (reserved state 0 1).bytes + (2 + ((heap ref).length - 1)) ≤
              queryMaxBytes := le_trans (Nat.le_add_right _ _) fits.1
          have inside := snapshotEntries_complete (ih (inner ref rfl)) own each admitted.2
            (Nat.le_of_succ_le_succ depth) (Nat.lt_succ_self _) fits
          have accepted : ¬((heap ref).prototype ≠ .arrayPrototype ∨ 0 < (heap ref).symbols ∨
              queryMaxEntries < (heap ref).length ∨
              (heap ref).getOwnPropertyNames.length ≠ (heap ref).length + 1) := by
            rw [JsObject.getOwnPropertyNames, isArray, if_pos rfl, List.length_append,
              List.length_map, List.length_singleton, plain, named, count]
            simp only [ne_eq, not_true_eq_false, Nat.lt_irrefl, false_or, or_false, not_lt]
            exact admitted.1
          dsimp only
          rw [isArray, if_pos rfl, snapshotQueryArray, if_neg accepted,
            reserveQueryBytes_iff.mpr ⟨bracketed, rfl⟩, Option.bind_eq_bind, Option.bind_some,
            if_neg (fresh ref rfl), inside]
          rfl
      | object ref values properties isObject plain named own keys each =>
          have whole : Inert heap (.object ref) (.object properties) :=
            .object ref values properties isObject plain named own keys each
          obtain ⟨_, _, _, size, values, own, each⟩ := whole.properties
          rw [isAdmitted, Bool.and_eq_true, decide_eq_true_eq, size] at admitted
          rw [nodeCount] at fits inner
          have split : reserved state (jsonBytes (.object properties))
              (nodeCountProperties properties + 1) =
              reserved (reserved (reserved state 0 1) (2 + ((heap ref).properties.length - 1)) 0)
                (jsonBytesProperties properties) (nodeCountProperties properties) := by
            rw [jsonBytes, size]
            simp only [reserved_reserved, Nat.zero_add, Nat.add_comm 1]
          rw [nodeCount, split]
          rw [split] at fits
          have braced : (reserved state 0 1).bytes + (2 + ((heap ref).properties.length - 1)) ≤
              queryMaxBytes := le_trans (Nat.le_add_right _ _) fits.1
          have inside := snapshotProperties_complete (ih (inner ref rfl)) own each admitted.2
            (Nat.le_of_succ_le_succ depth) (Nat.lt_succ_self _) fits
          have supported : queryObjectIsSupported parents ref (heap ref) = true := by
            rw [queryObjectIsSupported, Bool.and_eq_true, Bool.and_eq_true, Bool.or_eq_true,
              beq_iff_eq, beq_iff_eq, beq_iff_eq, Bool.not_eq_true', decide_eq_false_iff_not]
            exact ⟨⟨plain, named⟩, fresh ref rfl⟩
          have names : (heap ref).getOwnPropertyNames = (heap ref).properties.map Prod.fst := by
            rw [JsObject.getOwnPropertyNames, isObject, if_neg Bool.false_ne_true, List.append_nil]
          dsimp only
          rw [isObject, if_neg Bool.false_ne_true, snapshotQueryObject, supported, Bool.not_true,
            if_neg Bool.false_ne_true, names, List.length_map, if_neg (by omega),
            reserveQueryBytes_iff.mpr ⟨braced, rfl⟩, Option.bind_eq_bind, Option.bind_some, inside]
          rfl

/-! ## Snapshots -/

private theorem snapshotDatasetGenerationQuery_iff (heap : JsHeap Ref) (value : JsValue Ref)
    (snapshot : JsonValue) :
    snapshotDatasetGenerationQuery heap value = .ok snapshot ↔
      Inert heap value snapshot ∧ WithinQueryLimits snapshot := by
  unfold snapshotDatasetGenerationQuery
  constructor
  · intro taken
    split at taken
    · cases taken
    · rename_i copied found
      cases taken
      have copies := snapshotQueryValue_sound heap _ [] _ _ _ _ ⟨Nat.zero_le _, Nat.zero_le _⟩ found
      have fits := copies.fits
      rw [copies.reservation] at fits
      refine ⟨copies.inert, copies.admitted, copies.depth, ?_, ?_⟩
      · simpa [reserved] using fits.2
      · rw [byteLength_stringify]
        simpa [reserved] using fits.1
  · rintro ⟨inert, admitted, depth, nodes, bytes⟩
    rw [byteLength_stringify] at bytes
    have copied := snapshotQueryValue_complete heap (queryMaxDepth + 1)
      (List.forall_mem_nil _) value ⟨0, 0⟩ snapshot inert admitted depth
      (Nat.lt_succ_self _) ⟨by simpa [reserved] using bytes, by simpa [reserved] using nodes⟩
    rw [copied]

/-- **Snapshots of queries are exact**: a value is copied exactly when it is inert JSON within the
limits, the copy is what the value unfolds to, the bytes that are counted are those of the copy's
JSON text, and the copy of the copy is the copy. -/
theorem querySnapshots_areExact (heap : JsHeap Ref) (value : JsValue Ref) :
    (∀ snapshot, snapshotDatasetGenerationQuery heap value = .ok snapshot ↔
      Inert heap value snapshot ∧ WithinQueryLimits snapshot) ∧
    (∀ snapshot state, snapshotQueryValue heap (queryMaxDepth + 1) [] value ⟨0, 0⟩ =
      some (snapshot, state) → state.bytes = byteLength (stringify snapshot)) ∧
    ∀ snapshot, snapshotDatasetGenerationQuery heap value = .ok snapshot →
      snapshotDatasetGenerationQuery (plainHeap snapshot) (plainValue [] snapshot) =
        .ok snapshot := by
  refine ⟨snapshotDatasetGenerationQuery_iff heap value, ?_, ?_⟩
  · intro snapshot state copied
    have copies := snapshotQueryValue_sound heap _ [] _ _ _ _ ⟨Nat.zero_le _, Nat.zero_le _⟩ copied
    rw [copies.reservation, byteLength_stringify]
    simp [reserved]
  · intro snapshot taken
    obtain ⟨inert, within⟩ := (snapshotDatasetGenerationQuery_iff heap value snapshot).mp taken
    exact (snapshotDatasetGenerationQuery_iff _ _ snapshot).mpr
      ⟨inert_plainHeap inert.isJson rfl, within⟩

/-- `{"": null}`. -/
def emptyKeyQuery : JsonValue :=
  .object [([], .null)]

/-- An object with an empty key is plain and small, and it is refused. -/
theorem emptyKeyQuery_isRefused :
    Inert (plainHeap emptyKeyQuery) (plainValue [] emptyKeyQuery) emptyKeyQuery ∧
      levels emptyKeyQuery ≤ queryMaxDepth + 1 ∧ nodeCount emptyKeyQuery ≤ queryMaxNodes ∧
      byteLength (stringify emptyKeyQuery) ≤ queryMaxBytes ∧ 1 ≤ queryMaxEntries ∧
      snapshotDatasetGenerationQuery (plainHeap emptyKeyQuery) (plainValue [] emptyKeyQuery) =
        .error ⟨"query-invalid", "The generation query must be bounded inert JSON."⟩ := by
  refine ⟨inert_plainHeap ?_ rfl, by decide, by decide, by decide, by decide, rfl⟩
  refine .object _ (List.nodup_singleton _) fun property member => ?_
  rw [List.mem_singleton.mp member]
  exact .null

end QuerySnapshot

end Kurobara.Kernel
