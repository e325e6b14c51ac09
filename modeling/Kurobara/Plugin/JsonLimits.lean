import Kurobara.Plugin.Json

/-! # The limits of plugin JSON

What the traversal counts is read off the JSON value that a candidate unfolds to. Its minimum of
bytes is below the bytes of the JSON text, so a refusal of an inert value names a limit that the
value exceeds.
-/

namespace Kurobara.Plugin

open Foundation

/-! ## The minimum of bytes -/

mutual

/-- What the traversal reserves for a value. -/
def minimumBytes : JsonValue → ℕ
  | .null => 4
  | .boolean value => if value then 4 else 5
  | .number value => value.jsonText.length
  | .string value => value.length + 2
  | .array entries => 2 + (entries.length - 1) + minimumBytesEntries entries
  | .object properties => 2 + (properties.length - 1) + minimumBytesProperties properties

def minimumBytesEntries : List JsonValue → ℕ
  | [] => 0
  | entry :: rest => minimumBytes entry + minimumBytesEntries rest

def minimumBytesProperties : List (JsString × JsonValue) → ℕ
  | [] => 0
  | (key, value) :: rest => key.length + 3 + minimumBytes value + minimumBytesProperties rest

end

private theorem unitBytes_pos (unit : CodeUnit) : 0 < unitBytes unit := by
  unfold unitBytes
  split_ifs <;> decide

private theorem length_le_byteLength (text : JsString) : text.length ≤ byteLength text := by
  induction text using byteLength.induct with
  | case1 => exact le_rfl
  | case2 unit => exact unitBytes_pos unit
  | case3 high low rest pair ih =>
      rw [byteLength, if_pos pair, List.length_cons, List.length_cons]
      omega
  | case4 high low rest single ih =>
      have positive := unitBytes_pos high
      rw [byteLength, if_neg single, List.length_cons]
      omega

private theorem escapeUnit_length (unit : CodeUnit) : 0 < (escapeUnit unit).length := by
  unfold escapeUnit
  split
  · exact Nat.succ_pos _
  · split_ifs <;> exact Nat.succ_pos _

/-- Escaping shortens no string. -/
theorem length_le_quoteUnits (value : JsString) : value.length ≤ (quoteUnits value).length := by
  induction value using quoteUnits.induct with
  | case1 => exact le_rfl
  | case2 unit => exact escapeUnit_length unit
  | case3 high low rest pair ih =>
      rw [quoteUnits, if_pos pair]
      simp only [List.length_cons]
      omega
  | case4 high low rest single ih =>
      have positive := escapeUnit_length high
      rw [quoteUnits, if_neg single, List.length_append, List.length_cons]
      omega

private theorem length_le_quoted (value : JsString) : value.length + 2 ≤ byteLength
    (quoted value) := by
  have units := length_le_quoteUnits value
  have bytes := length_le_byteLength (quoted value)
  rw [quoted, List.length_cons, List.length_append, List.length_singleton] at bytes
  exact le_trans (by omega) bytes

mutual

/-- **The minimum is below the bytes of the JSON text.** -/
theorem minimumBytes_le : (value : JsonValue) → minimumBytes value ≤ jsonBytes value
  | .null => le_rfl
  | .boolean _ => le_rfl
  | .number value => length_le_byteLength value.jsonText
  | .string value => length_le_quoted value
  | .array entries => Nat.add_le_add_left (minimumBytesEntries_le entries) _
  | .object properties => Nat.add_le_add_left (minimumBytesProperties_le properties) _

private theorem minimumBytesEntries_le : (entries : List JsonValue) →
    minimumBytesEntries entries ≤ jsonBytesEntries entries
  | [] => le_rfl
  | entry :: rest => Nat.add_le_add (minimumBytes_le entry) (minimumBytesEntries_le rest)

private theorem minimumBytesProperties_le : (properties : List (JsString × JsonValue)) →
    minimumBytesProperties properties ≤ jsonBytesProperties properties
  | [] => le_rfl
  | (key, value) :: rest => by
      have quotes := length_le_quoted key
      have inside := minimumBytes_le value
      have later := minimumBytesProperties_le rest
      rw [minimumBytesProperties, jsonBytesProperties]
      omega

end

/-! ## Names -/

/-- No object of the value has a property with an unsafe name. -/
def namesAreSafe (json : JsonValue) : Prop :=
  ∀ names ∈ json.objectKeys, ∀ name ∈ names, unsafePropertyNames.contains name = false

private def entryNamesAreSafe (entries : List JsonValue) : Prop :=
  ∀ names ∈ objectKeysEntries entries, ∀ name ∈ names, unsafePropertyNames.contains name = false

def propertyNamesAreSafe (properties : List (JsString × JsonValue)) : Prop :=
  ∀ names ∈ properties.map Prod.fst :: objectKeysProperties properties, ∀ name ∈ names,
    unsafePropertyNames.contains name = false

private theorem entryNamesAreSafe_cons (entry : JsonValue) (rest : List JsonValue) :
    entryNamesAreSafe (entry :: rest) ↔ namesAreSafe entry ∧ entryNamesAreSafe rest := by
  unfold entryNamesAreSafe namesAreSafe
  rw [objectKeysEntries, List.forall_mem_append]

theorem propertyNamesAreSafe_cons (key : JsString) (value : JsonValue)
    (rest : List (JsString × JsonValue)) : propertyNamesAreSafe ((key, value) :: rest) ↔
      unsafePropertyNames.contains key = false ∧ namesAreSafe value ∧
        propertyNamesAreSafe rest := by
  unfold propertyNamesAreSafe namesAreSafe
  rw [objectKeysProperties, List.map_cons, List.forall_mem_cons, List.forall_mem_cons,
    List.forall_mem_cons, List.forall_mem_append]
  tauto

theorem propertyNamesAreSafe_nil : propertyNamesAreSafe [] := by
  intro names member name inside
  rw [List.mem_singleton.mp member] at inside
  cases inside

/-! ## What a step does with an inert value -/

/-- The measures of a value, or of the parts of one. -/
structure JsonMeasures where
  levels : ℕ
  nodes : ℕ
  minimum : ℕ
  safe : Prop

def measures (json : JsonValue) : JsonMeasures :=
  ⟨levels json, nodeCount json, minimumBytes json, namesAreSafe json⟩

private def entryMeasures (entries : List JsonValue) : JsonMeasures :=
  ⟨levelsOfEntries entries, nodeCountEntries entries, minimumBytesEntries entries,
    entryNamesAreSafe entries⟩

private def propertyMeasures (properties : List (JsString × JsonValue)) : JsonMeasures :=
  ⟨levelsOfProperties properties, nodeCountProperties properties,
    minimumBytesProperties properties, propertyNamesAreSafe properties⟩

/-- The measures of a part and what follows it. -/
def JsonMeasures.plus (part rest : JsonMeasures) : JsonMeasures :=
  ⟨max part.levels rest.levels, part.nodes + rest.nodes, part.minimum + rest.minimum,
    part.safe ∧ rest.safe⟩

private theorem entryMeasures_cons (entry : JsonValue) (rest : List JsonValue) :
    entryMeasures (entry :: rest) = (measures entry).plus (entryMeasures rest) := by
  unfold entryMeasures measures JsonMeasures.plus
  rw [propext (entryNamesAreSafe_cons entry rest)]
  rfl

/-- The limit that a reason names is exceeded, behind a state and with so many levels left. -/
def Exceeds (limits : PluginJsonValidationLimits) (most : ℕ) (state : CloneState)
    (measured : JsonMeasures) : PluginJsonValidationReasonCode → Prop
  | .depthExceeded => most < measured.levels
  | .nodeLimitExceeded => limits.maxNodes < state.nodes + measured.nodes
  | .sizeExceeded => limits.maxUtf8Bytes < state.minimumUtf8Bytes + measured.minimum
  | .propertyInvalid => ¬ measured.safe
  | _ => False

/-- The state behind so many more bytes and nodes. -/
def CloneState.after (state : CloneState) (bytes nodes : ℕ) : CloneState :=
  ⟨state.minimumUtf8Bytes + bytes, state.nodes + nodes⟩

/-- What a clone with these measures tells. -/
structure Counts (limits : PluginJsonValidationLimits) (most : ℕ) (state : CloneState)
    (measured : JsonMeasures) (next : CloneState) : Prop where
  levels : measured.levels ≤ most
  safe : measured.safe
  counted : next = state.after measured.minimum measured.nodes
  nodes : (next.nodes : ℤ) ≤ limits.maxNodes
  bytes : (next.minimumUtf8Bytes : ℤ) ≤ limits.maxUtf8Bytes

/-- A step on a part of a value clones it and counts it, or names a limit that it exceeds. -/
def Answers {Clone : Type} (limits : PluginJsonValidationLimits) (most : ℕ) (state : CloneState)
    (measured : JsonMeasures) :
    Except PluginJsonValidationReasonCode (Clone × CloneState) → Prop
  | .error reasonCode => Exceeds limits most state measured reasonCode
  | .ok (_, next) => Counts limits most state measured next

section

variable {limits : PluginJsonValidationLimits} {most : ℕ} {state next : CloneState}

/-- A part that exceeds a limit exceeds it for the whole. -/
theorem Exceeds.ofPart {inner : CloneState} {innerMost : ℕ} {part whole : JsonMeasures}
    {reasonCode : PluginJsonValidationReasonCode}
    (levels : innerMost < part.levels → most < whole.levels)
    (nodes : inner.nodes + part.nodes ≤ state.nodes + whole.nodes)
    (bytes : inner.minimumUtf8Bytes + part.minimum ≤ state.minimumUtf8Bytes + whole.minimum)
    (safe : whole.safe → part.safe) (exceeds : Exceeds limits innerMost inner part reasonCode) :
    Exceeds limits most state whole reasonCode := by
  cases reasonCode with
  | depthExceeded => exact levels exceeds
  | nodeLimitExceeded => exact lt_of_lt_of_le exceeds (by exact_mod_cast nodes)
  | sizeExceeded => exact lt_of_lt_of_le exceeds (by exact_mod_cast bytes)
  | propertyInvalid => exact fun whole => exceeds (safe whole)
  | _ => exact exceeds

private theorem reserveMinimumUtf8Bytes_ok {bytes : ℕ} :
    reserveMinimumUtf8Bytes limits state bytes = .ok next ↔
      (state.minimumUtf8Bytes + bytes : ℤ) ≤ limits.maxUtf8Bytes ∧ next = state.after bytes 0 := by
  unfold reserveMinimumUtf8Bytes CloneState.after
  split_ifs with exceeds
  · simp only [false_iff, not_and]
    omega
  · rw [Except.ok.injEq, Nat.add_zero]
    constructor
    · rintro rfl
      exact ⟨by omega, rfl⟩
    · rintro ⟨_, rfl⟩
      rfl

private theorem reserveMinimumUtf8Bytes_error {bytes : ℕ}
    {reasonCode : PluginJsonValidationReasonCode} :
    reserveMinimumUtf8Bytes limits state bytes = .error reasonCode ↔
      limits.maxUtf8Bytes < (state.minimumUtf8Bytes + bytes : ℤ) ∧ reasonCode = .sizeExceeded := by
  unfold reserveMinimumUtf8Bytes
  split_ifs with exceeds
  · rw [Except.error.injEq, eq_comm, and_iff_right]
    omega
  · simp only [false_iff, not_and]
    omega

private theorem countNode_ok : countNode limits state = .ok next ↔
    (state.nodes + 1 : ℤ) ≤ limits.maxNodes ∧ next = state.after 0 1 := by
  unfold countNode CloneState.after
  split_ifs with available
  · rw [Except.ok.injEq, and_iff_right available, eq_comm]
    exact Iff.rfl
  · simp [available]

private theorem countNode_error {reasonCode : PluginJsonValidationReasonCode} :
    countNode limits state = .error reasonCode ↔
      limits.maxNodes < (state.nodes + 1 : ℤ) ∧ reasonCode = .nodeLimitExceeded := by
  unfold countNode
  split_ifs with available
  · simp only [false_iff, not_and]
    omega
  · rw [Except.error.injEq, eq_comm, and_iff_right]
    omega

/-- Both counters are within the limits. -/
def Fits (limits : PluginJsonValidationLimits) (state : CloneState) : Prop :=
  (state.nodes : ℤ) ≤ limits.maxNodes ∧ (state.minimumUtf8Bytes : ℤ) ≤ limits.maxUtf8Bytes

variable {Ref : Type} {heap : JsHeap Ref} {bound : ℕ} {step : CloneStep Ref PluginJsonValue}

/-- A step answers for every value that unfolds to fewer nodes than the bound. -/
def StepAnswers (limits : PluginJsonValidationLimits) (heap : JsHeap Ref) (most bound : ℕ)
    (step : CloneStep Ref PluginJsonValue) : Prop :=
  ∀ value state json, Inert heap value json → nodeCount json < bound →
    Answers limits most state (measures json) (step value state)

/-- A part is answered for, and then what follows it. -/
theorem Answers.sequence {First Rest Clone : Type} {part rest : JsonMeasures}
    {first : Except PluginJsonValidationReasonCode (First × CloneState)}
    {following : CloneState → Except PluginJsonValidationReasonCode (Rest × CloneState)}
    (build : First → Rest → Clone) (one : Answers limits most state part first)
    (others : ∀ middle, Fits limits middle → Answers limits most middle rest (following middle)) :
    Answers limits most state (part.plus rest) (first.bind fun result =>
      (following result.2).bind fun later => .ok (build result.1 later.1, later.2)) := by
  cases first with
  | error reasonCode =>
      refine Exceeds.ofPart (fun deep => lt_of_lt_of_le deep (le_max_left _ _)) ?_ ?_ And.left one
      · exact Nat.add_le_add_left (Nat.le_add_right _ _) _
      · exact Nat.add_le_add_left (Nat.le_add_right _ _) _
  | ok result =>
      obtain ⟨clone, middle⟩ := result
      obtain ⟨levels, safe, rfl, nodes, bytes⟩ := one
      have later := others _ ⟨nodes, bytes⟩
      dsimp only [Except.bind]
      cases rested : following (state.after part.minimum part.nodes) with
      | error reasonCode =>
          rw [rested] at later
          refine Exceeds.ofPart (fun deep => lt_of_lt_of_le deep (le_max_right _ _)) ?_ ?_ And.right
            later
          · exact (Nat.add_assoc _ _ _).le
          · exact (Nat.add_assoc _ _ _).le
      | ok result =>
          obtain ⟨clones, last⟩ := result
          rw [rested] at later
          obtain ⟨laterLevels, laterSafe, rfl, laterNodes, laterBytes⟩ := later
          refine ⟨max_le levels laterLevels, ⟨safe, laterSafe⟩, ?_, laterNodes, laterBytes⟩
          unfold CloneState.after
          rw [Nat.add_assoc, Nat.add_assoc]
          rfl

/-- What is answered for behind what was counted before is answered for with it. -/
theorem Answers.behind {Clone : Type} {innerMost bytes nodes : ℕ} {part whole : JsonMeasures}
    {result : Except PluginJsonValidationReasonCode (Clone × CloneState)}
    (answers : Answers limits innerMost (state.after bytes nodes) part result)
    (levels : whole.levels ≤ most ↔ part.levels ≤ innerMost)
    (counted : whole.nodes = nodes + part.nodes) (reserved : whole.minimum = bytes + part.minimum)
    (safe : whole.safe ↔ part.safe) : Answers limits most state whole result := by
  cases result with
  | error reasonCode =>
      refine Exceeds.ofPart (fun deep => ?_) ?_ ?_ safe.mp answers
      · rw [← not_le] at deep ⊢
        exact fun shallow => deep (levels.mp shallow)
      · rw [counted]
        exact (Nat.add_assoc _ _ _).le
      · rw [reserved]
        exact (Nat.add_assoc _ _ _).le
  | ok result =>
      obtain ⟨clone, last⟩ := result
      obtain ⟨shallow, named, rfl, few, small⟩ := answers
      refine ⟨levels.mpr shallow, safe.mpr named, ?_, few, small⟩
      unfold CloneState.after
      rw [counted, reserved, Nat.add_assoc, Nat.add_assoc]

theorem Answers.mapped {Part Clone : Type} {measured : JsonMeasures} (clones : Part → Clone)
    {result : Except PluginJsonValidationReasonCode (Part × CloneState)}
    (answers : Answers limits most state measured result) : Answers limits most state measured
      (result.bind fun result => .ok (clones result.1, result.2)) := by
  cases result with
  | error reasonCode => exact answers
  | ok result => exact answers

private theorem cloneEntries_answers (answers : StepAnswers limits heap most bound step)
    {array : JsObject Ref} {indices : List ℕ} {values : List (JsValue Ref)}
    {entries : List JsonValue} (own : List.Forall₂ (fun index value =>
      array.getOwnPropertyDescriptor (decimalDigits index) = some (.data value true))
      indices values)
    (each : List.Forall₂ (Inert heap) values entries) (smaller : nodeCountEntries entries < bound)
    (fits : Fits limits state) :
    Answers limits most state (entryMeasures entries) (cloneEntries step array indices state) := by
  induction own generalizing entries state with
  | nil =>
      cases each
      exact ⟨Nat.zero_le _, List.forall_mem_nil _, rfl, fits.1, fits.2⟩
  | @cons index value indices values found _ ih =>
      cases each with
      | @cons _ entry _ rest inert others =>
          rw [nodeCountEntries] at smaller
          rw [cloneEntries, found, entryMeasures_cons]
          exact .sequence List.cons (answers value state entry inert (by omega))
            fun middle within => ih others (by omega) within

private theorem cloneProperties_answers (answers : StepAnswers limits heap most bound step)
    {object : JsObject Ref} {names : List JsString} {values : List (JsString × JsValue Ref)}
    {properties : List (JsString × JsonValue)}
    (own : List.Forall₂ (fun key value => key = value.1 ∧
      object.getOwnPropertyDescriptor key = some (.data value.2 true)) names values)
    (each : List.Forall₂ (fun value property => property.1 = value.1 ∧
      Inert heap value.2 property.2) values properties)
    (smaller : nodeCountProperties properties < bound) (fits : Fits limits state) :
    Answers limits most state (propertyMeasures properties)
      (cloneProperties limits step object names state) := by
  induction own generalizing properties state with
  | nil =>
      cases each
      exact ⟨Nat.zero_le _, propertyNamesAreSafe_nil, rfl, fits.1, fits.2⟩
  | @cons key value names values found _ ih =>
      cases each with
      | @cons _ property _ rest inert others =>
          obtain ⟨name, entry⟩ := property
          obtain ⟨stored, content⟩ := value
          obtain ⟨rfl, found⟩ := found
          obtain ⟨same, inert⟩ := inert
          dsimp only at found same inert
          subst same
          rw [nodeCountProperties] at smaller
          rw [cloneProperties, found]
          dsimp only
          split_ifs with forbidden
          · refine fun safe => ?_
            rw [((propertyNamesAreSafe_cons name entry rest).mp safe).1] at forbidden
            cases forbidden
          · cases reserved : reserveMinimumUtf8Bytes limits state (name.length + 3) with
            | error reasonCode =>
                obtain ⟨exceeds, rfl⟩ := reserveMinimumUtf8Bytes_error.mp reserved
                refine lt_of_lt_of_le exceeds ?_
                change ((state.minimumUtf8Bytes : ℕ) + (name.length + 3 : ℕ) : ℤ) ≤
                  (state.minimumUtf8Bytes : ℕ) +
                    ((name.length + 3 + minimumBytes entry + minimumBytesProperties rest : ℕ) : ℤ)
                omega
            | ok middle =>
                obtain ⟨room, rfl⟩ := reserveMinimumUtf8Bytes_ok.mp reserved
                have one := answers content (state.after (name.length + 3) 0) entry inert (by omega)
                change Answers limits most state _ (Except.bind (step content _) _)
                refine Answers.behind (.sequence (fun nested rest => (name, nested) :: rest) one
                  fun middle within => ih others (by omega) within) ?_ ?_ ?_ ?_
                · exact Iff.rfl
                · exact (Nat.zero_add _).symm
                · exact Nat.add_assoc _ _ _
                · rw [Bool.not_eq_true] at forbidden
                  change propertyNamesAreSafe ((name, entry) :: rest) ↔ _
                  rw [propertyNamesAreSafe_cons, and_iff_right forbidden]
                  exact Iff.rfl

private theorem length_le_nodeCountEntries (entries : List JsonValue) :
    entries.length ≤ nodeCountEntries entries := by
  induction entries with
  | nil => exact le_rfl
  | cons entry rest ih =>
      have one : 1 ≤ nodeCount entry := by cases entry <;> simp [nodeCount]
      rw [nodeCountEntries, List.length_cons]
      omega

private theorem length_le_nodeCountProperties (properties : List (JsString × JsonValue)) :
    properties.length ≤ nodeCountProperties properties := by
  induction properties with
  | nil => exact le_rfl
  | cons property rest ih =>
      have one : 1 ≤ nodeCount property.2 := by cases property.2 <;> simp [nodeCount]
      rw [nodeCountProperties, List.length_cons]
      omega

/-- What is behind the brackets of a container and the commas between its parts. -/
def JsonMeasures.enclosed (parts : JsonMeasures) (length : ℕ) : JsonMeasures :=
  { parts with minimum := 2 + (length - 1) + parts.minimum }

theorem arrayPropertiesAreCanonical_iff {array : JsObject Ref} (isArray : array.isArray = true)
    (present : ∀ index < array.length, decimalDigits index ∈ array.properties.map Prod.fst) :
    arrayPropertiesAreCanonical array = true ↔ array.properties.length = array.length := by
  have named := indexNames_iff array.distinct present
  rw [List.length_map] at named
  rw [named, arrayPropertiesAreCanonical, JsObject.getOwnPropertyNames, isArray, if_pos rfl,
    List.all_append, Bool.and_eq_true, List.all_eq_true, List.all_cons, BEq.rfl, Bool.true_or,
    List.all_nil, Bool.and_self, and_iff_left rfl]
  refine forall₂_congr fun name member => ?_
  have other : name ≠ ascii "length" := fun same => array.unlisted isArray (same ▸ member)
  rw [beq_false_of_ne other, Bool.false_or, Bool.and_eq_true, decide_eq_true_eq]

private theorem cloneArray_answers (answers : StepAnswers limits heap most bound step) {ref : Ref}
    {entries : List JsonValue} (inert : Inert heap (.object ref) (.array entries))
    (smaller : nodeCountEntries entries < bound) (few : (state.nodes : ℤ) ≤ limits.maxNodes) :
    Answers limits most state ((entryMeasures entries).enclosed entries.length)
      (cloneArray limits step (heap ref) state) := by
  obtain ⟨isArray, plain, named, count, size, values, own, each⟩ := inert.entries
  have present : ∀ index < (heap ref).length,
      decimalDigits index ∈ (heap ref).properties.map Prod.fst := by
    intro index below
    obtain ⟨same, found⟩ := List.forall₂_iff_get.mp own
    rw [List.length_range] at same
    have here := found index (by rw [List.length_range]; exact below) (same ▸ below)
    rw [List.get_eq_getElem, List.getElem_range, JsObject.getOwnPropertyDescriptor_iff] at here
    exact List.mem_map_of_mem here
  have canonical := (arrayPropertiesAreCanonical_iff isArray present).mpr count
  unfold cloneArray
  rw [if_neg (not_not.mpr plain), if_neg (not_not.mpr named), canonical, Bool.not_true]
  simp only [Bool.false_eq_true, if_false]
  split_ifs with many
  · have least := length_le_nodeCountEntries entries
    change limits.maxNodes < state.nodes + (nodeCountEntries entries : ℕ)
    omega
  · cases reserved : reserveMinimumUtf8Bytes limits state (2 + ((heap ref).length - 1)) with
    | error reasonCode =>
        obtain ⟨exceeds, rfl⟩ := reserveMinimumUtf8Bytes_error.mp reserved
        refine lt_of_lt_of_le exceeds ?_
        rw [JsonMeasures.enclosed, size]
        dsimp only
        omega
    | ok middle =>
        obtain ⟨room, rfl⟩ := reserveMinimumUtf8Bytes_ok.mp reserved
        have inside : Fits limits (state.after (2 + ((heap ref).length - 1)) 0) :=
          ⟨few, by exact_mod_cast room⟩
        refine Answers.behind
          (.mapped (PluginJsonValue.array false) (cloneEntries_answers answers own each smaller
          inside)) ?_ ?_ ?_ ?_
        · exact Iff.rfl
        · exact (Nat.zero_add _).symm
        · rw [JsonMeasures.enclosed, size]
        · exact Iff.rfl

private theorem cloneObject_answers (answers : StepAnswers limits heap most bound step) {ref : Ref}
    {properties : List (JsString × JsonValue)}
    (inert : Inert heap (.object ref) (.object properties))
    (smaller : nodeCountProperties properties < bound)
    (few : (state.nodes : ℤ) ≤ limits.maxNodes) :
    Answers limits most state ((propertyMeasures properties).enclosed properties.length)
      (cloneObject limits step (heap ref) state) := by
  obtain ⟨isObject, plain, named, size, values, own, each⟩ := inert.properties
  have names : (heap ref).getOwnPropertyNames = (heap ref).properties.map Prod.fst := by
    rw [JsObject.getOwnPropertyNames, isObject, if_neg Bool.false_ne_true, List.append_nil]
  have supported : ¬ ((heap ref).prototype ≠ .objectPrototype ∧ (heap ref).prototype ≠ .null) := by
    rw [not_and_or, not_not, not_not]
    exact plain
  unfold cloneObject
  rw [if_neg supported, if_neg (not_not.mpr named), names, List.length_map, ← size]
  split_ifs with many
  · have least := length_le_nodeCountProperties properties
    change limits.maxNodes < state.nodes + (nodeCountProperties properties : ℕ)
    omega
  · cases reserved : reserveMinimumUtf8Bytes limits state (2 + (properties.length - 1)) with
    | error reasonCode =>
        obtain ⟨exceeds, rfl⟩ := reserveMinimumUtf8Bytes_error.mp reserved
        refine lt_of_lt_of_le exceeds ?_
        rw [JsonMeasures.enclosed]
        dsimp only
        omega
    | ok middle =>
        obtain ⟨room, rfl⟩ := reserveMinimumUtf8Bytes_ok.mp reserved
        have inside : Fits limits (state.after (2 + (properties.length - 1)) 0) :=
          ⟨few, by exact_mod_cast room⟩
        refine Answers.behind (.mapped (PluginJsonValue.object false) (cloneProperties_answers
          answers own each smaller inside)) ?_ ?_ ?_ ?_
        · exact Iff.rfl
        · exact (Nat.zero_add _).symm
        · rfl
        · exact Iff.rfl

/-- A value without parts. -/
theorem cloneLeaf_answers {json : JsonValue} {clone : PluginJsonValue} {bytes : ℕ}
    (shallow : levels json = 1) (single : nodeCount json = 1) (minimum : minimumBytes json = bytes)
    (keyless : json.objectKeys = []) (room : (state.nodes + 1 : ℤ) ≤ limits.maxNodes) :
    Answers limits (most + 1) state (measures json)
      (cloneLeaf limits (state.after 0 1) bytes clone) := by
  unfold cloneLeaf
  cases reserved : reserveMinimumUtf8Bytes limits (state.after 0 1) bytes with
  | error reasonCode =>
      obtain ⟨exceeds, rfl⟩ := reserveMinimumUtf8Bytes_error.mp reserved
      rw [← minimum] at exceeds
      exact exceeds
  | ok middle =>
      obtain ⟨small, rfl⟩ := reserveMinimumUtf8Bytes_ok.mp reserved
      refine ⟨?_, ?_, ?_, room, by exact_mod_cast small⟩
      · change levels json ≤ most + 1
        omega
      · change namesAreSafe json
        rw [namesAreSafe, keyless]
        exact List.forall_mem_nil _
      · unfold CloneState.after measures
        rw [minimum, single]
        rfl

/-- **Every inert value is cloned and counted, or exceeds the limit that is named.** No value is
refused for its parents: none of them is reached from itself. -/
theorem cloneValue_answers [DecidableEq Ref] (heap : JsHeap Ref) (most : ℕ) {parents : List Ref}
    {bound : ℕ} (outer : ∀ parent ∈ parents, ∃ json, Inert heap (.object parent) json ∧
      bound ≤ nodeCount json) :
    StepAnswers limits heap most bound (cloneValue limits heap most parents) := by
  induction most generalizing parents bound with
  | zero =>
      intro value state json _ _
      change 0 < levels json
      cases json <;> exact Nat.succ_pos _
  | succ most ih =>
      intro value state json inert smaller
      have fresh : ∀ ref, value = .object ref → ref ∉ parents := by
        rintro ref rfl member
        obtain ⟨other, whole, least⟩ := outer ref member
        rw [whole.unique inert] at least
        omega
      have inner : ∀ ref, value = .object ref → ∀ parent ∈ ref :: parents, ∃ other,
          Inert heap (.object parent) other ∧ nodeCount json ≤ nodeCount other := by
        rintro ref rfl parent member
        rcases List.mem_cons.mp member with rfl | member
        · exact ⟨json, inert, le_rfl⟩
        · obtain ⟨other, whole, least⟩ := outer parent member
          exact ⟨other, whole, by omega⟩
      rw [cloneValue]
      cases counted : countNode limits state with
      | error reasonCode =>
          obtain ⟨exceeds, rfl⟩ := countNode_error.mp counted
          have one : 1 ≤ nodeCount json := by cases json <;> simp [nodeCount]
          change limits.maxNodes < state.nodes + (nodeCount json : ℕ)
          omega
      | ok middle =>
          obtain ⟨room, rfl⟩ := countNode_ok.mp counted
          have few : ((state.after 0 1).nodes : ℤ) ≤ limits.maxNodes := by exact_mod_cast room
          cases inert with
          | null => exact cloneLeaf_answers rfl rfl rfl rfl room
          | boolean value => exact cloneLeaf_answers rfl rfl rfl rfl room
          | number value => exact cloneLeaf_answers rfl rfl rfl rfl room
          | string value =>
              change Answers limits (most + 1) state _ (if _ then cloneLeaf _ _ _ _ else _)
              split_ifs with short
              · exact cloneLeaf_answers rfl rfl rfl rfl room
              · change limits.maxUtf8Bytes < state.minimumUtf8Bytes + ((value.length + 2 : ℕ) : ℤ)
                omega
          | array ref values entries isArray plain named count length lengths own each =>
              have whole : Inert heap (.object ref) (.array entries) :=
                .array ref values entries isArray plain named count length lengths own each
              change Answers limits (most + 1) state _ (if _ then _ else if _ then _ else _)
              rw [if_neg (fresh ref rfl), if_pos isArray]
              refine Answers.behind (cloneArray_answers (ih (inner ref rfl)) whole
                (Nat.lt_succ_self _) few) ?_ ?_ ?_ ?_
              · exact Nat.succ_le_succ_iff
              · exact Nat.add_comm _ _
              · exact (Nat.zero_add _).symm
              · exact Iff.rfl
          | object ref values properties isObject plain named own keys each =>
              have whole : Inert heap (.object ref) (.object properties) :=
                .object ref values properties isObject plain named own keys each
              change Answers limits (most + 1) state _ (if _ then _ else if _ then _ else _)
              rw [if_neg (fresh ref rfl), isObject, if_neg Bool.false_ne_true]
              refine Answers.behind (cloneObject_answers (ih (inner ref rfl)) whole
                (Nat.lt_succ_self _) few) ?_ ?_ ?_ ?_
              · exact Nat.succ_le_succ_iff
              · exact Nat.add_comm _ _
              · exact (Nat.zero_add _).symm
              · exact Iff.rfl

end

end Kurobara.Plugin
