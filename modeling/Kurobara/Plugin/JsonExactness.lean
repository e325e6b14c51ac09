import Kurobara.Plugin.JsonLimits

/-! # Plugin JSON is validated exactly

A candidate is accepted exactly when it unfolds to JSON within the limits. The result is a frozen
clone, and validating the clone gives it again.
-/

namespace Kurobara.Plugin

open Foundation

/-! ## Clones are inert -/

section

variable {Ref : Type} {limits : PluginJsonValidationLimits} {heap : JsHeap Ref}
  {step : CloneStep Ref PluginJsonValue}

/-- Whatever a step clones unfolds to its clone. -/
def StepIsSound (heap : JsHeap Ref) (step : CloneStep Ref PluginJsonValue) : Prop :=
  ∀ value state clone next, step value state = .ok (clone, next) → Inert heap value clone.toJson

private theorem cloneEntries_sound (sound : StepIsSound heap step) {array : JsObject Ref}
    {indices : List ℕ} {state next : CloneState} {clones : List PluginJsonValue}
    (cloned : cloneEntries step array indices state = .ok (clones, next)) :
    ∃ values, List.Forall₂ (fun index value => array.getOwnPropertyDescriptor
        (decimalDigits index) = some (.data value true)) indices values ∧
      List.Forall₂ (Inert heap) values (entriesToJson clones) := by
  induction indices generalizing state clones with
  | nil =>
      cases cloned
      exact ⟨[], .nil, .nil⟩
  | cons index rest ih =>
      rw [cloneEntries] at cloned
      split at cloned
      · cases cloned
      · cases cloned
      · cases cloned
      · rename_i value found
        obtain ⟨⟨clone, middle⟩, here, cloned⟩ := bind_eq_ok.mp cloned
        obtain ⟨⟨others, last⟩, later, cloned⟩ := bind_eq_ok.mp cloned
        cases cloned
        obtain ⟨values, own, each⟩ := ih later
        exact ⟨value :: values, .cons found own, .cons (sound _ _ _ _ here) each⟩

private theorem cloneProperties_sound (sound : StepIsSound heap step) {object : JsObject Ref}
    {names : List JsString} {state next : CloneState}
    {clones : List (JsString × PluginJsonValue)}
    (cloned : cloneProperties limits step object names state = .ok (clones, next)) :
    ∃ values : List (JsString × JsValue Ref), List.Forall₂ (fun key value => key = value.1 ∧
        object.getOwnPropertyDescriptor key = some (.data value.2 true)) names values ∧
      List.Forall₂ (fun value property => property.1 = value.1 ∧
        Inert heap value.2 property.2) values (propertiesToJson clones) := by
  induction names generalizing state clones with
  | nil =>
      cases cloned
      exact ⟨[], .nil, .nil⟩
  | cons key rest ih =>
      rw [cloneProperties] at cloned
      split at cloned
      · cases cloned
      · cases cloned
      · split_ifs at cloned
      · rename_i value found
        split_ifs at cloned
        obtain ⟨reserved, _, cloned⟩ := bind_eq_ok.mp cloned
        obtain ⟨⟨clone, middle⟩, here, cloned⟩ := bind_eq_ok.mp cloned
        obtain ⟨⟨others, last⟩, later, cloned⟩ := bind_eq_ok.mp cloned
        cases cloned
        obtain ⟨values, own, each⟩ := ih later
        exact ⟨(key, value) :: values, .cons ⟨rfl, found⟩ own,
          .cons ⟨rfl, sound _ _ _ _ here⟩ each⟩

private theorem cloneArray_sound (sound : StepIsSound heap step) {ref : Ref}
    {state next : CloneState}
    {clone : PluginJsonValue} (isArray : (heap ref).isArray = true)
    (cloned : cloneArray limits step (heap ref) state = .ok (clone, next)) :
    Inert heap (.object ref) clone.toJson := by
  unfold cloneArray at cloned
  split_ifs at cloned with plain named many canonical
  · obtain ⟨_, _, impossible⟩ := bind_eq_ok.mp cloned
    cases impossible
  obtain ⟨reserved, _, cloned⟩ := bind_eq_ok.mp cloned
  obtain ⟨⟨clones, last⟩, inside, cloned⟩ := bind_eq_ok.mp cloned
  cases cloned
  rw [Bool.not_eq_true, Bool.not_eq_false'] at canonical
  obtain ⟨values, own, each⟩ := cloneEntries_sound sound inside
  have present : ∀ index < (heap ref).length,
      decimalDigits index ∈ (heap ref).properties.map Prod.fst := by
    intro index below
    obtain ⟨same, found⟩ := List.forall₂_iff_get.mp own
    rw [List.length_range] at same
    have here := found index (by rw [List.length_range]; exact below) (same ▸ below)
    rw [List.get_eq_getElem, List.getElem_range, JsObject.getOwnPropertyDescriptor_iff] at here
    exact List.mem_map_of_mem here
  exact .ofEntries isArray (not_not.mp plain) (not_not.mp named)
    ((arrayPropertiesAreCanonical_iff isArray present).mp canonical) own each

private theorem cloneObject_sound (sound : StepIsSound heap step) {ref : Ref}
    {state next : CloneState}
    {clone : PluginJsonValue} (isObject : (heap ref).isArray = false)
    (cloned : cloneObject limits step (heap ref) state = .ok (clone, next)) :
    Inert heap (.object ref) clone.toJson := by
  have names : (heap ref).getOwnPropertyNames = (heap ref).properties.map Prod.fst := by
    rw [JsObject.getOwnPropertyNames, isObject, if_neg Bool.false_ne_true, List.append_nil]
  unfold cloneObject at cloned
  rw [names] at cloned
  split_ifs at cloned with plain named many
  obtain ⟨reserved, _, cloned⟩ := bind_eq_ok.mp cloned
  obtain ⟨⟨clones, last⟩, inside, cloned⟩ := bind_eq_ok.mp cloned
  cases cloned
  obtain ⟨values, own, each⟩ := cloneProperties_sound sound inside
  rw [not_and_or, not_not, not_not] at plain
  exact .ofProperties isObject plain (not_not.mp named) own each

private theorem cloneLeaf_ok {state next : CloneState} {bytes : ℕ} {value clone : PluginJsonValue}
    (cloned : cloneLeaf limits state bytes value = .ok (clone, next)) : clone = value := by
  obtain ⟨_, _, same⟩ := map_eq_ok.mp cloned
  exact (Prod.mk.inj same).1.symm

private theorem cloneValue_sound [DecidableEq Ref] (heap : JsHeap Ref) (most : ℕ)
    (parents : List Ref) :
    StepIsSound heap (cloneValue limits heap most parents) := by
  induction most generalizing parents with
  | zero =>
      intro value state clone next cloned
      cases cloned
  | succ most ih =>
      intro value state clone next cloned
      rw [cloneValue] at cloned
      obtain ⟨counted, _, cloned⟩ := bind_eq_ok.mp cloned
      cases value with
      | undefined => cases cloned
      | other => cases cloned
      | null => exact cloneLeaf_ok cloned ▸ .null
      | boolean value => exact cloneLeaf_ok cloned ▸ .boolean value
      | string value =>
          dsimp only at cloned
          split_ifs at cloned
          exact cloneLeaf_ok cloned ▸ .string value
      | number value =>
          cases value with
          | finite value => exact cloneLeaf_ok cloned ▸ .number value
          | infinite _ => cases cloned
          | nan => cases cloned
      | object ref =>
          dsimp only at cloned
          split_ifs at cloned with known isArray
          · exact cloneArray_sound (ih _) isArray cloned
          · exact cloneObject_sound (ih _) (Bool.not_eq_true _ ▸ isArray) cloned

end

/-! ## Validation -/

/-- JSON within the limits, under no unsafe name. A scalar and an empty container lie at depth 0
with one level. -/
structure WithinPluginLimits (limits : PluginJsonValidationLimits) (json : JsonValue) : Prop where
  names : namesAreSafe json
  depth : (levels json : ℤ) - 1 ≤ limits.maxDepth
  nodes : (nodeCount json : ℤ) ≤ limits.maxNodes
  bytes : (byteLength (stringify json) : ℤ) ≤ limits.maxUtf8Bytes

section

variable {Ref : Type} [DecidableEq Ref] (limits : PluginJsonValidationLimits) (heap : JsHeap Ref)
  (candidate : JsValue Ref)

private theorem candidate_answers {json : JsonValue} (inert : Inert heap candidate json) :
    Answers limits (limits.maxDepth + 1).toNat ⟨0, 0⟩ (measures json)
      (cloneValue limits heap (limits.maxDepth + 1).toNat [] candidate ⟨0, 0⟩) :=
  cloneValue_answers heap _ (List.forall_mem_nil _) candidate ⟨0, 0⟩ json inert
    (Nat.lt_succ_self _)

/-- What is accepted is a frozen clone of JSON within the limits. -/
theorem validatePluginJson_sound {validated : ValidatedPluginJson}
    (accepted : validatePluginJsonWithLimits limits heap candidate = .ok validated) :
    Inert heap candidate validated.value.toJson ∧
      WithinPluginLimits limits validated.value.toJson ∧
      validated.sizeBytes = byteLength (stringify validated.value.toJson) ∧
      isDeeplyFrozen validated.value = true := by
  unfold validatePluginJsonWithLimits at accepted
  split at accepted
  · cases accepted
  · rename_i clone last cloned
    dsimp only at accepted
    split_ifs at accepted with large
    cases accepted
    have inert := cloneValue_sound heap _ _ _ _ _ _ cloned
    have answers := candidate_answers limits heap candidate inert
    rw [cloned] at answers
    obtain ⟨shallow, safe, rfl, few, _⟩ := answers
    have positive : 1 ≤ levels clone.toJson := by cases clone <;> exact Nat.succ_pos _
    change levels clone.toJson ≤ (limits.maxDepth + 1).toNat at shallow
    change ((0 + nodeCount clone.toJson : ℕ) : ℤ) ≤ limits.maxNodes at few
    dsimp only
    rw [deepFreeze_toJson]
    exact ⟨inert, ⟨safe, by omega, by omega, by omega⟩, rfl, deepFreeze_isDeeplyFrozen clone⟩

/-- A refusal of a candidate that unfolds to JSON names a limit that it exceeds. -/
theorem validatePluginJson_refusal {json : JsonValue} (inert : Inert heap candidate json)
    {reasonCode : PluginJsonValidationReasonCode}
    (refused : validatePluginJsonWithLimits limits heap candidate = .error reasonCode) :
    match reasonCode with
    | .depthExceeded => limits.maxDepth < (levels json : ℤ) - 1
    | .nodeLimitExceeded => limits.maxNodes < (nodeCount json : ℤ)
    | .sizeExceeded => limits.maxUtf8Bytes < (byteLength (stringify json) : ℤ)
    | .propertyInvalid => ¬ namesAreSafe json
    | _ => False := by
  have answers := candidate_answers limits heap candidate inert
  have minimum := minimumBytes_le json
  rw [← byteLength_stringify] at minimum
  unfold validatePluginJsonWithLimits at refused
  split at refused
  · rename_i reason cloned
    cases refused
    rw [cloned] at answers
    cases reasonCode with
    | depthExceeded =>
        change (limits.maxDepth + 1).toNat < levels json at answers
        dsimp only
        omega
    | nodeLimitExceeded =>
        change limits.maxNodes < (0 : ℕ) + (nodeCount json : ℤ) at answers
        dsimp only
        omega
    | sizeExceeded =>
        change limits.maxUtf8Bytes < (0 : ℕ) + (minimumBytes json : ℤ) at answers
        dsimp only
        omega
    | _ => exact answers
  · rename_i clone last cloned
    dsimp only at refused
    split_ifs at refused with large
    cases refused
    rw [(cloneValue_sound heap _ _ _ _ _ _ cloned).unique inert] at large
    exact large

/-- An inert value within the limits is accepted. -/
theorem validatePluginJson_complete {json : JsonValue} (inert : Inert heap candidate json)
    (within : WithinPluginLimits limits json) :
    ∃ validated, validatePluginJsonWithLimits limits heap candidate = .ok validated ∧
      validated.value.toJson = json := by
  cases result : validatePluginJsonWithLimits limits heap candidate with
  | error reasonCode =>
      have exceeds := validatePluginJson_refusal limits heap candidate inert result
      obtain ⟨names, depth, nodes, bytes⟩ := within
      cases reasonCode with
      | depthExceeded => exact absurd depth (not_le.mpr exceeds)
      | nodeLimitExceeded => exact absurd nodes (not_le.mpr exceeds)
      | sizeExceeded => exact absurd bytes (not_le.mpr exceeds)
      | propertyInvalid => exact absurd names exceeds
      | _ => exact exceeds.elim
  | ok validated =>
      exact ⟨validated, rfl,
        (validatePluginJson_sound limits heap candidate result).1.unique inert⟩

end

theorem inert_cloneHeap {json : JsonValue} (isJson : IsJson json) :
    Inert (cloneHeap json) (plainValue [] json) json := by
  refine Inert.withPrototypes (fun path => rfl) (fun path isArray => ?_) (fun path isObject => ?_)
    (inert_plainHeap isJson rfl)
  · change (if _ then _ else _) = _
    rw [if_pos isArray]
  · refine .inl ?_
    change (if _ then _ else _) = _
    rw [isObject, if_neg Bool.false_ne_true]

/-- A clone is validated to itself. -/
theorem validatePluginJson_again {Ref : Type} [DecidableEq Ref]
    (limits : PluginJsonValidationLimits) (heap : JsHeap Ref) (candidate : JsValue Ref)
    {validated : ValidatedPluginJson}
    (accepted : validatePluginJsonWithLimits limits heap candidate = .ok validated) :
    validatePluginJsonWithLimits limits (cloneHeap validated.value.toJson)
      (plainValue [] validated.value.toJson) = .ok validated := by
  obtain ⟨inert, within, size, frozen⟩ := validatePluginJson_sound limits heap candidate accepted
  obtain ⟨again, repeated, same⟩ := validatePluginJson_complete limits _ _
    (inert_cloneHeap inert.isJson) within
  obtain ⟨_, _, againSize, againFrozen⟩ := validatePluginJson_sound limits _ _ repeated
  rw [repeated, Except.ok.injEq]
  obtain ⟨sizeBytes, value⟩ := validated
  obtain ⟨againBytes, againValue⟩ := again
  dsimp only at size frozen same againSize againFrozen
  rw [ValidatedPluginJson.mk.injEq, againSize, size, same]
  exact ⟨rfl, eq_of_toJson againFrozen frozen same⟩

/-- **Plugin JSON is validated exactly.** A candidate is accepted exactly when it unfolds to JSON
within the limits under safe names; the minimum that refuses it early is below the bytes of its
JSON text, whatever the limits; and the result stands for what the candidate unfolds to, is deeply
frozen, and is validated to itself. -/
theorem pluginJsonValidation_isExact {Ref : Type} [DecidableEq Ref] (heap : JsHeap Ref)
    (candidate : JsValue Ref) (limits : PluginJsonValidationLimits) :
    ((∃ validated, validatePluginJsonWithLimits limits heap candidate = .ok validated) ↔
      ∃ json, Inert heap candidate json ∧ WithinPluginLimits limits json) ∧
    (∀ json, Inert heap candidate json →
      (validatePluginJsonWithLimits limits heap candidate = .error .sizeExceeded →
        limits.maxUtf8Bytes < (byteLength (stringify json) : ℤ)) ∧
      ∀ clone state, cloneValue limits heap (limits.maxDepth + 1).toNat [] candidate ⟨0, 0⟩ =
        .ok (clone, state) → state.minimumUtf8Bytes ≤ byteLength (stringify json)) ∧
    ∀ validated, validatePluginJsonWithLimits limits heap candidate = .ok validated →
      Inert heap candidate validated.value.toJson ∧
      validated.sizeBytes = byteLength (stringify validated.value.toJson) ∧
      isDeeplyFrozen validated.value = true ∧
      validatePluginJsonWithLimits limits (cloneHeap validated.value.toJson)
        (plainValue [] validated.value.toJson) = .ok validated := by
  refine ⟨⟨?_, ?_⟩, ?_, ?_⟩
  · rintro ⟨validated, accepted⟩
    obtain ⟨inert, within, _⟩ := validatePluginJson_sound limits heap candidate accepted
    exact ⟨_, inert, within⟩
  · rintro ⟨json, inert, within⟩
    obtain ⟨validated, accepted, _⟩ :=
      validatePluginJson_complete limits heap candidate inert within
    exact ⟨validated, accepted⟩
  · intro json inert
    refine ⟨validatePluginJson_refusal limits heap candidate inert, ?_⟩
    intro clone state cloned
    have answers := candidate_answers limits heap candidate inert
    rw [cloned] at answers
    rw [answers.counted, byteLength_stringify]
    exact (Nat.zero_add _).le.trans (minimumBytes_le json)
  · intro validated accepted
    obtain ⟨inert, _, size, frozen⟩ := validatePluginJson_sound limits heap candidate accepted
    exact ⟨inert, size, frozen, validatePluginJson_again limits heap candidate accepted⟩

end Kurobara.Plugin
