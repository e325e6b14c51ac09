import Kurobara.Plugin.FrameSchema
import Mathlib.Data.Bool.AllAny

/-! # Frames around messages keep their limits

A frame adds one level, at most four values and the bytes of its envelope to its message. The
limits of frames leave room for them beside every message within the limits of messages.
-/

namespace Kurobara.Plugin

open Foundation

/-! ## Identifiers -/

/-- A unit that a JSON string holds as it stands, in one byte. -/
def IsPlainUnit (unit : CodeUnit) : Prop :=
  escapeUnit unit = [unit] ∧ unit.toNat < 0x80

instance (unit : CodeUnit) : Decidable (IsPlainUnit unit) :=
  inferInstanceAs (Decidable (_ ∧ _))

private theorem quoteUnits_plain {text : JsString} (plain : ∀ unit ∈ text, IsPlainUnit unit) :
    quoteUnits text = text := by
  induction text using quoteUnits.induct with
  | case1 => rfl
  | case2 unit => exact (plain unit List.mem_cons_self).1
  | case3 high low rest pair ih =>
      have whole := (isSurrogate_ascii (plain high List.mem_cons_self).2).1
      rw [whole, Bool.false_and] at pair
      cases pair
  | case4 high low rest single ih =>
      rw [quoteUnits, if_neg single, (plain high List.mem_cons_self).1,
        ih fun unit member => plain unit (List.mem_cons_of_mem _ member)]
      rfl

private theorem byteLength_quoted_plain {text : JsString}
    (plain : ∀ unit ∈ text, IsPlainUnit unit) :
    byteLength (quoted text) = text.length + 2 := by
  have single : ∀ unit ∈ quoted text, unit.toNat < 0x80 := by
    intro unit member
    rw [quoted, quoteUnits_plain plain] at member
    rcases List.mem_cons.mp member with rfl | inside
    · decide
    · rcases List.mem_append.mp inside with inside | closing
      · exact (plain unit inside).2
      · rw [List.mem_singleton.mp closing]
        decide
  rw [byteLength_ascii single, quoted, quoteUnits_plain plain, List.length_cons,
    List.length_append, List.length_singleton]

private theorem isPlainUnit_digit {unit : CodeUnit} (digit : isDigitUnit unit = true) :
    IsPlainUnit unit := by
  simp only [isDigitUnit, Bool.and_eq_true, decide_eq_true_eq, UInt16.le_iff_toNat_le,
    UInt16.reduceToNat] at digit
  have digits : ∀ value < 58, 48 ≤ value → IsPlainUnit (UInt16.ofNat value) := by decide
  have plain := digits unit.toNat (by omega) digit.1
  rwa [UInt16.ofNat_toNat] at plain

/-- An identifier is plain, and no longer than 26 units. -/
theorem isCallId_plain {id : JsString} (named : isCallId id = true) :
    (∀ unit ∈ id, IsPlainUnit unit) ∧ id.length ≤ 26 := by
  unfold isCallId at named
  split at named
  · cases named
  · rename_i first rest split
    simp only [Bool.and_eq_true, beq_iff_eq, decide_eq_true_eq, List.all_eq_true] at named
    obtain ⟨⟨head, digit, _⟩, short, digits⟩ := named
    have whole : id = ascii "host-call-" ++ first :: rest := by
      rw [← head, ← split, List.take_append_drop]
    rw [whole]
    refine ⟨fun unit member => ?_, ?_⟩
    · rcases List.mem_append.mp member with opening | number
      · have plain : ∀ unit ∈ ascii "host-call-", IsPlainUnit unit :=
          List.all_iff_forall_prop.mp (by decide)
        exact plain unit opening
      · rcases List.mem_cons.mp number with rfl | later
        · exact isPlainUnit_digit digit
        · exact isPlainUnit_digit (digits unit later)
    · rw [List.length_append, List.length_cons]
      have opening : (ascii "host-call-").length = 10 := by decide
      omega

private theorem byteLength_callId {id : JsString} (admissible : idSchema (.string id) = true) :
    byteLength (quoted id) ≤ 28 := by
  rw [idSchema, Bool.and_eq_true] at admissible
  obtain ⟨plain, short⟩ := isCallId_plain admissible.1
  rw [byteLength_quoted_plain plain]
  omega

private theorem codePointCount_le_length (text : JsString) : codePointCount text ≤ text.length := by
  induction text using codePointCount.induct with
  | case1 => exact le_rfl
  | case2 unit => exact le_rfl
  | case3 high low rest pair ih =>
      rw [codePointCount, if_pos pair]
      simp only [List.length_cons]
      omega
  | case4 high low rest single ih =>
      rw [codePointCount, if_neg single]
      exact Nat.succ_le_succ ih

/-- The identifiers of the host are admissible. -/
theorem hostCallId_admissible {number : ℕ} (positive : 0 < number) (most : number ≤ maxCallId) :
    idSchema (.string (hostCallId number)) = true := by
  obtain ⟨first, rest, split, nonzero⟩ := decimalDigits_head positive
  have digits : ∀ unit ∈ first :: rest, isDigitUnit unit = true := fun unit member =>
    decimalDigits_isDigit (split ▸ member)
  have short : (decimalDigits number).length ≤ 16 :=
    decimalDigits_length (by decide) (lt_of_le_of_lt most (by decide))
  rw [split, List.length_cons] at short
  have opening : (ascii "host-call-" ++ first :: rest).take 10 = ascii "host-call-" := rfl
  have digitsBehind : (ascii "host-call-" ++ first :: rest).drop 10 = first :: rest := rfl
  have named : isCallId (hostCallId number) = true := by
    unfold hostCallId isCallId
    rw [split, opening, digitsBehind]
    simp only [Bool.and_eq_true, beq_self_eq_true, bne_iff_ne, decide_eq_true_eq,
      List.all_eq_true, true_and]
    exact ⟨⟨digits first List.mem_cons_self, nonzero⟩, by omega,
      fun unit member => digits unit (List.mem_cons_of_mem _ member)⟩
  have points := codePointCount_le_length (hostCallId number)
  have length := (isCallId_plain named).2
  rw [idSchema, named, Bool.true_and, decide_eq_true_eq]
  exact points.trans length

/-- **Every identifier that the host takes is admissible.** -/
theorem callId_admissible {nextCallId next : ℕ} {operationKey : Option JsString} {id : JsString}
    (started : 0 < nextCallId) (taken : callId nextCallId operationKey = .ok (id, next)) :
    idSchema (.string id) = true ∧ nextCallId < next := by
  unfold callId at taken
  split_ifs at taken with spent same last
  · cases taken
    exact ⟨hostCallId_admissible (Nat.succ_pos _) (not_lt.mp last), by omega⟩
  · cases taken
    exact ⟨hostCallId_admissible started (not_lt.mp spent), by omega⟩

/-! ## Envelopes -/

private theorem byteLength_externalMethod (method : PluginProtocolMethod) :
    byteLength (quoted (externalMethod method)) ≤ 23 := by
  cases method <;> decide

private theorem scalar_namesAreSafe (value : JsString) : namesAreSafe (.string value) :=
  List.forall_mem_nil _

variable {id : JsString} {message : JsonValue}

/-- **A request frame around a message within the limits of messages is within those of frames.** -/
theorem requestFrame_within (admissible : idSchema (.string id) = true)
    (method : PluginProtocolMethod)
    (within : WithinPluginLimits pluginProtocolEnvelopeLimits message) :
    WithinPluginLimits pluginSidecarFrameLimits (requestFrameJson id method message) := by
  obtain ⟨names, depth, nodes, bytes⟩ := within
  have identifier := byteLength_callId admissible
  have named := byteLength_externalMethod method
  rw [byteLength_stringify] at bytes
  simp only [pluginProtocolEnvelopeLimits] at depth nodes bytes
  refine ⟨?_, ?_, ?_, ?_⟩
  · change propertyNamesAreSafe _
    simp only [propertyNamesAreSafe_cons]
    exact ⟨by decide, scalar_namesAreSafe _, by decide, scalar_namesAreSafe _, by decide,
      scalar_namesAreSafe _, by decide, names, propertyNamesAreSafe_nil⟩
  · simp only [requestFrameJson, levels, levelsOfProperties, pluginSidecarFrameLimits]
    omega
  · simp only [requestFrameJson, nodeCount, nodeCountProperties, pluginSidecarFrameLimits]
    omega
  · rw [byteLength_stringify]
    have idKey : byteLength (quoted (ascii "id")) = 4 := by decide
    have jsonrpcKey : byteLength (quoted (ascii "jsonrpc")) = 9 := by decide
    have methodKey : byteLength (quoted (ascii "method")) = 8 := by decide
    have paramsKey : byteLength (quoted (ascii "params")) = 8 := by decide
    have version : byteLength (quoted (ascii "2.0")) = 5 := by decide
    simp only [requestFrameJson, jsonBytes, jsonBytesProperties, pluginSidecarFrameLimits,
      pluginSidecarFrameMaxUtf8Bytes, List.length_cons, List.length_nil, idKey, jsonrpcKey,
      methodKey, paramsKey, version]
    omega

/-- **A result frame around a message within the limits of messages is within those of frames.** -/
theorem resultFrame_within (admissible : idSchema (.string id) = true)
    (within : WithinPluginLimits pluginProtocolEnvelopeLimits message) :
    WithinPluginLimits pluginSidecarFrameLimits (resultFrameJson id message) := by
  obtain ⟨names, depth, nodes, bytes⟩ := within
  have identifier := byteLength_callId admissible
  rw [byteLength_stringify] at bytes
  simp only [pluginProtocolEnvelopeLimits] at depth nodes bytes
  refine ⟨?_, ?_, ?_, ?_⟩
  · change propertyNamesAreSafe _
    simp only [propertyNamesAreSafe_cons]
    exact ⟨by decide, scalar_namesAreSafe _, by decide, scalar_namesAreSafe _, by decide, names,
      propertyNamesAreSafe_nil⟩
  · simp only [resultFrameJson, levels, levelsOfProperties, pluginSidecarFrameLimits]
    omega
  · simp only [resultFrameJson, nodeCount, nodeCountProperties, pluginSidecarFrameLimits]
    omega
  · rw [byteLength_stringify]
    have idKey : byteLength (quoted (ascii "id")) = 4 := by decide
    have jsonrpcKey : byteLength (quoted (ascii "jsonrpc")) = 9 := by decide
    have resultKey : byteLength (quoted (ascii "result")) = 8 := by decide
    have version : byteLength (quoted (ascii "2.0")) = 5 := by decide
    simp only [resultFrameJson, jsonBytes, jsonBytesProperties, pluginSidecarFrameLimits,
      pluginSidecarFrameMaxUtf8Bytes, List.length_cons, List.length_nil, idKey, jsonrpcKey,
      resultKey, version]
    omega

end Kurobara.Plugin
