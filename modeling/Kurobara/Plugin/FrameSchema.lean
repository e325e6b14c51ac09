import Kurobara.Plugin.JsonExactness
import Kurobara.Plugin.Sidecar

/-! # Frames around messages satisfy their schema

An accepted message says its direction and its method in its properties. Of the nine alternatives
of a frame exactly one fits a frame around it.
-/

namespace Kurobara.Plugin

open Foundation

/-! ## What an accepted message says -/

private theorem directionText_injective {first second : PluginProtocolDirection}
    (same : first.text = second.text) : first = second := by
  revert same
  cases first <;> cases second <;> decide

private theorem methodText_injective {first second : PluginProtocolMethod}
    (same : first.text = second.text) : first = second := by
  revert same
  cases first <;> cases second <;> decide

private theorem readDirection_some {json : JsonValue} {direction : PluginProtocolDirection}
    (read : readDirection json = some direction) : json = .string direction.text := by
  have found := List.find?_some read
  exact constant_iff.mp found

private theorem readMethod_some {json : JsonValue} {method : PluginProtocolMethod}
    (read : readMethod json = some method) : json = .string method.text := by
  have found := List.find?_some read
  exact constant_iff.mp found

/-- What a message says of itself. -/
structure StatesMessage (value : PluginJsonValue) (message : PluginProtocolMessage) : Prop where
  direction : value.toJson.property (ascii "direction") = some (.string message.direction.text)
  method : value.toJson.property (ascii "method") = some (.string message.method.text)
  payload : value.toJson.property (ascii "payload") = some message.payload
  value : message.value = value

private theorem readMessage_some {value : PluginJsonValue} {message : PluginProtocolMessage}
    (read : readMessage value = some message) : StatesMessage value message := by
  obtain ⟨direction, said, read⟩ := Option.bind_eq_some_iff.mp read
  obtain ⟨method, named, read⟩ := Option.bind_eq_some_iff.mp read
  obtain ⟨payload, found, read⟩ := Option.bind_eq_some_iff.mp read
  obtain ⟨first, has, isDirection⟩ := Option.bind_eq_some_iff.mp said
  obtain ⟨second, holds, isMethod⟩ := Option.bind_eq_some_iff.mp named
  cases read
  exact ⟨readDirection_some isDirection ▸ has, readMethod_some isMethod ▸ holds, found, rfl⟩

/-- An accepted clone: it satisfies the schema, and its embedded JSON is valid. -/
structure ChecksMessage (payloads : PayloadSchemas) (value : PluginJsonValue)
    (message : PluginProtocolMessage) : Prop where
  schema : messageSchema payloads value.toJson = true
  states : StatesMessage value message
  embedded : validateEmbeddedJson message = .ok ()

theorem checkMessage_ok {payloads : PayloadSchemas} {value : PluginJsonValue}
    {message : PluginProtocolMessage} (checked : checkMessage payloads value = .ok message) :
    ChecksMessage payloads value message := by
  unfold checkMessage at checked
  split at checked
  · cases checked
  · rename_i read guarded
    obtain ⟨_, embedded, same⟩ := map_eq_ok.mp checked
    subst same
    unfold validateSchema at guarded
    split_ifs at guarded with schema
    exact ⟨schema, readMessage_some guarded, embedded⟩

variable {payloads : PayloadSchemas}

private theorem messageAlternatives_mem {schema : JsonSchema}
    (member : schema ∈ messageAlternatives payloads) :
    ∃ direction method, schema = messageAlternative payloads direction method := by
  obtain ⟨method, _, either⟩ := List.mem_flatMap.mp member
  rcases List.mem_cons.mp either with rfl | other
  · exact ⟨.request, method, rfl⟩
  · exact ⟨.result, method, List.mem_singleton.mp other⟩

/-- The alternative that a message satisfies is that of its direction and its method. -/
theorem StatesMessage.alternative {value : PluginJsonValue} {message : PluginProtocolMessage}
    (states : StatesMessage value message) (accepted : messageSchema payloads value.toJson = true) :
    JsonSchema.isObject value.toJson = true ∧
      JsonSchema.properties (messageProperties payloads message.direction message.method)
        value.toJson = true := by
  simp only [messageSchema, allOf_cons, allOf_nil, Bool.and_true, Bool.and_eq_true] at accepted
  obtain ⟨object, _, _, _, alternatives⟩ := accepted
  obtain ⟨schema, member, satisfied⟩ := oneOf_exists alternatives
  obtain ⟨direction, method, rfl⟩ := messageAlternatives_mem member
  simp only [messageAlternative, allOf_cons, allOf_nil, Bool.and_true, Bool.and_eq_true]
    at satisfied
  obtain ⟨_, _, _, properties⟩ := satisfied
  have sameDirection := properties_lookup properties (ascii "direction") rfl states.direction
  have sameMethod := properties_lookup properties (ascii "method") rfl states.method
  obtain rfl := directionText_injective (JsonValue.string.inj (constant_iff.mp sameDirection))
  obtain rfl := methodText_injective (JsonValue.string.inj (constant_iff.mp sameMethod))
  exact ⟨object, properties⟩

/-! ## The alternatives of a frame -/

/-- What a request alternative asks of the message inside. -/
def requestMessage (payloads : PayloadSchemas) (method : PluginProtocolMethod) : JsonSchema :=
  .allOf [.isObject, messageSchema payloads,
    .properties [(ascii "direction", .constant (ascii "request")),
      (ascii "method", .constant method.text)]]

private def resultMessage (payloads : PayloadSchemas) : JsonSchema :=
  .allOf [.isObject, messageSchema payloads,
    .properties [(ascii "direction", .constant (ascii "result"))]]

private theorem requestAlternative_request (other method : PluginProtocolMethod) (id : JsString)
    (message : JsonValue) :
    requestAlternative payloads other (requestFrameJson id method message) =
      (idSchema (.string id) && ((externalMethod method == externalMethod other) &&
        requestMessage payloads other message)) :=
  calc requestAlternative payloads other (requestFrameJson id method message)
      = (true && (true && (true && ((idSchema (.string id) && (true &&
          ((externalMethod method == externalMethod other) &&
            (requestMessage payloads other message && true)))) && true)))) := rfl
    _ = _ := by simp only [Bool.true_and, Bool.and_true]

private theorem resultAlternative_request (method : PluginProtocolMethod) (id : JsString)
    (message : JsonValue) :
    resultAlternative payloads (requestFrameJson id method message) = false := by
  have lacks : JsonSchema.required [ascii "jsonrpc", ascii "id", ascii "result"]
      (requestFrameJson id method message) = false := rfl
  rw [resultAlternative, allOf_cons, allOf_cons, allOf_cons, lacks, Bool.false_and, Bool.and_false,
    Bool.and_false]

private theorem requestAlternative_result (other : PluginProtocolMethod) (id : JsString)
    (message : JsonValue) :
    requestAlternative payloads other (resultFrameJson id message) = false := by
  have lacks : JsonSchema.required [ascii "jsonrpc", ascii "id", ascii "method", ascii "params"]
      (resultFrameJson id message) = false := rfl
  rw [requestAlternative, allOf_cons, allOf_cons, allOf_cons, lacks, Bool.false_and,
    Bool.and_false, Bool.and_false]

private theorem resultAlternative_result (id : JsString) (message : JsonValue) :
    resultAlternative payloads (resultFrameJson id message) =
      (idSchema (.string id) && resultMessage payloads message) :=
  calc resultAlternative payloads (resultFrameJson id message)
      = (true && (true && (true && ((idSchema (.string id) && (true &&
          (resultMessage payloads message && true))) && true)))) := rfl
    _ = _ := by simp only [Bool.true_and, Bool.and_true]

private theorem externalMethod_injective {first second : PluginProtocolMethod}
    (same : externalMethod first = externalMethod second) : first = second :=
  methodText_injective (List.append_cancel_left same)

private theorem methods_countP (method : PluginProtocolMethod) :
    (pluginProtocolMethods.countP fun other => decide (other = method)) = 1 := by
  cases method <;> decide

section

variable {value : PluginJsonValue} {message : PluginProtocolMessage}
  (states : StatesMessage value message) (accepted : messageSchema payloads value.toJson = true)
include states accepted

private theorem requestMessage_accepts (isRequest : message.direction = .request) :
    requestMessage payloads message.method value.toJson = true := by
  obtain ⟨object, properties⟩ := states.alternative accepted
  rw [requestMessage, allOf_cons, allOf_cons, allOf_cons, allOf_nil, object, accepted,
    properties_fewer _ properties]
  · rfl
  · rw [isRequest]
    exact List.forall_mem_cons.mpr ⟨rfl, List.forall_mem_singleton.mpr rfl⟩

private theorem resultMessage_accepts (isResult : message.direction = .result) :
    resultMessage payloads value.toJson = true := by
  obtain ⟨object, properties⟩ := states.alternative accepted
  rw [resultMessage, allOf_cons, allOf_cons, allOf_cons, allOf_nil, object, accepted,
    properties_fewer _ properties]
  · rfl
  · rw [isResult]
    exact List.forall_mem_singleton.mpr rfl

/-- **A request frame around an accepted request satisfies the schema.** -/
theorem frameSchema_request (isRequest : message.direction = .request) {id : JsString}
    (admissible : idSchema (.string id) = true) :
    frameSchema payloads (requestFrameJson id message.method value.toJson) = true := by
  have inside := requestMessage_accepts states accepted isRequest
  have others : ∀ other ∈ pluginProtocolMethods,
      requestAlternative payloads other (requestFrameJson id message.method value.toJson) =
        decide (other = message.method) := by
    intro other _
    rw [requestAlternative_request, admissible, Bool.true_and]
    by_cases same : other = message.method
    · rw [same, inside, beq_self_eq_true, decide_eq_true rfl]
      rfl
    · rw [beq_false_of_ne fun equal => same (externalMethod_injective equal).symm,
        decide_eq_false same, Bool.false_and]
  have alternatives : JsonSchema.oneOf (pluginProtocolMethods.map (requestAlternative payloads) ++
      [resultAlternative payloads]) (requestFrameJson id message.method value.toJson) = true := by
    rw [JsonSchema.oneOf, List.countP_append, List.countP_map, List.countP_singleton,
      resultAlternative_request, if_neg Bool.false_ne_true]
    refine beq_iff_eq.mpr (Eq.trans (List.countP_congr fun other member => ?_)
      (methods_countP message.method))
    rw [Function.comp_apply, others other member]
  have methods : JsonSchema.enumeration (pluginProtocolMethods.map externalMethod)
      (.string (externalMethod message.method)) = true := by
    cases message.method <;> decide
  rw [frameSchema, allOf_cons, allOf_cons, allOf_cons, allOf_cons, allOf_nil, alternatives]
  change (true && (true && ((idSchema (.string id) && (true && (JsonSchema.enumeration
    (pluginProtocolMethods.map externalMethod) (.string (externalMethod message.method)) &&
      (messageSchema payloads value.toJson && true)))) && (true && true)))) = true
  rw [admissible, methods, accepted]
  rfl

/-- **A result frame around an accepted result satisfies the schema.** -/
theorem frameSchema_result (isResult : message.direction = .result) {id : JsString}
    (admissible : idSchema (.string id) = true) :
    frameSchema payloads (resultFrameJson id value.toJson) = true := by
  have inside := resultMessage_accepts states accepted isResult
  have alternatives : JsonSchema.oneOf (pluginProtocolMethods.map (requestAlternative payloads) ++
      [resultAlternative payloads]) (resultFrameJson id value.toJson) = true := by
    rw [JsonSchema.oneOf, List.countP_append, List.countP_map, List.countP_singleton,
      resultAlternative_result, admissible, inside]
    refine beq_iff_eq.mpr ?_
    rw [List.countP_eq_zero.mpr fun other _ => ?_]
    · rfl
    · rw [Function.comp_apply, requestAlternative_result]
      exact Bool.false_ne_true
  rw [frameSchema, allOf_cons, allOf_cons, allOf_cons, allOf_cons, allOf_nil, alternatives]
  change (true && (true && ((idSchema (.string id) && (true &&
    (messageSchema payloads value.toJson && true))) && (true && true)))) = true
  rw [admissible, accepted]
  rfl

end

end Kurobara.Plugin
