import Kurobara.Foundation.CountText
import Kurobara.Foundation.JsonSchema
import Kurobara.Plugin.Json

/-! # The plugin protocol

`validatePluginProtocolMessage`: a candidate is cloned within the limits of an envelope, tested by
the schema of messages, and the JSON embedded in its payload is validated by itself. The schemas of
the sixteen payloads are parameters.
-/

namespace Kurobara.Plugin

open Foundation

/-- The methods of the protocol. -/
inductive PluginProtocolMethod where
  | describe
  | validateConfig
  | estimate
  | execute
  | lookup
  | normalize
  | health
  | classifyError
  deriving DecidableEq, Repr

def PluginProtocolMethod.text : PluginProtocolMethod → JsString
  | .describe => ascii "describe"
  | .validateConfig => ascii "validateConfig"
  | .estimate => ascii "estimate"
  | .execute => ascii "execute"
  | .lookup => ascii "lookup"
  | .normalize => ascii "normalize"
  | .health => ascii "health"
  | .classifyError => ascii "classifyError"

def pluginProtocolMethods : List PluginProtocolMethod :=
  [.describe, .validateConfig, .estimate, .execute, .lookup, .normalize, .health, .classifyError]

inductive PluginProtocolDirection where
  | request
  | result
  deriving DecidableEq, Repr

def PluginProtocolDirection.text : PluginProtocolDirection → JsString
  | .request => ascii "request"
  | .result => ascii "result"

/-- `PLUGIN_PROTOCOL_API_VERSION`. -/
def pluginProtocolApiVersion : JsString :=
  ascii "dev.kurobara.plugin-protocol/v1"

/-- `PLUGIN_PROTOCOL_ENVELOPE_MAX_DEPTH`, `PLUGIN_PROTOCOL_ENVELOPE_MAX_NODES` and
`PLUGIN_PROTOCOL_ENVELOPE_MAX_UTF8_BYTES`. -/
def pluginProtocolEnvelopeLimits : PluginJsonValidationLimits :=
  ⟨48, 16384, 262144⟩

/-! ## The schema of messages -/

/-- The schemas that a request and a result of each method refer to. -/
abbrev PayloadSchemas := PluginProtocolDirection → PluginProtocolMethod → JsonSchema

private def messageKeys : List JsString :=
  [ascii "apiVersion", ascii "direction", ascii "method", ascii "payload"]

/-- What the alternative of a direction and a method says of the four properties. -/
def messageProperties (payloads : PayloadSchemas) (direction : PluginProtocolDirection)
    (method : PluginProtocolMethod) : List (JsString × JsonSchema) :=
  [(ascii "apiVersion", .constant pluginProtocolApiVersion),
    (ascii "direction", .constant direction.text),
    (ascii "method", .constant method.text),
    (ascii "payload", payloads direction method)]

/-- The schema of a message of one direction and method. -/
def messageAlternative (payloads : PayloadSchemas) (direction : PluginProtocolDirection)
    (method : PluginProtocolMethod) : JsonSchema :=
  .allOf [.isObject, .noAdditionalProperties messageKeys, .required messageKeys,
    .properties (messageProperties payloads direction method)]

/-- The schemas of all messages. -/
def messageAlternatives (payloads : PayloadSchemas) : List JsonSchema :=
  pluginProtocolMethods.flatMap fun method =>
    [messageAlternative payloads .request method, messageAlternative payloads .result method]

/-- `pluginProtocolMessageSchema`. -/
def messageSchema (payloads : PayloadSchemas) : JsonSchema :=
  .allOf [.isObject, .noAdditionalProperties messageKeys, .required messageKeys,
    .properties [(ascii "apiVersion", .constant pluginProtocolApiVersion),
      (ascii "direction", .enumeration [ascii "request", ascii "result"]),
      (ascii "method", .enumeration (pluginProtocolMethods.map PluginProtocolMethod.text)),
      (ascii "payload", .isObject)],
    .oneOf (messageAlternatives payloads)]

/-! ## Messages -/

/-- A frozen message, as its type reads it. -/
structure PluginProtocolMessage where
  direction : PluginProtocolDirection
  method : PluginProtocolMethod
  payload : JsonValue
  value : PluginJsonValue

def readDirection (json : JsonValue) : Option PluginProtocolDirection :=
  [PluginProtocolDirection.request, .result].find? fun direction =>
    JsonSchema.constant direction.text json

def readMethod (json : JsonValue) : Option PluginProtocolMethod :=
  pluginProtocolMethods.find? fun method => JsonSchema.constant method.text json

/-- The parts of a message that was validated. -/
def readMessage (value : PluginJsonValue) : Option PluginProtocolMessage := do
  let direction ← (value.toJson.property (ascii "direction")).bind readDirection
  let method ← (value.toJson.property (ascii "method")).bind readMethod
  let payload ← value.toJson.property (ascii "payload")
  some ⟨direction, method, payload, value⟩

/-- `validateSchema`, a guard of the type of messages. -/
def validateSchema (payloads : PayloadSchemas) (value : PluginJsonValue) :
    Option PluginProtocolMessage :=
  if messageSchema payloads value.toJson then readMessage value else none

/-! ## Embedded JSON -/

/-- A property that is absent is `undefined`. -/
structure EmbeddedJson where
  expectedSizeBytes : Option JsonValue
  value : Option JsonValue

def configurationValue (context : JsonValue) : Option EmbeddedJson := do
  let configuration ← context.property (ascii "configuration")
  some ⟨none, configuration.property (ascii "value")⟩

def inputValue (input : JsonValue) : EmbeddedJson :=
  ⟨input.property (ascii "sizeBytes"), input.property (ascii "value")⟩

private def hasStatus (payload : JsonValue) (status : String) : Bool :=
  match payload.property (ascii "status") with
  | some found => JsonSchema.constant (ascii status) found
  | none => false

/-- Without an answer where a property of an absent value is read. -/
def embeddedJsonValues (message : PluginProtocolMessage) : Option (List EmbeddedJson) :=
  match message.direction with
  | .request =>
      match message.method with
      | .classifyError | .health | .lookup => do
          let context ← message.payload.property (ascii "context")
          some [← configurationValue context]
      | .estimate | .execute => do
          let context ← message.payload.property (ascii "context")
          let configuration ← configurationValue context
          let input ← message.payload.property (ascii "input")
          some [configuration, inputValue input]
      | .normalize => do
          let context ← message.payload.property (ascii "context")
          let configuration ← configurationValue context
          some [configuration, ⟨none, message.payload.property (ascii "providerPayload")⟩]
      | .validateConfig => do
          let configuration ← message.payload.property (ascii "configuration")
          some [⟨none, configuration.property (ascii "value")⟩]
      | .describe => some []
  | .result =>
      match message.method with
      | .execute =>
          if hasStatus message.payload "succeeded" then
            some [⟨none, message.payload.property (ascii "providerPayload")⟩]
          else some []
      | .lookup =>
          if hasStatus message.payload "found" then do
            let outcome ← message.payload.property (ascii "outcome")
            if hasStatus outcome "succeeded" then
              some [⟨none, outcome.property (ascii "providerPayload")⟩]
            else some []
          else some []
      | .normalize =>
          if hasStatus message.payload "normalized" then
            some [⟨none, message.payload.property (ascii "output")⟩]
          else some []
      | .classifyError | .describe | .estimate | .health | .validateConfig => some []

inductive PluginProtocolValidationReasonCode where
  | json (reasonCode : PluginJsonValidationReasonCode)
  | messageInvalid
  | semanticInvalid
  deriving DecidableEq, Repr

/-- Why there is no message: a reason, or a `TypeError`. -/
inductive PluginProtocolStop where
  | rejected (reasonCode : PluginProtocolValidationReasonCode)
  | thrown
  deriving DecidableEq, Repr

/-- `validatePluginJson` of a part of a clone. -/
def validateJsonPart (part : Option JsonValue) :
    Except PluginJsonValidationReasonCode ValidatedPluginJson :=
  match part with
  | some json => validatePluginJson (cloneHeap json) (plainValue [] json)
  | none => validatePluginJson (cloneHeap .null) .undefined

/-- `expectedSizeBytes !== sizeBytes`. -/
def differsFrom (expectedSizeBytes : JsonValue) (sizeBytes : ℕ) : Bool :=
  match expectedSizeBytes with
  | .number (.finite expected) => expected != Double.ofCount sizeBytes
  | _ => true

private def embeddedReason (embedded : EmbeddedJson) : Option PluginProtocolValidationReasonCode :=
  match validateJsonPart embedded.value with
  | .error reasonCode => some (.json reasonCode)
  | .ok validated =>
      match embedded.expectedSizeBytes with
      | none => none
      | some expected =>
          if differsFrom expected validated.sizeBytes then some .semanticInvalid else none

/-- The embedded JSON values have the size they state. -/
def validateEmbeddedJson (message : PluginProtocolMessage) : Except PluginProtocolStop Unit :=
  match embeddedJsonValues message with
  | none => .error .thrown
  | some embedded =>
      match embedded.findSome? embeddedReason with
      | some reasonCode => .error (.rejected reasonCode)
      | none => .ok ()

/-! ## Validation -/

/-- What `validatePluginProtocolMessage` does with the clone of its candidate. -/
def checkMessage (payloads : PayloadSchemas) (value : PluginJsonValue) :
    Except PluginProtocolStop PluginProtocolMessage :=
  match validateSchema payloads value with
  | none => .error (.rejected .messageInvalid)
  | some message => (validateEmbeddedJson message).map fun _ => message

def validatePluginProtocolMessage {Ref : Type} [DecidableEq Ref] (payloads : PayloadSchemas)
    (heap : JsHeap Ref) (candidate : JsValue Ref) :
    Except PluginProtocolStop PluginProtocolMessage :=
  match validatePluginJsonWithLimits pluginProtocolEnvelopeLimits heap candidate with
  | .error reasonCode => .error (.rejected (.json reasonCode))
  | .ok snapshot => checkMessage payloads snapshot.value

end Kurobara.Plugin
