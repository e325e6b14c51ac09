import Kurobara.Foundation.PrintableText
import Kurobara.Plugin.Protocol

/-! # Sidecar frames

A message travels as the `params` or the `result` of a JSON-RPC frame, one frame a line.
`validatePluginSidecarJsonRpcFrame` validates a frame with the message inside; the host writes and
reads the lines within the limit of bytes, and so does the template of a sidecar. The visitor of
the library of lenient JSON is a parameter.
-/

namespace Kurobara.Plugin

open Foundation

/-- `PLUGIN_SIDECAR_JSON_RPC_FRAME_MAX_UTF8_BYTES`. -/
def pluginSidecarFrameMaxUtf8Bytes : ℕ := 263168

/-- `PLUGIN_SIDECAR_JSON_RPC_FRAME_MAX_DEPTH`, `PLUGIN_SIDECAR_JSON_RPC_FRAME_MAX_NODES` and the
limit of bytes. -/
def pluginSidecarFrameLimits : PluginJsonValidationLimits :=
  ⟨50, 16400, pluginSidecarFrameMaxUtf8Bytes⟩

/-! ## The schema of frames -/

/-- `/^host-call-[1-9][0-9]{0,15}$/`. -/
def isCallId (text : JsString) : Bool :=
  match text.drop 10 with
  | [] => false
  | first :: rest =>
      text.take 10 == ascii "host-call-" && (isDigitUnit first && first != 48) &&
        (decide (rest.length ≤ 15) && rest.all isDigitUnit)

/-- The schema of a call id. -/
def idSchema : JsonSchema
  | .string text => isCallId text && decide (codePointCount text ≤ 26)
  | _ => false

private def frameKeys : List JsString :=
  [ascii "jsonrpc", ascii "id", ascii "method", ascii "params", ascii "result"]

/-- The method of a frame, `plugin.${method}`. -/
def externalMethod (method : PluginProtocolMethod) : JsString :=
  ascii "plugin." ++ method.text

/-- The schema of a request frame. -/
def requestAlternative (payloads : PayloadSchemas) (method : PluginProtocolMethod) : JsonSchema :=
  .allOf [.isObject, .noAdditionalProperties frameKeys,
    .required [ascii "jsonrpc", ascii "id", ascii "method", ascii "params"],
    .properties [(ascii "jsonrpc", .constant (ascii "2.0")), (ascii "id", idSchema),
      (ascii "method", .constant (externalMethod method)),
      (ascii "params", .allOf [.isObject, messageSchema payloads,
        .properties [(ascii "direction", .constant (ascii "request")),
          (ascii "method", .constant method.text)]]),
      (ascii "result", .never)]]

/-- The schema of a result frame. -/
def resultAlternative (payloads : PayloadSchemas) : JsonSchema :=
  .allOf [.isObject, .noAdditionalProperties frameKeys,
    .required [ascii "jsonrpc", ascii "id", ascii "result"],
    .properties [(ascii "jsonrpc", .constant (ascii "2.0")), (ascii "id", idSchema),
      (ascii "method", .never), (ascii "params", .never),
      (ascii "result", .allOf [.isObject, messageSchema payloads,
        .properties [(ascii "direction", .constant (ascii "result"))]])]]

/-- `pluginSidecarJsonRpcFrameSchema`. -/
def frameSchema (payloads : PayloadSchemas) : JsonSchema :=
  .allOf [.isObject, .noAdditionalProperties frameKeys,
    .properties [(ascii "jsonrpc", .constant (ascii "2.0")), (ascii "id", idSchema),
      (ascii "method", .enumeration (pluginProtocolMethods.map externalMethod)),
      (ascii "params", messageSchema payloads), (ascii "result", messageSchema payloads)],
    .oneOf (pluginProtocolMethods.map (requestAlternative payloads) ++
      [resultAlternative payloads])]

/-! ## Validation -/

inductive PluginSidecarJsonRpcValidationReasonCode where
  | protocol (reasonCode : PluginProtocolValidationReasonCode)
  | frameInvalid
  | semanticInvalid
  deriving DecidableEq, Repr

/-- Why there is no frame: a reason, or a `TypeError`. -/
inductive PluginSidecarStop where
  | rejected (reasonCode : PluginSidecarJsonRpcValidationReasonCode)
  | thrown
  deriving DecidableEq, Repr

private def PluginProtocolStop.inFrame : PluginProtocolStop → PluginSidecarStop
  | .rejected reasonCode => .rejected (.protocol reasonCode)
  | .thrown => .thrown

def PluginJsonValue.property (key : JsString) : PluginJsonValue → Option PluginJsonValue
  | .object _ properties => properties.lookup key
  | _ => none

/-- The protocol message inside a frame. -/
def innerMessage (frame : PluginJsonValue) : Option PluginJsonValue :=
  match frame.property (ascii "params") with
  | some params => some params
  | none => frame.property (ascii "result")

/-- `validatePluginProtocolMessage` of a part of a clone. -/
def validateMessagePart (payloads : PayloadSchemas) (part : Option PluginJsonValue) :
    Except PluginProtocolStop PluginProtocolMessage :=
  match part with
  | some value =>
      validatePluginProtocolMessage payloads (cloneHeap value.toJson) (plainValue [] value.toJson)
  | none => validatePluginProtocolMessage payloads (cloneHeap .null) .undefined

def hasMethod (frame : PluginJsonValue) (method : PluginProtocolMethod) : Bool :=
  match frame.toJson.property (ascii "method") with
  | some found => JsonSchema.constant (externalMethod method) found
  | none => false

/-- The frame's method is the message's. -/
def externalMethodMatches (frame : PluginJsonValue) (message : PluginProtocolMessage) : Bool :=
  match frame.property (ascii "params") with
  | some _ => decide (message.direction = .request) && hasMethod frame message.method
  | none => decide (message.direction = .result)

def validatePluginSidecarJsonRpcFrame {Ref : Type} [DecidableEq Ref] (payloads : PayloadSchemas)
    (heap : JsHeap Ref) (candidate : JsValue Ref) : Except PluginSidecarStop PluginJsonValue :=
  match validatePluginJsonWithLimits pluginSidecarFrameLimits heap candidate with
  | .error reasonCode => .error (.rejected (.protocol (.json reasonCode)))
  | .ok snapshot =>
      if frameSchema payloads snapshot.value.toJson then
        match validateMessagePart payloads (innerMessage snapshot.value) with
        | .error stop => .error stop.inFrame
        | .ok message =>
            if externalMethodMatches snapshot.value message then .ok snapshot.value
            else .error (.rejected .semanticInvalid)
      else .error (.rejected .frameInvalid)

/-- `validatePluginSidecarJsonRpcFrame` of fresh JSON. -/
def validateFrameJson (payloads : PayloadSchemas) (json : JsonValue) :
    Except PluginSidecarStop PluginJsonValue :=
  validatePluginSidecarJsonRpcFrame payloads (cloneHeap json) (plainValue [] json)

/-! ## Frames and lines -/

/-- A protocol message. -/
def messageJson (direction : PluginProtocolDirection) (method : PluginProtocolMethod)
    (payload : JsonValue) : JsonValue :=
  .object [(ascii "apiVersion", .string pluginProtocolApiVersion),
    (ascii "direction", .string direction.text), (ascii "method", .string method.text),
    (ascii "payload", payload)]

/-- A request frame. -/
def requestFrameJson (id : JsString) (method : PluginProtocolMethod) (message : JsonValue) :
    JsonValue :=
  .object [(ascii "id", .string id), (ascii "jsonrpc", .string (ascii "2.0")),
    (ascii "method", .string (externalMethod method)), (ascii "params", message)]

/-- A result frame. -/
def resultFrameJson (id : JsString) (message : JsonValue) : JsonValue :=
  .object [(ascii "id", .string id), (ascii "jsonrpc", .string (ascii "2.0")),
    (ascii "result", message)]

/-- `JSON.stringify(frame)` with its line feed. -/
def frameText (frame : JsonValue) : JsString :=
  stringify frame ++ [10]

/-- The line a frame is written as. -/
def frameLine (frame : JsonValue) : List UInt8 :=
  bufferFrom (frameText frame)

/-! ## The host -/

/-- Why the host gives a frame up. -/
inductive PluginHostFrameError where
  | frameInvalid
  | frameLimitExceeded
  | thrown
  deriving DecidableEq, Repr

/-- `MAX_CALL_ID`. -/
def maxCallId : ℕ := 9999999999999999

/-- The id of the host's next call. -/
def hostCallId (number : ℕ) : JsString :=
  ascii "host-call-" ++ decimalDigits number

/-- `#callId`: the identifier and the next number. An operation key takes no identifier. -/
def callId (nextCallId : ℕ) (operationKey : Option JsString) :
    Except PluginHostFrameError (JsString × ℕ) :=
  if maxCallId < nextCallId then .error .frameLimitExceeded
  else if operationKey = some (hostCallId nextCallId) then
    if maxCallId < nextCallId + 1 then .error .frameLimitExceeded
    else .ok (hostCallId (nextCallId + 1), nextCallId + 2)
  else .ok (hostCallId nextCallId, nextCallId + 1)

def requestFrame (payloads : PayloadSchemas) (id : JsString) (method : PluginProtocolMethod)
    (payload : JsonValue) : Except PluginHostFrameError (List UInt8) :=
  let candidate := messageJson .request method payload
  match validatePluginProtocolMessage payloads (cloneHeap candidate) (plainValue [] candidate) with
  | .error .thrown => .error .thrown
  | .error (.rejected _) => .error .frameInvalid
  | .ok message =>
      if message.direction = .request ∧ message.method = method then
        match validateFrameJson payloads (requestFrameJson id method message.value.toJson) with
        | .error .thrown => .error .thrown
        | .error (.rejected _) => .error .frameInvalid
        | .ok frame =>
            match frame.property (ascii "params") with
            | none => .error .frameInvalid
            | some _ =>
                let serialized := frameLine frame.toJson
                if pluginSidecarFrameMaxUtf8Bytes + 1 < serialized.length then
                  .error .frameLimitExceeded
                else .ok serialized
      else .error .frameInvalid

/-- What the host has of the chunks of `stdout`. -/
def collectStdout : List UInt8 → List (List UInt8) → Except PluginHostFrameError (List UInt8)
  | collected, [] => .ok collected
  | collected, chunk :: rest =>
      if pluginSidecarFrameMaxUtf8Bytes + 1 < collected.length + chunk.length then
        .error .frameLimitExceeded
      else collectStdout (collected ++ chunk) rest

/-- What `visit` of the library reports to the callbacks of `parseStrictJson`. -/
inductive VisitorEvent where
  | error
  | objectBegin
  | objectEnd
  | objectProperty (property : JsString)

/-- What the duplicate-key visitor has seen. -/
structure VisitorState where
  objectProperties : List (List JsString)
  invalid : Bool

def VisitorState.after (state : VisitorState) : VisitorEvent → VisitorState
  | .error => { state with invalid := true }
  | .objectBegin => { state with objectProperties := [] :: state.objectProperties }
  | .objectEnd =>
      match state.objectProperties with
      | [] => { state with invalid := true }
      | _ :: outer => { state with objectProperties := outer }
  | .objectProperty property =>
      match state.objectProperties with
      | [] => { state with invalid := true }
      | properties :: outer =>
          if properties.contains property then { state with invalid := true }
          else { state with objectProperties := (property :: properties) :: outer }

/-- `parseStrictJson` of the host. -/
def parseHostJson (visit : JsString → List VisitorEvent) (source : JsString) : Option JsonValue :=
  let state := (visit source).foldl VisitorState.after ⟨[], false⟩
  if state.invalid || !state.objectProperties.isEmpty then none else parseJson source

/-- The bytes of a line without its line feed, if they are one line without a mark. -/
def frameBody (bytes : List UInt8) : Except PluginHostFrameError (List UInt8) :=
  let body := bytes.dropLast
  if bytes.length < 2 ∨ pluginSidecarFrameMaxUtf8Bytes + 1 < bytes.length ∨
      bytes.getLast? ≠ some 10 then
    .error (if pluginSidecarFrameMaxUtf8Bytes + 1 < bytes.length then .frameLimitExceeded
      else .frameInvalid)
  else if body.length = 0 ∨ pluginSidecarFrameMaxUtf8Bytes < body.length ∨ 10 ∈ body ∨ 13 ∈ body ∨
      body.take 3 = [0xEF, 0xBB, 0xBF] then
    .error (if pluginSidecarFrameMaxUtf8Bytes < body.length then .frameLimitExceeded
      else .frameInvalid)
  else .ok body

/-- The payload of a frame that answers a call. -/
def responsePayload (payloads : PayloadSchemas) (parsed : JsonValue) (id : JsString)
    (method : PluginProtocolMethod) : Except PluginHostFrameError JsonValue :=
  match validateFrameJson payloads parsed with
  | .error .thrown => .error .thrown
  | .error (.rejected _) => .error .frameInvalid
  | .ok frame =>
      match frame.property (ascii "result") with
      | none => .error .frameInvalid
      | some result =>
          if (frame.toJson.property (ascii "id")).any (JsonSchema.constant id) then
            match validateMessagePart payloads (some result) with
            | .error .thrown => .error .thrown
            | .error (.rejected _) => .error .frameInvalid
            | .ok message =>
                if message.direction = .result ∧ message.method = method then .ok message.payload
                else .error .frameInvalid
          else .error .frameInvalid

def parseResponseFrame (visit : JsString → List VisitorEvent) (payloads : PayloadSchemas)
    (bytes : List UInt8) (id : JsString) (method : PluginProtocolMethod) :
    Except PluginHostFrameError JsonValue :=
  (frameBody bytes).bind fun body =>
    match ((decodedText body).map utf16).bind (parseHostJson visit) with
    | none => .error .frameInvalid
    | some parsed => responsePayload payloads parsed id method

/-! ## The template of a sidecar -/

/-- `readFrame`: the only line that is not empty. -/
def readFrame (text : JsString) : Option JsonValue :=
  match (text.splitOn 10).filter fun line => decide (0 < line.length) with
  | [line] => parseJson line
  | _ => none

end Kurobara.Plugin
