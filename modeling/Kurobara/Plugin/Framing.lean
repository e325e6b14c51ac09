import Kurobara.Foundation.JsonWriting
import Kurobara.Plugin.FrameLimits

/-! # Framing loses no message

A frame around an accepted message is accepted and gives the message back, and its line is within
the limit of bytes. The host writes the line of every accepted request, the template reads it, and
the host reads the line of every accepted result, in whatever chunks it comes.
-/

namespace Kurobara.Plugin

open Foundation

/-! ## Accepted messages -/

section

variable {Ref : Type} [DecidableEq Ref] {payloads : PayloadSchemas} {heap : JsHeap Ref}
  {candidate : JsValue Ref} {message : PluginProtocolMessage}

/-- What the acceptance of a message says of it. -/
structure Accepts (payloads : PayloadSchemas) (message : PluginProtocolMessage) : Prop where
  checks : ChecksMessage payloads message.value message
  isJson : IsJson message.value.toJson
  within : WithinPluginLimits pluginProtocolEnvelopeLimits message.value.toJson
  frozen : isDeeplyFrozen message.value = true
  again : validatePluginProtocolMessage payloads (cloneHeap message.value.toJson)
    (plainValue [] message.value.toJson) = .ok message

private theorem accepts_of_validated
    (accepted : validatePluginProtocolMessage payloads heap candidate = .ok message) :
    Accepts payloads message := by
  unfold validatePluginProtocolMessage at accepted
  split at accepted
  · cases accepted
  · rename_i snapshot cloned
    obtain ⟨inert, within, _, frozen⟩ := validatePluginJson_sound _ _ _ cloned
    have checks := checkMessage_ok accepted
    have same := checks.states.value
    have again : validatePluginProtocolMessage payloads (cloneHeap snapshot.value.toJson)
        (plainValue [] snapshot.value.toJson) = .ok message := by
      unfold validatePluginProtocolMessage
      rw [validatePluginJson_again _ _ _ cloned]
      exact accepted
    rw [← same] at checks inert within frozen again
    exact ⟨checks, inert.isJson, within, frozen, again⟩

end

/-! ## Properties of clones -/

private theorem lookup_toJson (key : JsString) (properties : List (JsString × PluginJsonValue)) :
    (properties.lookup key).map PluginJsonValue.toJson =
      (propertiesToJson properties).lookup key := by
  induction properties with
  | nil => rfl
  | cons property rest ih =>
      obtain ⟨name, value⟩ := property
      rw [propertiesToJson, List.lookup_cons, List.lookup_cons]
      split
      · rfl
      · exact ih

private theorem property_toJson (value : PluginJsonValue) (key : JsString) :
    (value.property key).map PluginJsonValue.toJson = value.toJson.property key := by
  cases value with
  | object frozen properties => exact lookup_toJson key properties
  | _ => rfl

private theorem lookup_isFrozen {properties : List (JsString × PluginJsonValue)}
    (frozen : propertiesAreFrozen properties = true) {key : JsString} {value : PluginJsonValue}
    (found : properties.lookup key = some value) : isDeeplyFrozen value = true := by
  induction properties with
  | nil => cases found
  | cons property rest ih =>
      obtain ⟨name, first⟩ := property
      rw [propertiesAreFrozen, Bool.and_eq_true] at frozen
      rw [List.lookup_cons] at found
      split at found
      · exact Option.some.inj found ▸ frozen.1
      · exact ih frozen.2 found

/-- A part of a frozen clone is known by its JSON. -/
theorem property_eq {frame value : PluginJsonValue} (frozen : isDeeplyFrozen frame = true)
    (valueFrozen : isDeeplyFrozen value = true) {key : JsString}
    (has : frame.toJson.property key = some value.toJson) : frame.property key = some value := by
  rw [← property_toJson, Option.map_eq_some_iff] at has
  obtain ⟨found, here, same⟩ := has
  have foundFrozen : isDeeplyFrozen found = true := by
    cases frame with
    | object top properties =>
        rw [isDeeplyFrozen, Bool.and_eq_true] at frozen
        exact lookup_isFrozen frozen.2 here
    | _ => cases here
  rw [here, eq_of_toJson foundFrozen valueFrozen same]

private theorem property_none {frame : PluginJsonValue} {key : JsString}
    (lacks : frame.toJson.property key = none) : frame.property key = none := by
  rwa [← property_toJson, Option.map_eq_none_iff] at lacks

/-! ## Accepted frames -/

section

variable {Ref : Type} [DecidableEq Ref] {payloads : PayloadSchemas} {heap : JsHeap Ref}
  {wrapped : JsValue Ref} {message : PluginProtocolMessage} {id : JsString}

/-- A frame with its message inside. -/
structure Frames (frame : PluginJsonValue) (json : JsonValue) (message : PluginProtocolMessage) :
    Prop where
  json : frame.toJson = json
  frozen : isDeeplyFrozen frame = true
  inner : innerMessage frame = some message.value

private theorem validateMessagePart_accepts (accepts : Accepts payloads message) :
    validateMessagePart payloads (some message.value) = .ok message :=
  accepts.again

private theorem requestFrame_isJson (id : JsString) (method : PluginProtocolMethod)
    {message : JsonValue}
    (isJson : IsJson message) : IsJson (requestFrameJson id method message) := by
  have distinct : [ascii "id", ascii "jsonrpc", ascii "method", ascii "params"].Nodup := by decide
  refine .object _ distinct ?_
  simp only [List.forall_mem_cons]
  exact ⟨.string id, .string _, .string _, isJson, List.forall_mem_nil _⟩

private theorem resultFrame_isJson (id : JsString) {message : JsonValue} (isJson : IsJson message) :
    IsJson (resultFrameJson id message) := by
  have distinct : [ascii "id", ascii "jsonrpc", ascii "result"].Nodup := by decide
  refine .object _ distinct ?_
  simp only [List.forall_mem_cons]
  exact ⟨.string id, .string _, isJson, List.forall_mem_nil _⟩

/-- **A request frame around an accepted request is accepted, with the message inside.** -/
theorem requestFrame_accepts (accepts : Accepts payloads message)
    (isRequest : message.direction = .request) (admissible : idSchema (.string id) = true)
    (inert : Inert heap wrapped (requestFrameJson id message.method message.value.toJson)) :
    ∃ frame, validatePluginSidecarJsonRpcFrame payloads heap wrapped = .ok frame ∧
      Frames frame (requestFrameJson id message.method message.value.toJson) message := by
  have within := requestFrame_within admissible message.method accepts.within
  have schema := frameSchema_request accepts.checks.states accepts.checks.schema isRequest
    admissible
  obtain ⟨snapshot, cloned, json⟩ := validatePluginJson_complete _ _ _ inert within
  obtain ⟨_, _, _, frozen⟩ := validatePluginJson_sound _ _ _ cloned
  have params : snapshot.value.property (ascii "params") = some message.value :=
    property_eq frozen accepts.frozen (by rw [json]; rfl)
  have inner : innerMessage snapshot.value = some message.value := by
    rw [innerMessage, params]
  have named : hasMethod snapshot.value message.method = true := by
    rw [hasMethod, json]
    exact constant_iff.mpr rfl
  refine ⟨snapshot.value, ?_, json, frozen, inner⟩
  unfold validatePluginSidecarJsonRpcFrame
  rw [cloned]
  dsimp only
  rw [json, if_pos schema, inner, validateMessagePart_accepts accepts]
  dsimp only
  rw [externalMethodMatches, params]
  dsimp only
  rw [isRequest, named]
  rfl

/-- **A result frame around an accepted result is accepted, with the message inside.** -/
theorem resultFrame_accepts (accepts : Accepts payloads message)
    (isResult : message.direction = .result) (admissible : idSchema (.string id) = true)
    (inert : Inert heap wrapped (resultFrameJson id message.value.toJson)) :
    ∃ frame, validatePluginSidecarJsonRpcFrame payloads heap wrapped = .ok frame ∧
      Frames frame (resultFrameJson id message.value.toJson) message := by
  have within := resultFrame_within admissible accepts.within
  have schema := frameSchema_result accepts.checks.states accepts.checks.schema isResult admissible
  obtain ⟨snapshot, cloned, json⟩ := validatePluginJson_complete _ _ _ inert within
  obtain ⟨_, _, _, frozen⟩ := validatePluginJson_sound _ _ _ cloned
  have result : snapshot.value.property (ascii "result") = some message.value :=
    property_eq frozen accepts.frozen (by rw [json]; rfl)
  have noParams : snapshot.value.property (ascii "params") = none :=
    property_none (by rw [json]; rfl)
  have inner : innerMessage snapshot.value = some message.value := by
    rw [innerMessage, noParams]
    exact result
  refine ⟨snapshot.value, ?_, json, frozen, inner⟩
  unfold validatePluginSidecarJsonRpcFrame
  rw [cloned]
  dsimp only
  rw [json, if_pos schema, inner, validateMessagePart_accepts accepts]
  dsimp only
  rw [externalMethodMatches, noParams]
  dsimp only
  rw [isResult]
  rfl

end

/-! ## Lines -/

private theorem frameLine_isLine (frame : JsonValue) :
    ∃ written, IsLine (stringify frame) written ∧ frameLine frame = utf8 written ++ [10] := by
  obtain ⟨written, line⟩ := (printable_stringify frame).isLine
  exact ⟨written, line, line.withFeed⟩

private theorem frameLine_length (frame : JsonValue) :
    (frameLine frame).length = byteLength (stringify frame) + 1 := by
  obtain ⟨written, line, bytes⟩ := frameLine_isLine frame
  rw [bytes, List.length_append, line.length, List.length_singleton]

private theorem frameLine_within {frame : JsonValue}
    (within : WithinPluginLimits pluginSidecarFrameLimits frame) :
    (frameLine frame).length ≤ pluginSidecarFrameMaxUtf8Bytes + 1 := by
  have bytes : (byteLength (stringify frame) : ℤ) ≤ (pluginSidecarFrameMaxUtf8Bytes : ℤ) :=
    within.bytes
  rw [frameLine_length]
  omega

/-- The template reads the frame of a line. -/
theorem readFrame_frameText {frame : JsonValue} (isJson : IsJson frame) :
    readFrame (frameText frame) = some frame := by
  obtain ⟨written, line⟩ := (printable_stringify frame).isLine
  obtain ⟨unit, rest, begins, _⟩ := (stringify_begins isJson).begins
  have lines : (frameText frame).splitOn 10 = [stringify frame, []] := by
    rw [frameText, List.splitOn_append_cons_self, List.splitOn_eq_singleton line.noFeed,
      List.splitOn_nil]
    rfl
  have only : [stringify frame, []].filter (fun line : JsString => decide (0 < line.length)) =
      [stringify frame] := by
    rw [begins]
    rfl
  rw [readFrame, lines, only]
  exact parseJson_stringify isJson

/-- **The host has every chunk of a stream within the limit.** -/
theorem collectStdout_within (chunks : List (List UInt8)) (collected : List UInt8)
    (within : (collected ++ chunks.flatten).length ≤ pluginSidecarFrameMaxUtf8Bytes + 1) :
    collectStdout collected chunks = .ok (collected ++ chunks.flatten) := by
  induction chunks generalizing collected with
  | nil => rw [collectStdout, List.flatten_nil, List.append_nil]
  | cons chunk rest ih =>
      rw [List.flatten_cons, ← List.append_assoc] at within ⊢
      have here := within
      rw [List.length_append, List.length_append] at here
      rw [collectStdout, if_neg (by omega), ih _ within]

/-! ## The host writes -/

/-- **The host writes the line of every accepted request of its own.** -/
theorem requestFrame_ok {payloads : PayloadSchemas} {message : PluginProtocolMessage}
    {id : JsString} (accepts : Accepts payloads message) (isRequest : message.direction = .request)
    (admissible : idSchema (.string id) = true)
    (own : message.value.toJson = messageJson .request message.method message.payload) :
    requestFrame payloads id message.method message.payload =
      .ok (frameLine (requestFrameJson id message.method message.value.toJson)) := by
  have within := requestFrame_within admissible message.method accepts.within
  have short := frameLine_within within
  have isJson := (requestFrame_isJson id message.method accepts.isJson)
  obtain ⟨frame, accepted, frames⟩ := requestFrame_accepts accepts isRequest admissible
    (inert_cloneHeap isJson)
  have params : frame.property (ascii "params") = some message.value :=
    property_eq frames.frozen accepts.frozen (by rw [frames.json]; rfl)
  unfold requestFrame
  dsimp only
  rw [← own, accepts.again]
  dsimp only
  rw [if_pos ⟨isRequest, rfl⟩, validateFrameJson, accepted]
  dsimp only
  rw [params]
  dsimp only
  rw [frames.json, if_neg (not_lt.mpr short)]

/-! ## The host reads -/

mutual

/-- What a visitor is told of a value, in the order of its text. -/
def visitorEvents : JsonValue → List VisitorEvent
  | .object properties => .objectBegin :: (propertyEvents properties ++ [.objectEnd])
  | .array entries => entryEvents entries
  | _ => []

def entryEvents : List JsonValue → List VisitorEvent
  | [] => []
  | entry :: rest => visitorEvents entry ++ entryEvents rest

def propertyEvents : List (JsString × JsonValue) → List VisitorEvent
  | [] => []
  | (key, value) :: rest => .objectProperty key :: (visitorEvents value ++ propertyEvents rest)

end

/-- The visitor of the library reports the objects and the keys of every text of the grammar, and
no error. -/
def VisitsJson (visit : JsString → List VisitorEvent) : Prop :=
  ∀ text tree, JsonText text tree → visit text = visitorEvents tree

/-- Visiting a value changes nothing outside of it. -/
def Visited (value : JsonValue) : Prop :=
  ∀ stack, (visitorEvents value).foldl VisitorState.after ⟨stack, false⟩ = ⟨stack, false⟩

private theorem visited_entries {entries : List JsonValue}
    (visited : ∀ entry ∈ entries, Visited entry)
    (stack : List (List JsString)) :
    (entryEvents entries).foldl VisitorState.after ⟨stack, false⟩ = ⟨stack, false⟩ := by
  induction entries with
  | nil => rfl
  | cons entry rest ih =>
      rw [entryEvents, List.foldl_append, visited entry List.mem_cons_self,
        ih fun other member => visited other (List.mem_cons_of_mem _ member)]

private theorem visited_properties {properties : List (JsString × JsonValue)}
    (visited : ∀ property ∈ properties, Visited property.2) {keys : List JsString}
    (distinct : (properties.map Prod.fst).Nodup)
    (new : ∀ key ∈ properties.map Prod.fst, key ∉ keys) (outer : List (List JsString)) :
    ∃ all, (propertyEvents properties).foldl VisitorState.after ⟨keys :: outer, false⟩ =
      ⟨all :: outer, false⟩ := by
  induction properties generalizing keys with
  | nil => exact ⟨keys, rfl⟩
  | cons property rest ih =>
      obtain ⟨key, value⟩ := property
      obtain ⟨fresh, distinct⟩ := List.nodup_cons.mp distinct
      have unseen : keys.contains key = false := by
        rw [← Bool.not_eq_true, List.contains_iff_mem]
        exact new key List.mem_cons_self
      have named : VisitorState.after ⟨keys :: outer, false⟩ (.objectProperty key) =
          ⟨(key :: keys) :: outer, false⟩ := by
        rw [VisitorState.after]
        dsimp only
        rw [unseen, if_neg Bool.false_ne_true]
      rw [propertyEvents, List.foldl_cons, named, List.foldl_append,
        visited (key, value) List.mem_cons_self]
      refine ih (fun other member => visited other (List.mem_cons_of_mem _ member)) distinct ?_
      intro other member inside
      rcases List.mem_cons.mp inside with rfl | inside
      · exact fresh member
      · exact new other (List.mem_cons_of_mem _ member) inside

private theorem visited_isJson {value : JsonValue} (isJson : IsJson value) : Visited value := by
  induction isJson with
  | array entries _ ih => exact visited_entries ih
  | object properties distinct _ ih =>
      intro stack
      obtain ⟨all, inside⟩ := visited_properties ih distinct
        (fun key _ => List.not_mem_nil) stack
      rw [visitorEvents, List.foldl_cons, VisitorState.after, List.foldl_append, inside]
      rfl
  | _ => exact fun stack => rfl

/-- The host parses the text of JSON. -/
theorem parseHostJson_stringify {visit : JsString → List VisitorEvent} (visits : VisitsJson visit)
    {value : JsonValue} (isJson : IsJson value) :
    parseHostJson visit (stringify value) = some value := by
  have visited := visited_isJson isJson []
  unfold parseHostJson
  rw [visits _ _ (jsonText_stringify isJson), visited]
  exact parseJson_stringify isJson

/-- The bytes of an object begin with its brace. -/
theorem line_begins {rest : JsString} {written : List Char} (line : IsLine (123 :: rest) written) :
    ∃ later, utf8 written = 123 :: later := by
  have units := line.units
  cases written with
  | nil => cases units
  | cons character others =>
      rw [utf16, List.flatMap_cons] at units
      have brace : character = '{' := by
        by_contra other
        have apart := @utf16Char_apart character '{' (by decide) other
        rcases utf16Char_cases character with ⟨unit, single, _⟩ | ⟨high, low, pair, _⟩
        · rw [single] at units apart
          cases units
          exact apart List.mem_cons_self
        · rw [pair] at units apart
          cases units
          exact apart List.mem_cons_self
      rw [brace]
      exact ⟨utf8 others, rfl⟩

/-- The host takes the line of an object. -/
theorem frameBody_line {frame : JsonValue} {rest : JsString}
    (object : stringify frame = 123 :: rest)
    (short : (frameLine frame).length ≤ pluginSidecarFrameMaxUtf8Bytes + 1) :
    ∃ written, stringify frame = utf16 written ∧
      frameBody (frameLine frame) = .ok (utf8 written) := by
  obtain ⟨written, line, bytes⟩ := frameLine_isLine frame
  obtain ⟨later, begins⟩ := line_begins (object ▸ line)
  have body : (frameLine frame).dropLast = utf8 written := by rw [bytes, List.dropLast_concat]
  have feed : (frameLine frame).getLast? = some 10 := by rw [bytes, List.getLast?_concat]
  have size : (frameLine frame).length = (utf8 written).length + 1 := by
    rw [bytes, List.length_append, List.length_singleton]
  have positive : 0 < (utf8 written).length := by
    rw [begins]
    exact Nat.succ_pos _
  have visible : ∀ byte : UInt8, byte.toNat < 32 → byte ∉ utf8 written := fun byte control member =>
    absurd (line.visible byte member) (not_le.mpr control)
  have framed : ¬ ((frameLine frame).length < 2 ∨
      pluginSidecarFrameMaxUtf8Bytes + 1 < (frameLine frame).length ∨
      (frameLine frame).getLast? ≠ some 10) := by
    rintro (tiny | large | other)
    · omega
    · omega
    · exact other feed
  have single : ¬ ((utf8 written).length = 0 ∨
      pluginSidecarFrameMaxUtf8Bytes < (utf8 written).length ∨ 10 ∈ utf8 written ∨
      13 ∈ utf8 written ∨ (utf8 written).take 3 = [0xEF, 0xBB, 0xBF]) := by
    rintro (none | large | feeds | returns | marked)
    · omega
    · omega
    · exact visible 10 (by decide) feeds
    · exact visible 13 (by decide) returns
    · rw [begins] at marked
      cases marked
  refine ⟨written, line.units, ?_⟩
  unfold frameBody
  dsimp only
  rw [body, if_neg framed, if_neg single]

/-- A frame of an accepted result answers the call with its payload. -/
theorem responsePayload_ok {payloads : PayloadSchemas} {message : PluginProtocolMessage}
    {id : JsString} (accepts : Accepts payloads message) (isResult : message.direction = .result)
    (admissible : idSchema (.string id) = true) :
    responsePayload payloads (resultFrameJson id message.value.toJson) id message.method =
      .ok message.payload := by
  obtain ⟨frame, accepted, frames⟩ := resultFrame_accepts accepts isResult admissible
    (inert_cloneHeap (resultFrame_isJson id accepts.isJson))
  have result : frame.property (ascii "result") = some message.value :=
    property_eq frames.frozen accepts.frozen (by rw [frames.json]; rfl)
  have identified : (frame.toJson.property (ascii "id")).any (JsonSchema.constant id) = true := by
    rw [frames.json]
    exact constant_iff.mpr rfl
  unfold responsePayload
  rw [validateFrameJson, accepted]
  dsimp only
  rw [result]
  dsimp only
  rw [if_pos identified, validateMessagePart_accepts accepts]
  dsimp only
  rw [if_pos ⟨isResult, rfl⟩]

/-- **The host reads the message of every accepted result from its line.** -/
theorem parseResponseFrame_ok {visit : JsString → List VisitorEvent} (visits : VisitsJson visit)
    {payloads : PayloadSchemas} {message : PluginProtocolMessage} {id : JsString}
    (accepts : Accepts payloads message) (isResult : message.direction = .result)
    (admissible : idSchema (.string id) = true) :
    parseResponseFrame visit payloads (frameLine (resultFrameJson id message.value.toJson)) id
      message.method = .ok message.payload := by
  have isJson := resultFrame_isJson id accepts.isJson
  obtain ⟨written, units, body⟩ := @frameBody_line (resultFrameJson id message.value.toJson) _ rfl
    (frameLine_within (resultFrame_within admissible accepts.within))
  have hosted : ((decodedText (utf8 written)).map utf16).bind (parseHostJson visit) =
      some (resultFrameJson id message.value.toJson) := by
    rw [decodedText_utf8, Option.map_some, Option.bind_some, ← units,
      parseHostJson_stringify visits isJson]
  unfold parseResponseFrame
  rw [body, Except.bind, hosted]
  exact responsePayload_ok accepts isResult admissible

/-! ## Both directions -/

/-- **Framing loses no message.** Around a message that is accepted, and for every admissible
identifier, the frame of its direction is accepted with the same message inside, and its line is
within the limit of the stream. The host writes that line for a request of its own, and the
template of a sidecar reads the frame from it. The host collects the line of a result in whatever
chunks it comes and reads its payload, where the library visits the texts of the grammar. -/
theorem framing_losesNoMessage (payloads : PayloadSchemas) (id : JsString) :
    (∀ {Ref : Type} [DecidableEq Ref] (heap : JsHeap Ref) (candidate : JsValue Ref)
      (message : PluginProtocolMessage),
      validatePluginProtocolMessage payloads heap candidate = .ok message →
      idSchema (.string id) = true → message.direction = .request →
      (∀ {Other : Type} [DecidableEq Other] (outer : JsHeap Other) (wrapped : JsValue Other),
        Inert outer wrapped (requestFrameJson id message.method message.value.toJson) →
        ∃ frame, validatePluginSidecarJsonRpcFrame payloads outer wrapped = .ok frame ∧
          innerMessage frame = some message.value ∧
          frameLine frame.toJson =
            frameLine (requestFrameJson id message.method message.value.toJson)) ∧
      (frameLine (requestFrameJson id message.method message.value.toJson)).length ≤
        pluginSidecarFrameMaxUtf8Bytes + 1 ∧
      readFrame (frameText (requestFrameJson id message.method message.value.toJson)) =
        some (requestFrameJson id message.method message.value.toJson) ∧
      (message.value.toJson = messageJson .request message.method message.payload →
        requestFrame payloads id message.method message.payload =
          .ok (frameLine (requestFrameJson id message.method message.value.toJson)))) ∧
    (∀ {Ref : Type} [DecidableEq Ref] (heap : JsHeap Ref) (candidate : JsValue Ref)
      (message : PluginProtocolMessage),
      validatePluginProtocolMessage payloads heap candidate = .ok message →
      idSchema (.string id) = true → message.direction = .result →
      (∀ {Other : Type} [DecidableEq Other] (outer : JsHeap Other) (wrapped : JsValue Other),
        Inert outer wrapped (resultFrameJson id message.value.toJson) →
        ∃ frame, validatePluginSidecarJsonRpcFrame payloads outer wrapped = .ok frame ∧
          innerMessage frame = some message.value ∧
          frameLine frame.toJson = frameLine (resultFrameJson id message.value.toJson)) ∧
      (frameLine (resultFrameJson id message.value.toJson)).length ≤
        pluginSidecarFrameMaxUtf8Bytes + 1 ∧
      (∀ chunks : List (List UInt8),
        chunks.flatten = frameLine (resultFrameJson id message.value.toJson) →
        collectStdout [] chunks = .ok (frameLine (resultFrameJson id message.value.toJson))) ∧
      ∀ visit, VisitsJson visit →
        parseResponseFrame visit payloads
          (frameLine (resultFrameJson id message.value.toJson)) id message.method =
            .ok message.payload) := by
  constructor
  · intro Ref _ heap candidate message accepted admissible isRequest
    have accepts := accepts_of_validated accepted
    refine ⟨?_, ?_, ?_, ?_⟩
    · intro Other _ outer wrapped inert
      obtain ⟨frame, valid, frames⟩ := requestFrame_accepts accepts isRequest admissible inert
      exact ⟨frame, valid, frames.inner, by rw [frames.json]⟩
    · exact frameLine_within (requestFrame_within admissible message.method accepts.within)
    · exact readFrame_frameText (requestFrame_isJson id message.method accepts.isJson)
    · exact requestFrame_ok accepts isRequest admissible
  · intro Ref _ heap candidate message accepted admissible isResult
    have accepts := accepts_of_validated accepted
    have short := frameLine_within (resultFrame_within admissible accepts.within)
    refine ⟨?_, short, ?_, ?_⟩
    · intro Other _ outer wrapped inert
      obtain ⟨frame, valid, frames⟩ := resultFrame_accepts accepts isResult admissible inert
      exact ⟨frame, valid, frames.inner, by rw [frames.json]⟩
    · intro chunks whole
      rw [← whole] at short ⊢
      exact collectStdout_within chunks [] short
    · exact fun visit visits => parseResponseFrame_ok visits accepts isResult admissible

/-- The schema of the empty payload of a `describe` request; other payloads are objects. -/
def describePayloads : PayloadSchemas
  | .request, .describe => .allOf [.isObject, .noAdditionalProperties []]
  | _, _ => .isObject

/-- A visitor of texts by the tree that is read from them. -/
def treeVisit (text : JsString) : List VisitorEvent :=
  (jsonTree text).elim [] visitorEvents

private theorem treeVisit_visits : VisitsJson treeVisit := by
  intro text tree derived
  rw [treeVisit, jsonTree_iff_jsonText.mpr derived, Option.elim_some]

/-- The messages of the first call of the host: a request with an empty payload, and its result. -/
def describeMessage (direction : PluginProtocolDirection) : JsonValue :=
  messageJson direction .describe (match direction with
    | .request => .object []
    | .result => .object [(ascii "pluginId", .string (ascii "sample"))])

private theorem describeMessage_accepted (direction : PluginProtocolDirection) : ∃ message,
    validatePluginProtocolMessage describePayloads (cloneHeap (describeMessage direction))
      (plainValue [] (describeMessage direction)) = .ok message ∧
    message.direction = direction := by
  have viewed : (validatePluginProtocolMessage describePayloads
      (cloneHeap (describeMessage direction))
      (plainValue [] (describeMessage direction))).toOption.map
        PluginProtocolMessage.direction = some direction := by
    cases direction <;> decide +kernel
  exact eq_ok_of_view viewed

/-- The request for the description of a plugin is framed as the first call of the host, and its
result is read from a line that comes in two chunks. -/
theorem describeCall_isFramed :
    (∃ message,
      validatePluginProtocolMessage describePayloads (cloneHeap (describeMessage .request))
        (plainValue [] (describeMessage .request)) = .ok message ∧
      (frameLine (requestFrameJson (hostCallId 1) message.method message.value.toJson)).length ≤
        pluginSidecarFrameMaxUtf8Bytes + 1) ∧
    ∃ message line,
      validatePluginProtocolMessage describePayloads (cloneHeap (describeMessage .result))
        (plainValue [] (describeMessage .result)) = .ok message ∧
      line = frameLine (resultFrameJson (hostCallId 1) message.value.toJson) ∧
      collectStdout [] [line.take 20, line.drop 20] = .ok line ∧
      parseResponseFrame treeVisit describePayloads line (hostCallId 1) message.method =
        .ok message.payload := by
  have first : callId 1 none = .ok (hostCallId 1, 2) := rfl
  have admissible := (callId_admissible Nat.one_pos first).1
  constructor
  · obtain ⟨message, accepted, isRequest⟩ := describeMessage_accepted .request
    exact ⟨message, accepted, ((framing_losesNoMessage describePayloads (hostCallId 1)).1 _ _
      message accepted admissible isRequest).2.1⟩
  · obtain ⟨message, accepted, isResult⟩ := describeMessage_accepted .result
    obtain ⟨_, _, collects, reads⟩ := (framing_losesNoMessage describePayloads (hostCallId 1)).2 _ _
      message accepted admissible isResult
    exact ⟨message, _, accepted, rfl, collects _ (by simp), reads _ treeVisit_visits⟩

end Kurobara.Plugin
