import Kurobara.Foundation.Fallible
import Kurobara.ProviderSearch.StrictJsonTokens

/-! # The strict parser accepts exactly bounded JSON

What the parser takes is derived by the grammar and within its limits, and what the grammar derives
within the limits it takes. A derivation is followed value by value, with the depth and the number
of values before it.
-/

namespace Kurobara.ProviderSearch

open Foundation

/-! ## Limits -/

private def partLevels : JsonPart → ℕ
  | .value tree => levels tree
  | .entries entries => levelsOfEntries entries
  | .properties properties => levelsOfProperties properties

private def partNodes : JsonPart → ℕ
  | .value tree => nodeCount tree
  | .entries entries => nodeCountEntries entries
  | .properties properties => nodeCountProperties properties

/-- No key is repeated, and every number is finite. -/
def PartIsJson : JsonPart → Prop
  | .value tree => IsJson tree
  | .entries entries => ∀ entry ∈ entries, IsJson entry
  | .properties properties =>
      (properties.map Prod.fst).Nodup ∧ ∀ property ∈ properties, IsJson property.2

/-- A part at a depth and behind so many values is within the limits. -/
structure Fits (depth nodes : ℕ) (part : JsonPart) : Prop where
  isJson : PartIsJson part
  shallow : depth + partLevels part ≤ maxJsonDepth + 1
  few : nodes + partNodes part ≤ maxJsonNodes

private theorem levels_pos (tree : JsonValue) : 1 ≤ levels tree := by
  cases tree <;> simp only [levels] <;> omega

private theorem Fits.consEntries {depth nodes : ℕ} {entry : JsonValue} {rest : List JsonValue} :
    Fits depth nodes (.entries (entry :: rest)) ↔ Fits depth nodes (.value entry) ∧
      Fits depth (nodes + nodeCount entry) (.entries rest) := by
  constructor
  · rintro ⟨isJson, shallow, few⟩
    obtain ⟨first, others⟩ := List.forall_mem_cons.mp isJson
    simp only [partLevels, partNodes, levelsOfEntries, nodeCountEntries] at shallow few
    refine ⟨⟨first, ?_, ?_⟩, ⟨others, ?_, ?_⟩⟩ <;>
      simp only [partLevels, partNodes] <;> omega
  · rintro ⟨⟨first, shallowFirst, fewFirst⟩, ⟨others, shallow, few⟩⟩
    simp only [partLevels, partNodes] at shallowFirst shallow fewFirst few
    refine ⟨List.forall_mem_cons.mpr ⟨first, others⟩, ?_, ?_⟩ <;>
      simp only [partLevels, partNodes, levelsOfEntries, nodeCountEntries] <;> omega

private theorem Fits.consProperties {depth nodes : ℕ} {key : JsString} {value : JsonValue}
    {rest : List (JsString × JsonValue)} :
    Fits depth nodes (.properties ((key, value) :: rest)) ↔ Fits depth nodes (.value value) ∧
      Fits depth (nodes + nodeCount value) (.properties rest) ∧ key ∉ rest.map Prod.fst := by
  constructor
  · rintro ⟨⟨distinct, areJson⟩, shallow, few⟩
    obtain ⟨first, others⟩ := List.forall_mem_cons.mp areJson
    obtain ⟨new, distinct⟩ := List.nodup_cons.mp distinct
    simp only [partLevels, partNodes, levelsOfProperties, nodeCountProperties] at shallow few
    refine ⟨⟨first, ?_, ?_⟩, ⟨⟨distinct, others⟩, ?_, ?_⟩, new⟩ <;>
      simp only [partLevels, partNodes] <;> omega
  · rintro ⟨⟨first, shallowFirst, fewFirst⟩, ⟨⟨distinct, others⟩, shallow, few⟩, new⟩
    simp only [partLevels, partNodes] at shallowFirst shallow fewFirst few
    refine ⟨⟨List.nodup_cons.mpr ⟨new, distinct⟩, List.forall_mem_cons.mpr ⟨first, others⟩⟩,
      ?_, ?_⟩ <;>
      simp only [partLevels, partNodes, levelsOfProperties, nodeCountProperties] <;> omega

theorem Fits.array {depth nodes : ℕ} {entries : List JsonValue} :
    Fits depth nodes (.value (.array entries)) ↔
      Fits (depth + 1) (nodes + 1) (.entries entries) := by
  constructor
  · rintro ⟨isJson, shallow, few⟩
    simp only [partLevels, partNodes, levels, nodeCount] at shallow few
    cases isJson with
    | array _ areJson =>
        exact ⟨areJson, by simp only [partLevels]; omega, by simp only [partNodes]; omega⟩
  · rintro ⟨areJson, shallow, few⟩
    simp only [partLevels, partNodes] at shallow few
    exact ⟨.array entries areJson, by simp only [partLevels, levels]; omega,
      by simp only [partNodes, nodeCount]; omega⟩

theorem Fits.object {depth nodes : ℕ} {properties : List (JsString × JsonValue)} :
    Fits depth nodes (.value (.object properties)) ↔
      Fits (depth + 1) (nodes + 1) (.properties properties) := by
  constructor
  · rintro ⟨isJson, shallow, few⟩
    simp only [partLevels, partNodes, levels, nodeCount] at shallow few
    cases isJson with
    | object _ distinct areJson =>
        exact ⟨⟨distinct, areJson⟩, by simp only [partLevels]; omega,
          by simp only [partNodes]; omega⟩
  · rintro ⟨⟨distinct, areJson⟩, shallow, few⟩
    simp only [partLevels, partNodes] at shallow few
    exact ⟨.object properties distinct areJson, by simp only [partLevels, levels]; omega,
      by simp only [partNodes, nodeCount]; omega⟩

/-- Where nothing stands yet, only the depth and the count matter. -/
theorem Fits.noEntries {depth nodes : ℕ} :
    Fits depth nodes (.entries []) ↔ depth ≤ maxJsonDepth + 1 ∧ nodes ≤ maxJsonNodes :=
  ⟨fun fits => ⟨fits.shallow, fits.few⟩, fun within =>
    ⟨List.forall_mem_nil _, within.1, within.2⟩⟩

private theorem Fits.noProperties {depth nodes : ℕ} :
    Fits depth nodes (.properties []) ↔ depth ≤ maxJsonDepth + 1 ∧ nodes ≤ maxJsonNodes :=
  ⟨fun fits => ⟨fits.shallow, fits.few⟩, fun within =>
    ⟨⟨List.nodup_nil, List.forall_mem_nil _⟩, within.1, within.2⟩⟩

/-- A value that is no container. -/
structure Scalar (value : JsonValue) : Prop where
  isJson : IsJson value
  level : levels value = 1
  node : nodeCount value = 1

private theorem scalar_string (value : JsString) : Scalar (.string value) :=
  ⟨.string value, rfl, rfl⟩

private theorem scalar_primitive {value : JsonValue} (primitive : isPrimitive value = true) :
    Scalar value := by
  cases value with
  | null => exact ⟨.null, rfl, rfl⟩
  | boolean value => exact ⟨.boolean value, rfl, rfl⟩
  | number value =>
      cases value with
      | finite value => exact ⟨.number value, rfl, rfl⟩
      | _ => cases primitive
  | _ => cases primitive

theorem Scalar.fits {value : JsonValue} (scalar : Scalar value) {depth nodes : ℕ} :
    Fits depth nodes (.value value) ↔ depth ≤ maxJsonDepth ∧ nodes + 1 ≤ maxJsonNodes := by
  constructor
  · rintro ⟨_, shallow, few⟩
    simp only [partLevels, partNodes, scalar.level, scalar.node] at shallow few
    exact ⟨by omega, few⟩
  · rintro ⟨shallow, few⟩
    exact ⟨scalar.isJson, by simp only [partLevels, scalar.level]; omega,
      by simp only [partNodes, scalar.node]; omega⟩

/-- A value that fits is not too deep where it begins, and is counted. -/
theorem Fits.begins {depth nodes : ℕ} {tree : JsonValue} (fits : Fits depth nodes (.value tree)) :
    depth ≤ maxJsonDepth ∧ nodes + 1 ≤ maxJsonNodes := by
  obtain ⟨_, shallow, few⟩ := fits
  have occupied := levels_pos tree
  have counted : 1 ≤ nodeCount tree := by
    cases tree <;> simp only [nodeCount] <;> omega
  simp only [partLevels, partNodes] at shallow few
  exact ⟨by omega, by omega⟩

private theorem skipWhitespace_source (state : ParserState) :
    (skipWhitespace state).source = skipSpace state.source := rfl

private theorem skipWhitespace_nodes (state : ParserState) :
    (skipWhitespace state).nodes = state.nodes := rfl

private theorem bumpNode_iff {depth : ℕ} {state next : ParserState} :
    bumpNode depth state = .ok next ↔ (depth ≤ maxJsonDepth ∧ state.nodes + 1 ≤ maxJsonNodes) ∧
      next = { state with nodes := state.nodes + 1 } := by
  unfold bumpNode
  split_ifs with beyond
  · refine ⟨fun stops => (by cases stops), fun within => ?_⟩
    rcases beyond with deep | many
    · exact absurd within.1.1 (by omega)
    · exact absurd within.1.2 (by omega)
  · rw [not_or] at beyond
    refine ⟨fun counted => ⟨⟨by omega, by omega⟩, (Except.ok.inj counted).symm⟩, ?_⟩
    rintro ⟨_, rfl⟩
    rfl

/-! ## Equations -/

variable {steps depth : ℕ}

private theorem parseArray_eq (loop : ParserStep (List JsonValue)) (source : JsString) (nodes : ℕ) :
    parseArray loop ⟨source, nodes⟩ = if (skipSpace source).head? = some 93 then
      .ok (.array [], ⟨(skipSpace source).tail, nodes⟩)
    else (loop ⟨skipSpace source, nodes⟩).map fun (entries, next) => (.array entries, next) := rfl

private theorem parseObject_eq (loop : ParserStep (List (JsString × JsonValue))) (source : JsString)
    (nodes : ℕ) :
    parseObject loop ⟨source, nodes⟩ = if (skipSpace source).head? = some 125 then
      .ok (.object [], ⟨(skipSpace source).tail, nodes⟩)
    else (loop ⟨skipSpace source, nodes⟩).map fun (properties, next) =>
      (.object properties, next) := rfl

/-- A value behind its count. -/
def countedValue (steps depth : ℕ) (source : JsString) (nodes : ℕ) :
    Except ParserStop (JsonValue × ParserState) :=
  match source with
  | [] => parsePrimitive ⟨[], nodes⟩
  | character :: rest =>
      if character = 123 then
        parseObject (parseProperties steps (depth + 1) []) ⟨rest, nodes⟩
      else if character = 91 then parseArray (parseEntries steps (depth + 1)) ⟨rest, nodes⟩
      else if character = 34 then
        (parseString ⟨character :: rest, nodes⟩).map fun (parsed, next) => (.string parsed, next)
      else parsePrimitive ⟨character :: rest, nodes⟩

private theorem parseValue_succ {source : JsString} {nodes : ℕ} {result : JsonValue × ParserState} :
    parseValue (steps + 1) depth ⟨source, nodes⟩ = .ok result ↔
      (depth ≤ maxJsonDepth ∧ nodes + 1 ≤ maxJsonNodes) ∧
        countedValue steps depth (skipSpace source) (nodes + 1) = .ok result := by
  rw [parseValue]
  constructor
  · intro parsed
    obtain ⟨counted, bumped, parsed⟩ := bind_eq_ok.mp parsed
    obtain ⟨within, rfl⟩ := bumpNode_iff.mp bumped
    refine ⟨within, Eq.trans ?_ parsed⟩
    cases found : skipSpace source <;>
      simp only [countedValue, skipWhitespace_source, skipWhitespace_nodes, found]
  · rintro ⟨within, parsed⟩
    refine bind_eq_ok.mpr ⟨_, bumpNode_iff.mpr ⟨within, rfl⟩, Eq.trans ?_ parsed⟩
    cases found : skipSpace source <;>
      simp only [countedValue, skipWhitespace_source, skipWhitespace_nodes, found]

/-- How the loop of an array goes on behind an entry. -/
theorem parseEntries_succ {source : JsString} {nodes : ℕ} {entries : List JsonValue}
    {next : ParserState} :
    parseEntries (steps + 1) depth ⟨source, nodes⟩ = .ok (entries, next) ↔ source ≠ [] ∧
      ∃ entry after, parseValue steps depth ⟨source, nodes⟩ = .ok (entry, after) ∧
        ((∃ rest, skipSpace after.source = 93 :: rest ∧ entries = [entry] ∧
            next = ⟨rest, after.nodes⟩) ∨
          ∃ later others, skipSpace after.source = 44 :: later ∧ entries = entry :: others ∧
            parseEntries steps depth ⟨later, after.nodes⟩ = .ok (others, next)) := by
  rw [parseEntries]
  constructor
  · intro parsed
    split_ifs at parsed with nothing
    refine ⟨nothing, ?_⟩
    obtain ⟨⟨entry, after⟩, first, parsed⟩ := bind_eq_ok.mp parsed
    refine ⟨entry, after, first, ?_⟩
    dsimp only [skipWhitespace_source, skipWhitespace_nodes] at parsed
    cases found : skipSpace after.source with
    | nil =>
        rw [found] at parsed
        cases parsed
    | cons separator rest =>
        rw [found] at parsed
        dsimp only at parsed
        split_ifs at parsed with bracket comma
        · cases parsed
          exact .inl ⟨rest, bracket ▸ rfl, rfl, rfl⟩
        · obtain ⟨⟨others, last⟩, further, parsed⟩ := bind_eq_ok.mp parsed
          cases parsed
          exact .inr ⟨rest, others, comma ▸ rfl, rfl, further⟩
  · rintro ⟨nothing, entry, after, first, others⟩
    rw [if_neg nothing]
    refine bind_eq_ok.mpr ⟨(entry, after), first, ?_⟩
    dsimp only [skipWhitespace_source, skipWhitespace_nodes]
    rcases others with ⟨rest, found, rfl, rfl⟩ | ⟨later, others, found, rfl, further⟩
    · rw [found]
      rfl
    · rw [found]
      exact bind_eq_ok.mpr ⟨(others, next), further, rfl⟩

/-- How the loop of an object goes on behind a property. -/
theorem parseProperties_succ {keys : List JsString} {source : JsString} {nodes : ℕ}
    {properties : List (JsString × JsonValue)} {next : ParserState} :
    parseProperties (steps + 1) depth keys ⟨source, nodes⟩ = .ok (properties, next) ↔
      ∃ start key named colon value after, skipSpace source = 34 :: start ∧
        CharactersText start key named ∧ key ∉ keys ∧ skipSpace named = 58 :: colon ∧
        parseValue steps depth ⟨colon, nodes⟩ = .ok (value, after) ∧
        ((∃ rest, skipSpace after.source = 125 :: rest ∧ properties = [(key, value)] ∧
            next = ⟨rest, after.nodes⟩) ∨
          ∃ later others, skipSpace after.source = 44 :: later ∧
            properties = (key, value) :: others ∧
            parseProperties steps depth (key :: keys) ⟨later, after.nodes⟩ =
              .ok (others, next)) := by
  rw [parseProperties]
  constructor
  · intro parsed
    split_ifs at parsed with nothing
    obtain ⟨⟨key, ⟨named, count⟩⟩, string, behind⟩ := bind_eq_ok.mp parsed
    obtain ⟨start, opened, characters, same⟩ := parseString_iff.mp string
    dsimp only [skipWhitespace_source, skipWhitespace_nodes] at opened same characters behind
    subst same
    clear parsed
    split_ifs at behind with repeated
    have new : key ∉ keys := fun member => repeated (List.contains_iff_mem.mpr member)
    cases marked : skipSpace named with
    | nil =>
        rw [marked] at behind
        cases behind
    | cons unit colon =>
        rw [marked] at behind
        dsimp only at behind
        split_ifs at behind with isColon
        subst isColon
        obtain ⟨⟨value, after⟩, first, behind⟩ := bind_eq_ok.mp behind
        refine ⟨start, key, named, colon, value, after, opened, characters, new, marked, first, ?_⟩
        dsimp only [skipWhitespace_source, skipWhitespace_nodes] at behind
        cases found : skipSpace after.source with
        | nil =>
            rw [found] at behind
            cases behind
        | cons separator rest =>
            rw [found] at behind
            dsimp only at behind
            split_ifs at behind with brace comma
            · cases behind
              exact .inl ⟨rest, brace ▸ rfl, rfl, rfl⟩
            · obtain ⟨⟨others, last⟩, further, behind⟩ := bind_eq_ok.mp behind
              cases behind
              exact .inr ⟨rest, others, comma ▸ rfl, rfl, further⟩
  · rintro ⟨start, key, named, colon, value, after, opened, characters, new, marked, first, others⟩
    have something : source ≠ [] := by
      rintro rfl
      cases opened
    rw [if_neg something]
    refine bind_eq_ok.mpr ⟨(key, ⟨named, nodes⟩), parseString_iff.mpr
      ⟨start, opened, characters, rfl⟩, ?_⟩
    dsimp only [skipWhitespace_source, skipWhitespace_nodes]
    rw [if_neg fun repeated => new (List.contains_iff_mem.mp repeated), marked]
    dsimp only
    rw [if_pos rfl]
    refine bind_eq_ok.mpr ⟨(value, after), first, ?_⟩
    dsimp only [skipWhitespace_source, skipWhitespace_nodes]
    rcases others with ⟨rest, found, rfl, rfl⟩ | ⟨later, others, found, rfl, further⟩
    · rw [found]
      rfl
    · rw [found]
      exact bind_eq_ok.mpr ⟨(others, next), further, rfl⟩

/-! ## What is parsed is derived -/

/-- The parser has taken a part: it is derived, it fits, and its values are counted. -/
structure Taken (depth : ℕ) (part : JsonPart) (source : JsString) (nodes : ℕ)
    (next : ParserState) : Prop where
  derived : DerivesJson part source next.source
  fits : Fits depth nodes part
  counted : next.nodes = nodes + partNodes part

/-- What the parser takes within some steps is derived and fits. -/
structure TakesDerived (steps : ℕ) : Prop where
  values : ∀ depth source nodes tree next,
    parseValue steps depth ⟨source, nodes⟩ = .ok (tree, next) →
    Taken depth (.value tree) (skipSpace source) nodes next
  entries : ∀ depth source nodes entries next, depth ≤ maxJsonDepth + 1 →
    parseEntries steps depth ⟨source, nodes⟩ = .ok (entries, next) →
    Taken depth (.entries entries) source nodes next
  properties : ∀ depth keys source nodes properties next, depth ≤ maxJsonDepth + 1 →
    parseProperties steps depth keys ⟨source, nodes⟩ = .ok (properties, next) →
    Taken depth (.properties properties) source nodes next ∧
      ∀ key ∈ keys, key ∉ properties.map Prod.fst

section

variable (below : TakesDerived steps) {source : JsString} {nodes : ℕ} {next : ParserState}
include below

private theorem TakesDerived.arrayValue {tree : JsonValue}
    (within : depth ≤ maxJsonDepth ∧ nodes + 1 ≤ maxJsonNodes)
    (parsed : parseArray (parseEntries steps (depth + 1)) ⟨source, nodes + 1⟩ = .ok (tree, next)) :
    Taken depth (.value tree) (91 :: source) nodes next := by
  rw [parseArray_eq] at parsed
  split_ifs at parsed with closed
  · cases parsed
    exact ⟨.emptyArray (.ofSkip (List.cons_head?_tail closed).symm),
      Fits.array.mpr (Fits.noEntries.mpr ⟨Nat.succ_le_succ within.1, within.2⟩), rfl⟩
  · obtain ⟨⟨entries, last⟩, inside, split⟩ := map_eq_ok.mp parsed
    cases split
    obtain ⟨derived, fits, counted⟩ :=
      below.entries _ _ _ _ _ (Nat.succ_le_succ within.1) inside
    refine ⟨.array (derived.entriesBehind (spaceText_skipSpace _)), Fits.array.mpr fits, ?_⟩
    rw [counted]
    simp only [partNodes, nodeCount]
    omega

private theorem TakesDerived.objectValue {tree : JsonValue}
    (within : depth ≤ maxJsonDepth ∧ nodes + 1 ≤ maxJsonNodes)
    (parsed : parseObject (parseProperties steps (depth + 1) []) ⟨source, nodes + 1⟩ =
      .ok (tree, next)) : Taken depth (.value tree) (123 :: source) nodes next := by
  rw [parseObject_eq] at parsed
  split_ifs at parsed with closed
  · cases parsed
    exact ⟨.emptyObject (.ofSkip (List.cons_head?_tail closed).symm),
      Fits.object.mpr (Fits.noProperties.mpr ⟨Nat.succ_le_succ within.1, within.2⟩), rfl⟩
  · obtain ⟨⟨properties, last⟩, inside, split⟩ := map_eq_ok.mp parsed
    cases split
    obtain ⟨⟨derived, fits, counted⟩, _⟩ :=
      below.properties _ _ _ _ _ _ (Nat.succ_le_succ within.1) inside
    refine ⟨.object (derived.propertiesBehind (spaceText_skipSpace _)), Fits.object.mpr fits, ?_⟩
    rw [counted]
    simp only [partNodes, nodeCount]
    omega

end

/-- A scalar behind its count. -/
theorem Scalar.taken {tree : JsonValue} (scalar : Scalar tree) {nodes : ℕ}
    (within : depth ≤ maxJsonDepth ∧ nodes + 1 ≤ maxJsonNodes) {source : JsString}
    {next : ParserState} (derived : DerivesJson (.value tree) source next.source)
    (counted : next.nodes = nodes + 1) : Taken depth (.value tree) source nodes next :=
  ⟨derived, scalar.fits.mpr within, by rw [counted, partNodes, scalar.node]⟩

theorem TakesDerived.value (below : TakesDerived steps) {source : JsString} {nodes : ℕ}
    {next : ParserState} {tree : JsonValue}
    (parsed : parseValue (steps + 1) depth ⟨source, nodes⟩ = .ok (tree, next)) :
    Taken depth (.value tree) (skipSpace source) nodes next := by
  obtain ⟨within, parsed⟩ := parseValue_succ.mp parsed
  have primitive : ∀ text, parsePrimitive ⟨text, nodes + 1⟩ = .ok (tree, next) →
      Taken depth (.value tree) text nodes next := by
    intro text parsed
    obtain ⟨primitive, derived, _, same⟩ := parsePrimitive_iff.mp parsed
    exact (scalar_primitive primitive).taken within derived same
  cases found : skipSpace source with
  | nil =>
      rw [found] at parsed
      exact primitive _ parsed
  | cons unit rest =>
      rw [found, countedValue] at parsed
      split_ifs at parsed with brace bracket quote
      · exact brace ▸ below.objectValue within parsed
      · exact bracket ▸ below.arrayValue within parsed
      · obtain ⟨⟨value, last⟩, string, split⟩ := map_eq_ok.mp parsed
        cases split
        obtain ⟨inner, opened, characters, same⟩ := parseString_iff.mp string
        cases opened
        exact (scalar_string value).taken within (.string characters) same
      · exact primitive _ parsed

private theorem TakesDerived.entryLoop (below : TakesDerived steps) {source : JsString} {nodes : ℕ}
    {next : ParserState} {entries : List JsonValue} (shallow : depth ≤ maxJsonDepth + 1)
    (parsed : parseEntries (steps + 1) depth ⟨source, nodes⟩ = .ok (entries, next)) :
    Taken depth (.entries entries) source nodes next := by
  obtain ⟨_, entry, ⟨after, count⟩, first, others⟩ := parseEntries_succ.mp parsed
  obtain ⟨derived, fits, counted⟩ := below.values _ _ _ _ _ first
  dsimp only [partNodes] at derived counted others
  rcases others with ⟨rest, closed, rfl, rfl⟩ | ⟨later, others, comma, rfl, further⟩
  · have few := fits.few
    refine ⟨.lastEntry (spaceText_skipSpace _) derived (.ofSkip closed),
      Fits.consEntries.mpr ⟨fits, Fits.noEntries.mpr ⟨shallow, few⟩⟩, ?_⟩
    simp only [partNodes, nodeCountEntries, counted, Nat.add_zero]
  · obtain ⟨following, fitting, total⟩ := below.entries _ _ _ _ _ shallow further
    rw [counted] at fitting total
    refine ⟨.entry (spaceText_skipSpace _) derived (.ofSkip comma) following,
      Fits.consEntries.mpr ⟨fits, fitting⟩, ?_⟩
    simp only [partNodes, nodeCountEntries] at total ⊢
    omega

private theorem TakesDerived.propertyLoop (below : TakesDerived steps) {keys : List JsString}
    {source : JsString} {nodes : ℕ} {next : ParserState}
    {properties : List (JsString × JsonValue)} (shallow : depth ≤ maxJsonDepth + 1)
    (parsed : parseProperties (steps + 1) depth keys ⟨source, nodes⟩ = .ok (properties, next)) :
    Taken depth (.properties properties) source nodes next ∧
      ∀ key ∈ keys, key ∉ properties.map Prod.fst := by
  obtain ⟨start, key, named, colon, value, ⟨after, count⟩, opened, characters, new, marked, first,
    others⟩ := parseProperties_succ.mp parsed
  obtain ⟨derived, fits, counted⟩ := below.values _ _ _ _ _ first
  dsimp only [partNodes] at derived counted others
  rcases others with ⟨rest, closed, rfl, rfl⟩ | ⟨later, others, comma, rfl, further⟩
  · have few := fits.few
    refine ⟨⟨.lastProperty (.ofSkip opened) characters (.ofSkip marked) (spaceText_skipSpace _)
      derived (.ofSkip closed), Fits.consProperties.mpr
        ⟨fits, Fits.noProperties.mpr ⟨shallow, few⟩, List.not_mem_nil⟩, ?_⟩, ?_⟩
    · simp only [partNodes, nodeCountProperties, counted, Nat.add_zero]
    · rintro other member inside
      rw [List.mem_singleton.mp inside] at member
      exact new member
  · obtain ⟨⟨following, fitting, total⟩, apart⟩ := below.properties _ _ _ _ _ _ shallow further
    rw [counted] at fitting total
    refine ⟨⟨.property (.ofSkip opened) characters (.ofSkip marked) (spaceText_skipSpace _)
      derived (.ofSkip comma) following, Fits.consProperties.mpr
        ⟨fits, fitting, apart key List.mem_cons_self⟩, ?_⟩, ?_⟩
    · simp only [partNodes, nodeCountProperties] at total ⊢
      omega
    · rintro other member inside
      rcases List.mem_cons.mp inside with rfl | inside
      · exact new member
      · exact apart other (List.mem_cons_of_mem _ member) inside

private theorem takesDerived (steps : ℕ) : TakesDerived steps := by
  induction steps with
  | zero =>
      exact ⟨fun _ _ _ _ _ parsed => (by cases parsed), fun _ _ _ _ _ _ parsed => (by cases parsed),
        fun _ _ _ _ _ _ _ parsed => (by cases parsed)⟩
  | succ steps below =>
      exact ⟨fun _ _ _ _ _ parsed => below.value parsed,
        fun _ _ _ _ _ shallow parsed => below.entryLoop shallow parsed,
        fun _ _ _ _ _ _ shallow parsed => below.propertyLoop shallow parsed⟩

/-! ## What is derived is parsed -/

/-- A part is parsed where it fits, with steps for every unit of its text. -/
def Parsed : JsonPart → JsString → JsString → Prop
  | .value tree, text, rest => EndsPrimitive rest → ∀ depth nodes steps source,
      skipSpace source = text → 2 * text.length ≤ steps → Fits depth nodes (.value tree) →
      parseValue steps depth ⟨source, nodes⟩ = .ok (tree, ⟨rest, nodes + nodeCount tree⟩)
  | .entries entries, text, rest => ∀ depth nodes steps source,
      skipSpace source = skipSpace text → 2 * text.length < steps →
      Fits depth nodes (.entries entries) →
      parseEntries steps depth ⟨source, nodes⟩ =
        .ok (entries, ⟨rest, nodes + nodeCountEntries entries⟩)
  | .properties properties, text, rest => ∀ depth nodes steps keys source,
      skipSpace source = skipSpace text → 2 * text.length < steps →
      Fits depth nodes (.properties properties) →
      (∀ key ∈ keys, key ∉ properties.map Prod.fst) →
      parseProperties steps depth keys ⟨source, nodes⟩ =
        .ok (properties, ⟨rest, nodes + nodeCountProperties properties⟩)

private theorem spaceText_endsPrimitive {text rest : JsString} {unit : CodeUnit}
    (space : SpaceText text (unit :: rest)) (ends : endsPrimitive unit = true) :
    EndsPrimitive text := by
  obtain ⟨spaces, areSpaces, rfl⟩ := space
  intro first head
  cases spaces with
  | nil =>
      cases head
      exact ends
  | cons space others =>
      cases head
      rw [endsPrimitive, Bool.or_eq_true]
      exact .inr (areSpaces first List.mem_cons_self)

private theorem countedValue_primitive {tree : JsonValue} (primitive : isPrimitive tree = true)
    {text rest : JsString} (derived : DerivesJson (.value tree) text rest) (nodes : ℕ) :
    countedValue steps depth text nodes = parsePrimitive ⟨text, nodes⟩ := by
  have plain : ∀ (unit : CodeUnit) (later : JsString), unit ≠ 123 → unit ≠ 91 → unit ≠ 34 →
      countedValue steps depth (unit :: later) nodes = parsePrimitive ⟨unit :: later, nodes⟩ := by
    intro unit later brace bracket quote
    rw [countedValue, if_neg brace, if_neg bracket, if_neg quote]
  cases derived with
  | nullLiteral => exact plain _ _ (by decide) (by decide) (by decide)
  | trueLiteral => exact plain _ _ (by decide) (by decide) (by decide)
  | falseLiteral => exact plain _ _ (by decide) (by decide) (by decide)
  | number number =>
      obtain ⟨unit, later, rfl, begins⟩ := number.head
      obtain ⟨_, lower, upper⟩ := beginsNumber begins
      have other : ∀ named : CodeUnit, named.toNat < 45 ∨ 57 < named.toNat → unit ≠ named := by
        rintro named apart rfl
        omega
      exact plain _ _ (other 123 (by decide)) (other 91 (by decide)) (other 34 (by decide))
  | _ => cases primitive

private theorem parsed_primitive {tree : JsonValue} (primitive : isPrimitive tree = true)
    {text rest : JsString} (derived : DerivesJson (.value tree) text rest) :
    Parsed (.value tree) text rest := by
  intro ends depth nodes steps source skipped covers fits
  have occupied := derived.length_lt
  obtain ⟨steps, rfl⟩ : ∃ fewer, steps = fewer + 1 := ⟨steps - 1, by omega⟩
  refine parseValue_succ.mpr ⟨fits.begins, ?_⟩
  rw [skipped, countedValue_primitive primitive derived]
  refine parsePrimitive_iff.mpr ⟨primitive, derived, ends, ?_⟩
  rw [(scalar_primitive primitive).node]

theorem Fits.finite {depth nodes : ℕ} {number : JsNumber}
    (fits : Fits depth nodes (.value (.number number))) : isPrimitive (.number number) = true := by
  cases fits.isJson with
  | number value => rfl

private theorem nonempty_of_derived {source text start rest : JsString} {tree : JsonValue}
    (skipped : skipSpace source = skipSpace text) (before : SpaceText text start)
    (value : DerivesJson (.value tree) start rest) : source ≠ [] := by
  rintro rfl
  rw [before.skipSpace_eq, value.visible] at skipped
  have occupied := value.length_lt
  rw [← skipped] at occupied
  exact absurd occupied (Nat.not_lt_zero _)

private theorem parsed_string {text value rest : JsString}
    (characters : CharactersText text value rest) :
    Parsed (.value (.string value)) (34 :: text) rest := by
  intro _ depth nodes steps source skipped covers fits
  rw [List.length_cons] at covers
  obtain ⟨steps, rfl⟩ : ∃ fewer, steps = fewer + 1 := ⟨steps - 1, by omega⟩
  refine parseValue_succ.mpr ⟨fits.begins, ?_⟩
  rw [skipped, countedValue, if_neg (by decide), if_neg (by decide), if_pos rfl]
  have string := (@parseString_iff ⟨34 :: text, nodes + 1⟩ ⟨rest, nodes + 1⟩ value).mpr
    ⟨text, rfl, characters, rfl⟩
  rw [string]
  rfl

private theorem parsed_emptyArray {text rest : JsString} (space : SpaceText text (93 :: rest)) :
    Parsed (.value (.array [])) (91 :: text) rest := by
  intro _ depth nodes steps source skipped covers fits
  rw [List.length_cons] at covers
  obtain ⟨steps, rfl⟩ : ∃ fewer, steps = fewer + 1 := ⟨steps - 1, by omega⟩
  refine parseValue_succ.mpr ⟨fits.begins, ?_⟩
  rw [skipped, countedValue, if_neg (by decide), if_pos rfl, parseArray_eq,
    space.skipTo (by decide)]
  rfl

private theorem parsed_array {text rest : JsString} {entries : List JsonValue}
    (inside : DerivesJson (.entries entries) text rest)
    (parsed : Parsed (.entries entries) text rest) :
    Parsed (.value (.array entries)) (91 :: text) rest := by
  intro _ depth nodes steps source skipped covers fits
  rw [List.length_cons] at covers
  obtain ⟨steps, rfl⟩ : ∃ fewer, steps = fewer + 1 := ⟨steps - 1, by omega⟩
  refine parseValue_succ.mpr ⟨fits.begins, ?_⟩
  rw [skipped, countedValue, if_neg (by decide), if_pos rfl, parseArray_eq,
    if_neg inside.notClosing,
    parsed _ _ _ _ (spaceText_skipSpace text).skipSpace_eq.symm (by omega) (Fits.array.mp fits),
    nodeCount, Nat.add_right_comm nodes]
  rfl

private theorem parsed_emptyObject {text rest : JsString} (space : SpaceText text (125 :: rest)) :
    Parsed (.value (.object [])) (123 :: text) rest := by
  intro _ depth nodes steps source skipped covers fits
  rw [List.length_cons] at covers
  obtain ⟨steps, rfl⟩ : ∃ fewer, steps = fewer + 1 := ⟨steps - 1, by omega⟩
  refine parseValue_succ.mpr ⟨fits.begins, ?_⟩
  rw [skipped, countedValue, if_pos rfl, parseObject_eq, space.skipTo (by decide)]
  rfl

private theorem parsed_object {text rest : JsString} {properties : List (JsString × JsonValue)}
    (inside : DerivesJson (.properties properties) text rest)
    (parsed : Parsed (.properties properties) text rest) :
    Parsed (.value (.object properties)) (123 :: text) rest := by
  intro _ depth nodes steps source skipped covers fits
  rw [List.length_cons] at covers
  obtain ⟨steps, rfl⟩ : ∃ fewer, steps = fewer + 1 := ⟨steps - 1, by omega⟩
  refine parseValue_succ.mpr ⟨fits.begins, ?_⟩
  rw [skipped, countedValue, if_pos rfl, parseObject_eq, if_neg inside.notClosing,
    parsed _ _ _ [] _ (spaceText_skipSpace text).skipSpace_eq.symm (by omega) (Fits.object.mp fits)
      (List.forall_mem_nil _),
    nodeCount, Nat.add_right_comm nodes]
  rfl

section

variable {text start after later rest : JsString}

private theorem parsed_lastEntry {entry : JsonValue} (before : SpaceText text start)
    (value : DerivesJson (.value entry) start after) (behind : SpaceText after (93 :: rest))
    (parsed : Parsed (.value entry) start after) : Parsed (.entries [entry]) text rest := by
  intro depth nodes steps source skipped covers fits
  obtain ⟨first, _⟩ := Fits.consEntries.mp fits
  have within := before.length_le
  obtain ⟨steps, rfl⟩ : ∃ fewer, steps = fewer + 1 := ⟨steps - 1, by omega⟩
  refine parseEntries_succ.mpr ⟨nonempty_of_derived skipped before value, _, _,
    parsed (spaceText_endsPrimitive behind (by decide)) _ _ _ _
      (skipped.trans (before.skipSpace_eq.trans value.visible)) (by omega) first, ?_⟩
  exact .inl ⟨_, behind.skipTo (by decide), rfl, rfl⟩

private theorem parsed_entry {entry : JsonValue} {entries : List JsonValue}
    (before : SpaceText text start) (value : DerivesJson (.value entry) start after)
    (behind : SpaceText after (44 :: later)) (parsed : Parsed (.value entry) start after)
    (others : Parsed (.entries entries) later rest) :
    Parsed (.entries (entry :: entries)) text rest := by
  intro depth nodes steps source skipped covers fits
  obtain ⟨first, following⟩ := Fits.consEntries.mp fits
  have within := before.length_le
  have consumed := value.length_lt
  have last := behind.length_le
  rw [List.length_cons] at last
  obtain ⟨steps, rfl⟩ : ∃ fewer, steps = fewer + 1 := ⟨steps - 1, by omega⟩
  refine parseEntries_succ.mpr ⟨nonempty_of_derived skipped before value, _, _,
    parsed (spaceText_endsPrimitive behind (by decide)) _ _ _ _
      (skipped.trans (before.skipSpace_eq.trans value.visible)) (by omega) first, ?_⟩
  refine .inr ⟨_, _, behind.skipTo (by decide), rfl, ?_⟩
  rw [others _ _ _ _ rfl (by omega) following, nodeCountEntries, Nat.add_assoc]

variable {named colon valued key : JsString} {tree : JsonValue}

private theorem parsed_lastProperty (before : SpaceText text (34 :: start))
    (characters : CharactersText start key named) (separator : SpaceText named (58 :: colon))
    (space : SpaceText colon valued) (value : DerivesJson (.value tree) valued after)
    (behind : SpaceText after (125 :: rest)) (parsed : Parsed (.value tree) valued after) :
    Parsed (.properties [(key, tree)]) text rest := by
  intro depth nodes steps keys source skipped covers fits apart
  obtain ⟨first, _⟩ := Fits.consProperties.mp fits
  have within := before.length_le
  have name := characters.length_lt
  have colon := separator.length_le
  have second := space.length_le
  rw [List.length_cons] at within colon
  obtain ⟨steps, rfl⟩ : ∃ fewer, steps = fewer + 1 := ⟨steps - 1, by omega⟩
  refine parseProperties_succ.mpr ⟨_, _, _, _, _, _, skipped.trans (before.skipTo (by decide)),
    characters, fun member => apart _ member List.mem_cons_self, separator.skipTo (by decide),
    parsed (spaceText_endsPrimitive behind (by decide)) _ _ _ _
      (space.skipSpace_eq.trans value.visible) (by omega) first, ?_⟩
  exact .inl ⟨_, behind.skipTo (by decide), rfl, rfl⟩

private theorem parsed_property {properties : List (JsString × JsonValue)}
    (before : SpaceText text (34 :: start)) (characters : CharactersText start key named)
    (separator : SpaceText named (58 :: colon)) (space : SpaceText colon valued)
    (value : DerivesJson (.value tree) valued after) (behind : SpaceText after (44 :: later))
    (parsed : Parsed (.value tree) valued after)
    (others : Parsed (.properties properties) later rest) :
    Parsed (.properties ((key, tree) :: properties)) text rest := by
  intro depth nodes steps keys source skipped covers fits apart
  obtain ⟨first, following, new⟩ := Fits.consProperties.mp fits
  have within := before.length_le
  have name := characters.length_lt
  have colon := separator.length_le
  have second := space.length_le
  have consumed := value.length_lt
  have last := behind.length_le
  rw [List.length_cons] at within colon last
  obtain ⟨steps, rfl⟩ : ∃ fewer, steps = fewer + 1 := ⟨steps - 1, by omega⟩
  refine parseProperties_succ.mpr ⟨_, _, _, _, _, _, skipped.trans (before.skipTo (by decide)),
    characters, fun member => apart _ member List.mem_cons_self, separator.skipTo (by decide),
    parsed (spaceText_endsPrimitive behind (by decide)) _ _ _ _
      (space.skipSpace_eq.trans value.visible) (by omega) first, ?_⟩
  refine .inr ⟨_, _, behind.skipTo (by decide), rfl, ?_⟩
  rw [others _ _ _ _ _ rfl (by omega) following, nodeCountProperties, Nat.add_assoc]
  intro key member inside
  rcases List.mem_cons.mp member with rfl | member
  · exact new inside
  · exact apart key member (List.mem_cons_of_mem _ inside)

end

/-- **What is derived and fits is parsed.** -/
theorem derivesJson_parsed {part : JsonPart} {text rest : JsString}
    (derived : DerivesJson part text rest) : Parsed part text rest := by
  induction derived with
  | nullLiteral rest => exact parsed_primitive rfl (.nullLiteral rest)
  | trueLiteral rest => exact parsed_primitive rfl (.trueLiteral rest)
  | falseLiteral rest => exact parsed_primitive rfl (.falseLiteral rest)
  | number number rest =>
      intro ends depth nodes steps source skipped covers fits
      exact parsed_primitive fits.finite (.number number rest) ends _ _ _ _ skipped covers fits
  | string characters => exact parsed_string characters
  | emptyArray space => exact parsed_emptyArray space
  | array inside ih => exact parsed_array inside ih
  | emptyObject space => exact parsed_emptyObject space
  | object inside ih => exact parsed_object inside ih
  | lastEntry before value behind ih => exact parsed_lastEntry before value behind ih
  | entry before value behind others ih later => exact parsed_entry before value behind ih later
  | lastProperty before characters separator space value behind ih =>
      exact parsed_lastProperty before characters separator space value behind ih
  | property before characters separator space value behind others ih later =>
      exact parsed_property before characters separator space value behind ih later

/-! ## The parser finishes -/

private theorem parseString_finishes (state : ParserState) :
    parseString state ≠ .error .unfinished := by
  intro stopped
  unfold parseString at stopped
  split at stopped
  · cases stopped
  · split_ifs at stopped
    · split at stopped
      · cases stopped
      · split at stopped <;> cases stopped
    · cases stopped

private theorem parsePrimitive_finishes (state : ParserState) :
    parsePrimitive state ≠ .error .unfinished := by
  intro stopped
  unfold parsePrimitive at stopped
  split at stopped
  · split_ifs at stopped
    cases stopped
  · cases stopped

/-- With steps for every unit of the source the parser answers. -/
structure Finishes (steps : ℕ) : Prop where
  values : ∀ depth source nodes, 2 * source.length + 1 ≤ steps →
    parseValue steps depth ⟨source, nodes⟩ ≠ .error .unfinished
  entries : ∀ depth source nodes, 2 * source.length + 2 ≤ steps →
    parseEntries steps depth ⟨source, nodes⟩ ≠ .error .unfinished
  properties : ∀ depth keys source nodes, 2 * source.length + 2 ≤ steps →
    parseProperties steps depth keys ⟨source, nodes⟩ ≠ .error .unfinished

theorem Finishes.value (below : Finishes steps) {source : JsString} {nodes : ℕ}
    (covers : 2 * source.length + 1 ≤ steps + 1) :
    parseValue (steps + 1) depth ⟨source, nodes⟩ ≠ .error .unfinished := by
  intro stopped
  rw [parseValue] at stopped
  rcases bind_eq_error.mp stopped with bump | ⟨counted, bumped, stopped⟩
  · unfold bumpNode at bump
    split_ifs at bump
    cases bump
  · obtain ⟨_, rfl⟩ := bumpNode_iff.mp bumped
    have shorter := skipSpace_length source
    dsimp only [skipWhitespace_source, skipWhitespace_nodes] at stopped
    cases found : skipSpace source with
    | nil =>
        rw [found] at stopped
        exact parsePrimitive_finishes _ stopped
    | cons unit rest =>
        rw [found] at stopped shorter
        rw [List.length_cons] at shorter
        have inside := skipSpace_length rest
        dsimp only at stopped
        split_ifs at stopped
        · rw [parseObject_eq] at stopped
          split_ifs at stopped
          exact below.properties _ _ _ _ (by omega) (map_eq_error.mp stopped)
        · rw [parseArray_eq] at stopped
          split_ifs at stopped
          exact below.entries _ _ _ (by omega) (map_eq_error.mp stopped)
        · exact parseString_finishes _ (map_eq_error.mp stopped)
        · exact parsePrimitive_finishes _ stopped

/-- What stands behind a value is shorter than the text before it. -/
theorem parseValue_shorter {source : JsString} {nodes : ℕ} {tree : JsonValue} {next : ParserState}
    (parsed : parseValue steps depth ⟨source, nodes⟩ = .ok (tree, next)) :
    next.source.length < source.length :=
  ((takesDerived steps).values _ _ _ _ _ parsed).derived.length_lt.trans_le
    (skipSpace_length source)

private theorem Finishes.entryLoop (below : Finishes steps) {source : JsString} {nodes : ℕ}
    (covers : 2 * source.length + 2 ≤ steps + 1) :
    parseEntries (steps + 1) depth ⟨source, nodes⟩ ≠ .error .unfinished := by
  intro stopped
  rw [parseEntries] at stopped
  split_ifs at stopped with nothing
  · cases stopped
  rcases bind_eq_error.mp stopped with first | ⟨⟨entry, after⟩, first, stopped⟩
  · exact below.values _ _ _ (by omega) first
  · have shorter := parseValue_shorter first
    have behind := skipSpace_length after.source
    dsimp only [skipWhitespace_source, skipWhitespace_nodes] at stopped
    cases found : skipSpace after.source with
    | nil =>
        rw [found] at stopped
        cases stopped
    | cons separator rest =>
        rw [found] at stopped behind
        rw [List.length_cons] at behind
        dsimp only at stopped
        split_ifs at stopped with bracket comma
        · rcases bind_eq_error.mp stopped with further | ⟨others, _, done⟩
          · exact below.entries _ _ _ (by omega) further
          · cases done
        · cases stopped

private theorem Finishes.propertyLoop (below : Finishes steps) {keys : List JsString}
    {source : JsString} {nodes : ℕ} (covers : 2 * source.length + 2 ≤ steps + 1) :
    parseProperties (steps + 1) depth keys ⟨source, nodes⟩ ≠ .error .unfinished := by
  intro stopped
  rw [parseProperties] at stopped
  split_ifs at stopped with nothing
  · cases stopped
  rcases bind_eq_error.mp stopped with string | ⟨⟨key, ⟨named, count⟩⟩, string, stopped⟩
  · exact parseString_finishes _ string
  · obtain ⟨start, opened, characters, _⟩ := parseString_iff.mp string
    have first := skipSpace_length source
    have second := characters.length_lt
    dsimp only [skipWhitespace_source, skipWhitespace_nodes] at opened second stopped
    rw [opened, List.length_cons] at first
    split_ifs at stopped with repeated
    · cases stopped
    have third := skipSpace_length named
    cases marked : skipSpace named with
    | nil =>
        rw [marked] at stopped
        cases stopped
    | cons unit colon =>
        rw [marked] at stopped third
        rw [List.length_cons] at third
        dsimp only at stopped
        split_ifs at stopped with isColon
        swap
        · cases stopped
        rcases bind_eq_error.mp stopped with value | ⟨⟨value, after⟩, valued, stopped⟩
        · exact below.values _ _ _ (by omega) value
        · have shorter := parseValue_shorter valued
          have behind := skipSpace_length after.source
          dsimp only [skipWhitespace_source, skipWhitespace_nodes] at stopped
          cases found : skipSpace after.source with
          | nil =>
              rw [found] at stopped
              cases stopped
          | cons separator rest =>
              rw [found] at stopped behind
              rw [List.length_cons] at behind
              dsimp only at stopped
              split_ifs at stopped with brace comma
              · rcases bind_eq_error.mp stopped with further | ⟨others, _, done⟩
                · exact below.properties _ _ _ _ (by omega) further
                · cases done
              · cases stopped

/-- The parser answers on every text within the steps it is given. -/
theorem finishes (steps : ℕ) : Finishes steps := by
  induction steps with
  | zero =>
      exact ⟨fun _ _ _ covers => absurd covers (by omega),
        fun _ _ _ covers => absurd covers (by omega),
        fun _ _ _ _ covers => absurd covers (by omega)⟩
  | succ steps below =>
      exact ⟨fun _ _ _ covers => below.value covers, fun _ _ _ covers => below.entryLoop covers,
        fun _ _ _ _ covers => below.propertyLoop covers⟩

/-! ## Texts -/

/-- JSON within the limits of the parser: the root is at depth zero, no object has two equal keys,
and every number is finite. -/
structure BoundedJson (tree : JsonValue) : Prop where
  isJson : IsJson tree
  shallow : levels tree ≤ maxJsonDepth + 1
  few : nodeCount tree ≤ maxJsonNodes

private theorem fits_iff_bounded {tree : JsonValue} :
    Fits 0 0 (.value tree) ↔ BoundedJson tree := by
  constructor
  · rintro ⟨isJson, shallow, few⟩
    simp only [partLevels, partNodes, Nat.zero_add] at shallow few
    exact ⟨isJson, shallow, few⟩
  · rintro ⟨isJson, shallow, few⟩
    refine ⟨isJson, ?_, ?_⟩ <;> simpa only [partLevels, partNodes, Nat.zero_add]

private theorem endsPrimitive_space {text : JsString} (space : SpaceText text []) :
    EndsPrimitive text := by
  intro first head
  have isSpace := space.isSpace first (List.mem_of_mem_head? head)
  rw [endsPrimitive, Bool.or_eq_true]
  exact .inr isSpace

private theorem parseStrictJson_sound {source : JsString} {tree : JsonValue}
    (parsed : parseStrictJson steps source = .ok tree) :
    JsonText source tree ∧ BoundedJson tree := by
  unfold parseStrictJson at parsed
  split at parsed
  · cases parsed
  · rename_i value state first
    split_ifs at parsed with ends
    cases parsed
    obtain ⟨derived, fits, _⟩ := (takesDerived steps).values _ _ _ _ _ first
    exact ⟨⟨_, _, spaceText_skipSpace source, derived, .ofSkip ends⟩, fits_iff_bounded.mp fits⟩

private theorem parseStrictJson_complete {source : JsString} {tree : JsonValue}
    (derived : JsonText source tree) (bounded : BoundedJson tree)
    (covers : 2 * source.length ≤ steps) : parseStrictJson steps source = .ok tree := by
  obtain ⟨start, after, before, value, behind⟩ := derived
  have within := before.length_le
  have parsed := derivesJson_parsed value (endsPrimitive_space behind) 0 0 steps source
    (before.skipSpace_eq.trans value.visible) (by omega) (fits_iff_bounded.mpr bounded)
  have ends : skipSpace after = [] := behind.skipSpace_eq
  unfold parseStrictJson
  rw [parsed]
  exact if_pos ends

private theorem parseStrictJson_finishes {source : JsString}
    (covers : 2 * source.length + 1 ≤ steps) :
    parseStrictJson steps source ≠ .error .unfinished := by
  intro stopped
  unfold parseStrictJson at stopped
  split at stopped
  · rename_i stop failed
    cases stopped
    exact (finishes steps).values 0 source 0 covers failed
  · split_ifs at stopped
    cases stopped

/-- **The parser of search providers accepts exactly bounded JSON with unique keys.** With steps for
every unit of a text it ends in a value or a rejection. It has a value exactly for the texts of the
grammar whose value is bounded, and that is the value of `JSON.parse`. -/
theorem strictJsonParser_isExact (text : JsString) (more : ℕ) :
    (∀ value, parseStrictJson (2 * text.length + 1 + more) text = .ok value ↔
      JsonText text value ∧ BoundedJson value) ∧
    (∀ value, parseStrictJson (2 * text.length + 1 + more) text = .ok value →
      parseJson text = some value) ∧
    (parseStrictJson (2 * text.length + 1 + more) text = .error .rejected ∨
      ∃ value, parseStrictJson (2 * text.length + 1 + more) text = .ok value) := by
  refine ⟨fun value => ⟨parseStrictJson_sound, fun derived =>
    parseStrictJson_complete derived.1 derived.2 (by omega)⟩, fun value parsed => ?_, ?_⟩
  · obtain ⟨derived, bounded⟩ := parseStrictJson_sound parsed
    exact parseJson_jsonText derived bounded.isJson.collapsed_eq
  · cases answer : parseStrictJson (2 * text.length + 1 + more) text with
    | ok value => exact .inr ⟨value, rfl⟩
    | error stop =>
        cases stop with
        | rejected => exact .inl rfl
        | unfinished => exact absurd answer (parseStrictJson_finishes (by omega))

end Kurobara.ProviderSearch
