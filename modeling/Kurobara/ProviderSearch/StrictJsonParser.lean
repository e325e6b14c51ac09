import Kurobara.Foundation.JsonGrammar
import Kurobara.Foundation.JsonMeasure

/-! # The JSON parser of search providers

`StrictJsonParser`: a recursive parser of provider replies that leaves string tokens and primitives
to `JSON.parse`. It counts values and their depth, and refuses repeated keys. The steps that it may
take are a parameter; a text never needs more than twice its length.
-/

namespace Kurobara.ProviderSearch

open Foundation

/-- `MAX_JSON_DEPTH`. -/
def maxJsonDepth : ℕ := 64

/-- `MAX_JSON_NODES`. -/
def maxJsonNodes : ℕ := 16384

/-- Why there is no value: the response is rejected, or the steps are spent. -/
inductive ParserStop where
  | rejected
  | unfinished
  deriving DecidableEq, Repr

/-- The source from the index on, and the values counted so far. -/
structure ParserState where
  source : JsString
  nodes : ℕ
  deriving DecidableEq, Repr

/-- A step of the parser. -/
abbrev ParserStep (Value : Type) := ParserState → Except ParserStop (Value × ParserState)

def isJsonWhitespace (character : CodeUnit) : Bool :=
  character == 32 || character == 9 || character == 10 || character == 13

def skipWhitespace (state : ParserState) : ParserState :=
  { state with source := state.source.dropWhile isJsonWhitespace }

/-- `#bumpNode`: one more node, refused beyond a limit. -/
def bumpNode (depth : ℕ) (state : ParserState) : Except ParserStop ParserState :=
  if maxJsonDepth < depth ∨ maxJsonNodes < state.nodes + 1 then .error .rejected
  else .ok { state with nodes := state.nodes + 1 }

/-- A string token behind its opening quote, up to its closing quote. -/
def stringToken : Bool → JsString → Option (JsString × JsString)
  | _, [] => none
  | true, character :: rest =>
      (stringToken false rest).map fun (token, later) => (character :: token, later)
  | false, character :: rest =>
      if character = 92 then
        (stringToken true rest).map fun (token, later) => (character :: token, later)
      else if character = 34 then some ([character], rest)
      else if character < 32 then none
      else (stringToken false rest).map fun (token, later) => (character :: token, later)

def parseString (state : ParserState) : Except ParserStop (JsString × ParserState) :=
  match state.source with
  | [] => .error .rejected
  | opening :: rest =>
      if opening = 34 then
        match stringToken false rest with
        | none => .error .rejected
        | some (token, later) =>
            match parseJson (opening :: token) with
            | some (.string parsed) => .ok (parsed, { state with source := later })
            | _ => .error .rejected
      else .error .rejected

def endsPrimitive (character : CodeUnit) : Bool :=
  character == 44 || character == 93 || character == 125 || isJsonWhitespace character

/-- What `#parsePrimitive` takes of the values of `JSON.parse`. -/
def isPrimitive : JsonValue → Bool
  | .null | .boolean _ | .number (.finite _) => true
  | _ => false

def parsePrimitive (state : ParserState) : Except ParserStop (JsonValue × ParserState) :=
  match parseJson (state.source.takeWhile fun character => !endsPrimitive character) with
  | some parsed =>
      if isPrimitive parsed then
        .ok (parsed, { state with
          source := state.source.dropWhile fun character => !endsPrimitive character })
      else .error .rejected
  | none => .error .rejected

/-- An array behind its opening bracket, with the loop over its entries. -/
def parseArray (loop : ParserStep (List JsonValue)) (state : ParserState) :
    Except ParserStop (JsonValue × ParserState) :=
  let state := skipWhitespace state
  if state.source.head? = some 93 then
    .ok (.array [], { state with source := state.source.tail })
  else (loop state).map fun (result, state) => (.array result, state)

/-- An object behind its opening brace, with the loop over its properties. -/
def parseObject (loop : ParserStep (List (JsString × JsonValue))) (state : ParserState) :
    Except ParserStop (JsonValue × ParserState) :=
  let state := skipWhitespace state
  if state.source.head? = some 125 then
    .ok (.object [], { state with source := state.source.tail })
  else (loop state).map fun (result, state) => (.object result, state)

mutual

def parseValue : ℕ → ℕ → ParserState → Except ParserStop (JsonValue × ParserState)
  | 0, _, _ => .error .unfinished
  | steps + 1, depth, state => do
      let state ← bumpNode depth (skipWhitespace state)
      match state.source with
      | [] => parsePrimitive state
      | character :: rest =>
          if character = 123 then
            parseObject (parseProperties steps (depth + 1) []) { state with source := rest }
          else if character = 91 then
            parseArray (parseEntries steps (depth + 1)) { state with source := rest }
          else if character = 34 then
            (parseString state).map fun (parsed, state) => (.string parsed, state)
          else parsePrimitive state

/-- The loop of `#parseArray`. -/
def parseEntries : ℕ → ℕ → ParserState → Except ParserStop (List JsonValue × ParserState)
  | 0, _, _ => .error .unfinished
  | steps + 1, depth, state =>
      if state.source = [] then .error .rejected
      else do
        let (entry, state) ← parseValue steps depth state
        let state := skipWhitespace state
        match state.source with
        | [] => .error .rejected
        | separator :: rest =>
            if separator = 93 then .ok ([entry], { state with source := rest })
            else if separator = 44 then do
              let (entries, state) ← parseEntries steps depth { state with source := rest }
              .ok (entry :: entries, state)
            else .error .rejected

/-- The loop of `#parseObject`, with the keys set so far. -/
def parseProperties : ℕ → ℕ → List JsString → ParserState →
    Except ParserStop (List (JsString × JsonValue) × ParserState)
  | 0, _, _, _ => .error .unfinished
  | steps + 1, depth, keys, state =>
      if state.source = [] then .error .rejected
      else do
        let (key, state) ← parseString (skipWhitespace state)
        if keys.contains key then .error .rejected
        else
          let state := skipWhitespace state
          match state.source with
          | [] => .error .rejected
          | colon :: rest =>
              if colon = 58 then do
                let (value, state) ← parseValue steps depth { state with source := rest }
                let state := skipWhitespace state
                match state.source with
                | [] => .error .rejected
                | separator :: rest =>
                    if separator = 125 then .ok ([(key, value)], { state with source := rest })
                    else if separator = 44 then do
                      let (properties, state) ←
                        parseProperties steps depth (key :: keys) { state with source := rest }
                      .ok ((key, value) :: properties, state)
                    else .error .rejected
              else .error .rejected

end

/-- `new StrictJsonParser(source).parse()`. -/
def parseStrictJson (steps : ℕ) (source : JsString) : Except ParserStop JsonValue :=
  match parseValue steps 0 ⟨source, 0⟩ with
  | .error stop => .error stop
  | .ok (value, state) =>
      if (skipWhitespace state).source = [] then .ok value else .error .rejected

end Kurobara.ProviderSearch
