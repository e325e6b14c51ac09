import Kurobara.Foundation.JsonTree

/-! # Strict JSON

`parseJsonWithUniqueObjectKeys`: a scanner looks at the strings and brackets of a text before
`JSON.parse` reads it, and refuses repeated keys, too many keys and too deep nesting. It scans any
text, and drops at least one unit at each step.
-/

namespace Kurobara.DatasetCodec

open Kurobara.Foundation

/-- The containers around a place; an object knows whether a key comes next, and its keys. -/
inductive JsonContext where
  | array
  | object (expectsKey : Bool) (keys : List JsString)
  deriving DecidableEq, Repr

/-- `MAX_JSON_NESTING_DEPTH`. -/
def maxJsonNestingDepth : ℕ := 64

/-- `MAX_JSON_OBJECT_KEYS`. -/
def maxJsonObjectKeys : ℕ := 512

/-- The rest of a string token behind its opening quote, and what follows it. -/
def stringEnd : JsString → Option (JsString × JsString)
  | [] => none
  | unit :: rest =>
      if unit = 34 then some ([34], rest)
      else if unit = 92 then
        match rest with
        | [] => none
        | escaped :: rest =>
            (stringEnd rest).map fun (token, later) => (unit :: escaped :: token, later)
      else (stringEnd rest).map fun (token, later) => (unit :: token, later)

/-- The key of a string token without its opening quote. -/
def decodedKey (token : JsString) : Option JsString :=
  match parseJson (34 :: token) with
  | some (.string key) => some key
  | _ => none

/-- The contexts behind a string token, unless it is a key that is refused. -/
def scanString (token : JsString) (contexts : List JsonContext) : Option (List JsonContext) :=
  match contexts with
  | .object true keys :: outer =>
      match decodedKey token with
      | none => none
      | some key =>
          if keys.contains key || decide (maxJsonObjectKeys ≤ keys.length) then none
          else some (.object false (key :: keys) :: outer)
  | _ => some contexts

/-- What a structural character does to the stack of open objects and arrays. -/
def updateContexts (unit : CodeUnit) (contexts : List JsonContext) : Option (List JsonContext) :=
  if unit = 123 then
    if maxJsonNestingDepth ≤ contexts.length then none else some (.object true [] :: contexts)
  else if unit = 91 then
    if maxJsonNestingDepth ≤ contexts.length then none else some (.array :: contexts)
  else if unit = 125 ∨ unit = 93 then some contexts.tail
  else if unit = 44 then
    match contexts with
    | .object _ keys :: outer => some (.object true keys :: outer)
    | _ => some contexts
  else some contexts

private theorem stringEnd_length {source token later : JsString}
    (ends : stringEnd source = some (token, later)) : later.length < source.length := by
  induction source using stringEnd.induct generalizing token with
  | case1 => cases ends
  | case2 rest =>
      rw [stringEnd.eq_def] at ends
      dsimp only at ends
      rw [if_pos rfl] at ends
      cases ends
      exact Nat.lt_succ_self _
  | case3 _ => cases ends
  | case4 escaped rest notQuote ih =>
      rw [stringEnd.eq_def] at ends
      dsimp only at ends
      rw [if_neg notQuote, if_pos rfl] at ends
      obtain ⟨inner, found, split⟩ := Option.map_eq_some_iff.mp ends
      cases split
      have shorter := ih found
      simp only [List.length_cons]
      omega
  | case5 unit rest notQuote notEscape ih =>
      rw [stringEnd.eq_def] at ends
      dsimp only at ends
      rw [if_neg notQuote, if_neg notEscape] at ends
      obtain ⟨inner, found, split⟩ := Option.map_eq_some_iff.mp ends
      cases split
      have shorter := ih found
      simp only [List.length_cons]
      omega

/-- The loop of `hasUniqueObjectKeys`, on the source that is left. -/
def hasUniqueKeysFrom (contexts : List JsonContext) (source : JsString) : Bool :=
  match source with
  | [] => true
  | unit :: rest =>
      if unit = 34 then
        match _ends : stringEnd rest with
        | none => false
        | some (token, later) =>
            match scanString token contexts with
            | none => false
            | some next => hasUniqueKeysFrom next later
      else
        match updateContexts unit contexts with
        | none => false
        | some next => hasUniqueKeysFrom next rest
termination_by source.length
decreasing_by
  · have shorter := stringEnd_length _ends
    simp only [List.length_cons]
    omega
  · exact Nat.lt_succ_self _

/-- `hasUniqueObjectKeys`: no object has a key twice, and the text stays in the nesting and key
limits. -/
def hasUniqueObjectKeys (source : JsString) : Bool :=
  hasUniqueKeysFrom [] source

/-- The value of a strict text; without one, parsing fails. -/
def parseJsonWithUniqueObjectKeys (source : JsString) : Option JsonValue :=
  if hasUniqueObjectKeys source then parseJson source else none

/-! ## Scanning -/

/-- A unit that changes no context. -/
def isPlainUnit (unit : CodeUnit) : Bool :=
  unit != 34 && unit != 123 && unit != 91 && unit != 125 && unit != 93 && unit != 44

private theorem hasUniqueKeysFrom_update {unit : CodeUnit} (noQuote : unit ≠ 34)
    (contexts : List JsonContext) (rest : JsString) :
    hasUniqueKeysFrom contexts (unit :: rest) =
      match updateContexts unit contexts with
      | none => false
      | some next => hasUniqueKeysFrom next rest := by
  rw [hasUniqueKeysFrom.eq_def]
  dsimp only
  rw [if_neg noQuote]

private theorem hasUniqueKeysFrom_plain {unit : CodeUnit} (plain : isPlainUnit unit = true)
    (contexts : List JsonContext) (rest : JsString) :
    hasUniqueKeysFrom contexts (unit :: rest) = hasUniqueKeysFrom contexts rest := by
  simp only [isPlainUnit, Bool.and_eq_true, bne_iff_ne, ne_eq] at plain
  obtain ⟨⟨⟨⟨⟨noQuote, noBrace⟩, noBracket⟩, noBraceEnd⟩, noBracketEnd⟩, noComma⟩ := plain
  have kept : updateContexts unit contexts = some contexts := by
    simp [updateContexts, noBrace, noBracket, noBraceEnd, noBracketEnd, noComma]
  rw [hasUniqueKeysFrom_update noQuote, kept]

private theorem hasUniqueKeysFrom_run {run : JsString}
    (plain : ∀ unit ∈ run, isPlainUnit unit = true)
    (contexts : List JsonContext) (rest : JsString) :
    hasUniqueKeysFrom contexts (run ++ rest) = hasUniqueKeysFrom contexts rest := by
  induction run with
  | nil => rfl
  | cons unit others ih =>
      rw [List.cons_append, hasUniqueKeysFrom_plain (plain unit List.mem_cons_self),
        ih fun other member => plain other (List.mem_cons_of_mem unit member)]

private theorem hasUniqueKeysFrom_skipSpace (contexts : List JsonContext) (text : JsString) :
    hasUniqueKeysFrom contexts text = hasUniqueKeysFrom contexts (skipSpace text) := by
  have spaces : ∀ unit ∈ text.takeWhile isJsonSpace, isPlainUnit unit = true := by
    intro unit member
    have space := List.mem_takeWhile_imp member
    simp only [isJsonSpace, Bool.or_eq_true, beq_iff_eq] at space
    rcases space with ((rfl | rfl) | rfl) | rfl <;> rfl
  conv_lhs => rw [← List.takeWhile_append_dropWhile (p := isJsonSpace) (l := text)]
  exact hasUniqueKeysFrom_run spaces contexts _

private theorem hasUniqueKeysFrom_string {token later : JsString} {rest : JsString}
    (ends : stringEnd rest = some (token, later)) (contexts : List JsonContext) :
    hasUniqueKeysFrom contexts (34 :: rest) =
      match scanString token contexts with
      | none => false
      | some next => hasUniqueKeysFrom next later := by
  rw [hasUniqueKeysFrom.eq_def]
  dsimp only
  rw [if_pos rfl]
  split
  · rename_i missing
    rw [missing] at ends
    cases ends
  · rename_i foundToken foundLater found
    rw [found] at ends
    cases ends
    rfl

/-! ## Strings -/

private theorem hexValue_plain {unit : CodeUnit} {digit : ℕ} (hex : hexValue unit = some digit) :
    unit ≠ 34 ∧ unit ≠ 92 := by
  constructor
  · intro quote
    have none : hexValue 34 = none := by decide
    rw [quote, none] at hex
    cases hex
  · intro escape
    have none : hexValue 92 = none := by decide
    rw [escape, none] at hex
    cases hex

/-- A unit that neither ends nor escapes belongs to its token. -/
theorem stringEnd_plain {unit : CodeUnit} (noQuote : unit ≠ 34) (noEscape : unit ≠ 92)
    (rest : JsString) :
    stringEnd (unit :: rest) =
      (stringEnd rest).map fun (token, later) => (unit :: token, later) := by
  rw [stringEnd.eq_def]
  dsimp only
  rw [if_neg noQuote, if_neg noEscape]

private theorem stringEnd_escape (escaped : CodeUnit) (rest : JsString) :
    stringEnd (92 :: escaped :: rest) =
      (stringEnd rest).map fun (token, later) => (92 :: escaped :: token, later) := by
  rw [stringEnd.eq_def]
  rfl

/-- A string ends where it is read to, and its token reads alone. -/
def ReadsToken (text : JsString) : Prop :=
  ∀ value rest, readString text = some (value, rest) →
    ∃ token, stringEnd text = some (token, rest) ∧
      ∀ other, readString (token ++ other) = some (value, other)

/-- Units in front of a token, when they are read as one unit and end no string. -/
theorem ReadsToken.cons {text : JsString} (reads : ReadsToken text) (front : JsString)
    (read : Option CodeUnit)
    (readFront : ∀ rest, readString (front ++ rest) =
      read.bind fun unit => (readString rest).map fun (value, later) => (unit :: value, later))
    (ends : read.isSome → ∀ rest, stringEnd (front ++ rest) =
      (stringEnd rest).map fun (token, later) => (front ++ token, later)) :
    ReadsToken (front ++ text) := by
  intro value rest found
  rw [readFront] at found
  obtain ⟨unit, unitEq, found⟩ := Option.bind_eq_some_iff.mp found
  obtain ⟨⟨tail, later⟩, tailRead, split⟩ := Option.map_eq_some_iff.mp found
  cases split
  obtain ⟨token, tokenEnds, alone⟩ := reads tail rest tailRead
  refine ⟨front ++ token, ?_, fun other => ?_⟩
  · rw [ends (by rw [unitEq]; rfl), tokenEnds]
    rfl
  · rw [List.append_assoc, readFront, alone, unitEq]
    rfl

private theorem readString_stringEnd (text : JsString) : ReadsToken text := by
  induction text using readString.induct with
  | case1 =>
      intro value rest read
      cases read
  | case2 later =>
      intro value rest read
      rw [readString.eq_def] at read
      dsimp only at read
      rw [if_pos rfl] at read
      cases read
      refine ⟨[34], ?_, fun other => ?_⟩
      · rw [stringEnd.eq_def]
        rfl
      · rw [List.singleton_append, readString.eq_def]
        rfl
  | case3 _ =>
      intro value rest read
      cases read
  | case4 first second third fourth later _ ih =>
      refine ih.cons [92, 117, first, second, third, fourth] (readHex first second third fourth)
        (fun rest => ?_) fun isHex rest => ?_
      · rw [List.cons_append, readString.eq_def]
        rfl
      · obtain ⟨unit, hex⟩ := Option.isSome_iff_exists.mp isHex
        unfold readHex at hex
        simp only [Option.bind_eq_bind, Option.bind_eq_some_iff, Option.some.injEq] at hex
        obtain ⟨firstDigit, firstHex, secondDigit, secondHex, thirdDigit, thirdHex, fourthDigit,
          fourthHex, _⟩ := hex
        dsimp only [List.cons_append, List.nil_append]
        rw [stringEnd_escape,
          stringEnd_plain (hexValue_plain firstHex).1 (hexValue_plain firstHex).2,
          stringEnd_plain (hexValue_plain secondHex).1 (hexValue_plain secondHex).2,
          stringEnd_plain (hexValue_plain thirdHex).1 (hexValue_plain thirdHex).2,
          stringEnd_plain (hexValue_plain fourthHex).1 (hexValue_plain fourthHex).2]
        cases stringEnd rest <;> rfl
  | case5 later short _ =>
      intro value rest read
      rw [readString.eq_def] at read
      dsimp only at read
      rw [if_neg (by decide), if_pos rfl, if_pos rfl] at read
      split at read
      · exact absurd rfl (short _ _ _ _ _)
      · cases read
  | case6 letter later noHex _ ih =>
      refine ih.cons [92, letter] (unescapeLetter letter) (fun rest => ?_) fun _ rest => ?_
      · rw [List.cons_append, readString.eq_def]
        dsimp only [List.cons_append, List.nil_append]
        rw [if_neg (by decide), if_pos rfl, if_neg noHex]
      · exact stringEnd_escape letter rest
  | case7 unit later noQuote noEscape control =>
      intro value rest read
      rw [readString.eq_def] at read
      dsimp only at read
      rw [if_neg noQuote, if_neg noEscape, if_pos control] at read
      cases read
  | case8 unit later noQuote noEscape printable ih =>
      refine ih.cons [unit] (some unit) (fun rest => ?_) fun _ rest => ?_
      · exact readString_plain noQuote noEscape printable
      · exact stringEnd_plain noQuote noEscape rest

/-- The key of a token is what the token reads as. -/
theorem decodedKey_token {token value : JsString}
    (alone : readString (token ++ []) = some (value, [])) : decodedKey token = some value := by
  rw [List.append_nil] at alone
  have visible : skipSpace (34 :: token) = 34 :: token := skipSpace_cons (by decide)
  have read : readValue ((34 :: token).length + 1) (34 :: token) = some (.string value, []) := by
    rw [readValue, visible]
    dsimp only
    rw [if_pos rfl, alone]
    rfl
  rw [decodedKey, parseJson, read]
  rfl

/-! ## The values that are accepted -/

/-- New keys of an object that has some already. -/
def keysFit : List JsString → List JsString → Bool
  | _, [] => true
  | keys, key :: rest =>
      !(keys.contains key || decide (maxJsonObjectKeys ≤ keys.length)) && keysFit (key :: keys) rest

mutual

/-- A value that the scanner accepts inside so many containers. -/
def fitsAt (depth : ℕ) : JsonValue → Bool
  | .array entries => decide (depth < maxJsonNestingDepth) && entriesFitAt (depth + 1) entries
  | .object properties =>
      decide (depth < maxJsonNestingDepth) && keysFit [] (properties.map Prod.fst) &&
        propertiesFitAt (depth + 1) properties
  | _ => true

def entriesFitAt (depth : ℕ) : List JsonValue → Bool
  | [] => true
  | entry :: rest => fitsAt depth entry && entriesFitAt depth rest

def propertiesFitAt (depth : ℕ) : List (JsString × JsonValue) → Bool
  | [] => true
  | (_, value) :: rest => fitsAt depth value && propertiesFitAt depth rest

end

/-- A string that comes next is no key. -/
def ExpectsValue (contexts : List JsonContext) : Prop :=
  ∀ keys outer, contexts ≠ .object true keys :: outer

private theorem scanString_value {contexts : List JsonContext} (expects : ExpectsValue contexts)
    (token : JsString) : scanString token contexts = some contexts := by
  unfold scanString
  split
  · rename_i keys outer
    exact absurd rfl (expects keys outer)
  · rfl

private theorem hasUniqueKeysFrom_value {value rest later : JsString} {contexts : List JsonContext}
    (expects : ExpectsValue contexts) (read : readString rest = some (value, later)) :
    hasUniqueKeysFrom contexts (34 :: rest) = hasUniqueKeysFrom contexts later := by
  obtain ⟨token, ends, _⟩ := readString_stringEnd rest value later read
  rw [hasUniqueKeysFrom_string ends, scanString_value expects]

/-- A literal name has plain units. -/
theorem hasUniqueKeysFrom_literal {literal : String} {value tree : JsonValue}
    {text rest : JsString} (plain : ∀ unit ∈ ascii literal, isPlainUnit unit = true)
    (read : readLiteral literal value text = some (tree, rest)) (contexts : List JsonContext) :
    hasUniqueKeysFrom contexts text = hasUniqueKeysFrom contexts rest ∧ tree = value := by
  unfold readLiteral at read
  split_ifs at read with found
  cases read
  refine ⟨?_, rfl⟩
  conv_lhs => rw [← List.take_append_drop (ascii literal).length text, found]
  exact hasUniqueKeysFrom_run plain contexts _

private theorem hasUniqueKeysFrom_number {tree : JsonValue} {text rest : JsString}
    (read : readJsonNumber text = some (tree, rest)) (contexts : List JsonContext) :
    hasUniqueKeysFrom contexts text = hasUniqueKeysFrom contexts rest ∧
      ∃ number, tree = .number number := by
  unfold readJsonNumber at read
  obtain ⟨number, _, split⟩ := Option.map_eq_some_iff.mp read
  cases split
  refine ⟨?_, number, rfl⟩
  conv_lhs => rw [← List.takeWhile_append_dropWhile (p := isNumberUnit) (l := text)]
  refine hasUniqueKeysFrom_run (fun unit member => ?_) contexts _
  have isNumber := List.mem_takeWhile_imp member
  simp only [isPlainUnit, Bool.and_eq_true, bne_iff_ne, ne_eq]
  refine ⟨⟨⟨⟨⟨?_, ?_⟩, ?_⟩, ?_⟩, ?_⟩, ?_⟩ <;>
    (rintro rfl; exact absurd isNumber (by decide))

/-- What the scanner does with values, entries and properties that are read with this fuel. -/
structure ScansTrees (fuel : ℕ) : Prop where
  values : ∀ text tree rest, readTree fuel text = some (tree, rest) →
    ∀ contexts, ExpectsValue contexts →
      hasUniqueKeysFrom contexts text =
        (fitsAt contexts.length tree && hasUniqueKeysFrom contexts rest)
  entries : ∀ text entries rest, readTreeEntries fuel text = some (entries, rest) →
    ∀ outer : List JsonContext,
      hasUniqueKeysFrom (.array :: outer) text =
        (entriesFitAt (outer.length + 1) entries && hasUniqueKeysFrom outer rest)
  properties : ∀ text properties rest, readTreeProperties fuel text = some (properties, rest) →
    ∀ keys (outer : List JsonContext),
      hasUniqueKeysFrom (.object true keys :: outer) text =
        (keysFit keys (properties.map Prod.fst) &&
          propertiesFitAt (outer.length + 1) properties && hasUniqueKeysFrom outer rest)

private theorem expectsValue_array (outer : List JsonContext) : ExpectsValue (.array :: outer) := by
  intro keys other same
  cases same

private theorem expectsValue_object (keys : List JsString) (outer : List JsonContext) :
    ExpectsValue (.object false keys :: outer) := by
  intro other rest same
  cases same

/-- A bracket opens a context unless there are too many. -/
theorem hasUniqueKeysFrom_open {unit : CodeUnit} {opened : JsonContext}
    (isOpening : unit = 123 ∧ opened = .object true [] ∨ unit = 91 ∧ opened = .array)
    (contexts : List JsonContext) (rest : JsString) :
    hasUniqueKeysFrom contexts (unit :: rest) =
      (decide (contexts.length < maxJsonNestingDepth) &&
        hasUniqueKeysFrom (opened :: contexts) rest) := by
  have noQuote : unit ≠ 34 := by
    rcases isOpening with ⟨rfl, _⟩ | ⟨rfl, _⟩ <;> decide
  have update : updateContexts unit contexts =
      if maxJsonNestingDepth ≤ contexts.length then none else some (opened :: contexts) := by
    rcases isOpening with ⟨rfl, rfl⟩ | ⟨rfl, rfl⟩
    · exact if_pos rfl
    · exact (if_neg (by decide)).trans (if_pos rfl)
  rw [hasUniqueKeysFrom_update noQuote, update]
  by_cases deep : maxJsonNestingDepth ≤ contexts.length
  · rw [if_pos deep, decide_eq_false (by omega), Bool.false_and]
  · rw [if_neg deep, decide_eq_true (by omega), Bool.true_and]

private theorem hasUniqueKeysFrom_close {unit : CodeUnit} (isClosing : unit = 125 ∨ unit = 93)
    (context : JsonContext) (outer : List JsonContext) (rest : JsString) :
    hasUniqueKeysFrom (context :: outer) (unit :: rest) = hasUniqueKeysFrom outer rest := by
  have noQuote : unit ≠ 34 := by
    rcases isClosing with rfl | rfl <;> decide
  have update : updateContexts unit (context :: outer) = some outer := by
    rcases isClosing with rfl | rfl <;> rfl
  rw [hasUniqueKeysFrom_update noQuote, update]

private theorem hasUniqueKeysFrom_comma (context : JsonContext) (outer : List JsonContext)
    (rest : JsString) :
    hasUniqueKeysFrom (context :: outer) (44 :: rest) =
      match context with
      | .object _ keys => hasUniqueKeysFrom (.object true keys :: outer) rest
      | .array => hasUniqueKeysFrom (.array :: outer) rest := by
  rw [hasUniqueKeysFrom_update (by decide)]
  cases context <;> rfl

/-- A closing bracket at the head of the text behind spaces. -/
theorem skipSpace_head {text : JsString} {unit : CodeUnit}
    (head : (skipSpace text).head? = some unit) :
    skipSpace text = unit :: (skipSpace text).tail := by
  cases split : skipSpace text with
  | nil =>
      rw [split] at head
      cases head
  | cons first rest =>
      rw [split, List.head?_cons, Option.some.injEq] at head
      rw [head, List.tail_cons]

private theorem ScansTrees.value_succ {fuel : ℕ} (scans : ScansTrees fuel) {text rest : JsString}
    {tree : JsonValue} (read : readTree (fuel + 1) text = some (tree, rest))
    {contexts : List JsonContext} (expects : ExpectsValue contexts) :
    hasUniqueKeysFrom contexts text =
      (fitsAt contexts.length tree && hasUniqueKeysFrom contexts rest) := by
  rw [readTree] at read
  rw [hasUniqueKeysFrom_skipSpace]
  cases visible : skipSpace text with
  | nil =>
      rw [visible] at read
      cases read
  | cons unit later =>
      rw [visible] at read
      dsimp only at read
      split_ifs at read with isString isArray emptyArray isObject emptyObject isNull isTrue isFalse
      · obtain ⟨⟨value, behind⟩, string, split⟩ := Option.map_eq_some_iff.mp read
        cases split
        rw [isString, hasUniqueKeysFrom_value expects string]
        exact (Bool.true_and _).symm
      · cases read
        rw [isArray, hasUniqueKeysFrom_open (.inr ⟨rfl, rfl⟩), hasUniqueKeysFrom_skipSpace,
          skipSpace_head emptyArray, hasUniqueKeysFrom_close (.inr rfl), List.tail_cons]
        simp [fitsAt, entriesFitAt]
      · obtain ⟨⟨entries, behind⟩, inner, split⟩ := Option.map_eq_some_iff.mp read
        cases split
        rw [isArray, hasUniqueKeysFrom_open (.inr ⟨rfl, rfl⟩),
          scans.entries _ _ _ inner contexts, fitsAt, Bool.and_assoc]
      · cases read
        rw [isObject, hasUniqueKeysFrom_open (.inl ⟨rfl, rfl⟩), hasUniqueKeysFrom_skipSpace,
          skipSpace_head emptyObject, hasUniqueKeysFrom_close (.inl rfl), List.tail_cons]
        simp [fitsAt, keysFit, propertiesFitAt]
      · obtain ⟨⟨properties, behind⟩, inner, split⟩ := Option.map_eq_some_iff.mp read
        cases split
        rw [isObject, hasUniqueKeysFrom_open (.inl ⟨rfl, rfl⟩),
          scans.properties _ _ _ inner [] contexts, fitsAt, Bool.and_assoc, Bool.and_assoc,
          Bool.and_assoc]
      · obtain ⟨scanned, rfl⟩ :=
          hasUniqueKeysFrom_literal (List.all_eq_true.mp (by decide)) read contexts
        exact scanned.trans (Bool.true_and _).symm
      · obtain ⟨scanned, rfl⟩ :=
          hasUniqueKeysFrom_literal (List.all_eq_true.mp (by decide)) read contexts
        exact scanned.trans (Bool.true_and _).symm
      · obtain ⟨scanned, rfl⟩ :=
          hasUniqueKeysFrom_literal (List.all_eq_true.mp (by decide)) read contexts
        exact scanned.trans (Bool.true_and _).symm
      · obtain ⟨scanned, number, rfl⟩ := hasUniqueKeysFrom_number read contexts
        exact scanned.trans (Bool.true_and _).symm

private theorem ScansTrees.entries_succ {fuel : ℕ} (scans : ScansTrees fuel) {text rest : JsString}
    {entries : List JsonValue} (read : readTreeEntries (fuel + 1) text = some (entries, rest))
    (outer : List JsonContext) :
    hasUniqueKeysFrom (.array :: outer) text =
      (entriesFitAt (outer.length + 1) entries && hasUniqueKeysFrom outer rest) := by
  rw [readTreeEntries] at read
  obtain ⟨⟨entry, behind⟩, first, read⟩ := Option.bind_eq_some_iff.mp read
  rw [scans.values _ _ _ first _ (expectsValue_array outer), List.length_cons,
    hasUniqueKeysFrom_skipSpace]
  dsimp only at read
  cases visible : skipSpace behind with
  | nil =>
      rw [visible] at read
      cases read
  | cons unit later =>
      rw [visible] at read
      dsimp only at read
      split_ifs at read with isComma closes
      · obtain ⟨⟨others, last⟩, inner, split⟩ := Option.map_eq_some_iff.mp read
        cases split
        rw [isComma, hasUniqueKeysFrom_comma]
        dsimp only
        rw [scans.entries _ _ _ inner outer, entriesFitAt, Bool.and_assoc]
      · cases read
        rw [closes, hasUniqueKeysFrom_close (.inr rfl), entriesFitAt, entriesFitAt, Bool.and_true]

/-- A key is refused or added to those of its object. -/
theorem hasUniqueKeysFrom_key {rest key later : JsString}
    (read : readString rest = some (key, later)) (keys : List JsString)
    (outer : List JsonContext) :
    hasUniqueKeysFrom (.object true keys :: outer) (34 :: rest) =
      (!(keys.contains key || decide (maxJsonObjectKeys ≤ keys.length)) &&
        hasUniqueKeysFrom (.object false (key :: keys) :: outer) later) := by
  obtain ⟨token, ends, alone⟩ := readString_stringEnd rest key later read
  rw [hasUniqueKeysFrom_string ends, scanString, decodedKey_token (alone [])]
  dsimp only
  by_cases refused : (keys.contains key || decide (maxJsonObjectKeys ≤ keys.length)) = true
  · rw [if_pos refused, refused]
    rfl
  · rw [if_neg refused]
    rw [Bool.not_eq_true] at refused
    rw [refused]
    exact (Bool.true_and _).symm

private theorem ScansTrees.properties_succ {fuel : ℕ} (scans : ScansTrees fuel)
    {text rest : JsString}
    {properties : List (JsString × JsonValue)}
    (read : readTreeProperties (fuel + 1) text = some (properties, rest)) (keys : List JsString)
    (outer : List JsonContext) :
    hasUniqueKeysFrom (.object true keys :: outer) text =
      (keysFit keys (properties.map Prod.fst) &&
        propertiesFitAt (outer.length + 1) properties && hasUniqueKeysFrom outer rest) := by
  rw [readTreeProperties] at read
  rw [hasUniqueKeysFrom_skipSpace]
  cases visible : skipSpace text with
  | nil =>
      rw [visible] at read
      cases read
  | cons unit behindQuote =>
      rw [visible] at read
      dsimp only at read
      split_ifs at read with isKey
      obtain ⟨⟨key, behindKey⟩, keyRead, read⟩ := Option.bind_eq_some_iff.mp read
      rw [isKey, hasUniqueKeysFrom_key keyRead, hasUniqueKeysFrom_skipSpace]
      dsimp only at read
      cases visibleColon : skipSpace behindKey with
      | nil =>
          rw [visibleColon] at read
          cases read
      | cons colon behindColon =>
          rw [visibleColon] at read
          dsimp only at read
          split_ifs at read with isColon
          obtain ⟨⟨value, behindValue⟩, valueRead, read⟩ := Option.bind_eq_some_iff.mp read
          rw [isColon, hasUniqueKeysFrom_plain (by decide),
            scans.values _ _ _ valueRead _ (expectsValue_object (key :: keys) outer),
            List.length_cons, hasUniqueKeysFrom_skipSpace]
          dsimp only at read
          cases visibleEnd : skipSpace behindValue with
          | nil =>
              rw [visibleEnd] at read
              cases read
          | cons mark later =>
              rw [visibleEnd] at read
              dsimp only at read
              split_ifs at read with isComma closes
              · obtain ⟨⟨others, last⟩, inner, split⟩ := Option.map_eq_some_iff.mp read
                cases split
                rw [isComma, hasUniqueKeysFrom_comma]
                dsimp only
                rw [scans.properties _ _ _ inner (key :: keys) outer, List.map_cons, keysFit,
                  propertiesFitAt]
                simp only [Bool.and_assoc, Bool.and_left_comm]
              · cases read
                rw [closes, hasUniqueKeysFrom_close (.inl rfl), List.map_cons, List.map_nil,
                  keysFit, keysFit, propertiesFitAt, propertiesFitAt, Bool.and_true,
                  Bool.and_true, Bool.and_assoc]

/-- **The scanner accepts what it reads when it fits**: one step more of fuel at a time. -/
theorem scansTrees (fuel : ℕ) : ScansTrees fuel := by
  induction fuel with
  | zero =>
      refine ⟨?_, ?_, ?_⟩
      · intro text tree rest read
        rw [readTree] at read
        cases read
      · intro text entries rest read
        rw [readTreeEntries] at read
        cases read
      · intro text properties rest read
        rw [readTreeProperties] at read
        cases read
  | succ fuel ih =>
      exact ⟨fun _ _ _ read _ expects => ih.value_succ read expects,
        fun _ _ _ read outer => ih.entries_succ read outer,
        fun _ _ _ read keys outer => ih.properties_succ read keys outer⟩

/-! ## Strict trees -/

/-- A value within the limits, in which no object repeats a key. -/
structure IsStrict (tree : JsonValue) : Prop where
  unique : ∀ keys ∈ tree.objectKeys, keys.Nodup
  bounded : ∀ keys ∈ tree.objectKeys, keys.length ≤ maxJsonObjectKeys
  nested : tree.nesting ≤ maxJsonNestingDepth

private theorem keysFit_iff (keys others : List JsString) (unique : keys.Nodup)
    (bounded : keys.length ≤ maxJsonObjectKeys) :
    keysFit keys others = true ↔
      (others ++ keys).Nodup ∧ others.length + keys.length ≤ maxJsonObjectKeys := by
  induction others generalizing keys with
  | nil => simp [keysFit, unique, bounded]
  | cons key rest ih =>
      rw [keysFit, Bool.and_eq_true, Bool.not_eq_true', Bool.or_eq_false_iff,
        decide_eq_false_iff_not, not_le]
      have moved : (key :: rest ++ keys).Nodup ↔ (rest ++ key :: keys).Nodup :=
        (@List.perm_middle _ key rest keys).symm.nodup_iff
      constructor
      · rintro ⟨⟨fresh, few⟩, later⟩
        have new : key ∉ keys := by simpa using fresh
        have result := (ih (key :: keys) (List.nodup_cons.mpr ⟨new, unique⟩)
          (Nat.succ_le_of_lt few)).mp later
        refine ⟨moved.mpr result.1, ?_⟩
        have count := result.2
        simp only [List.length_cons] at count ⊢
        omega
      · rintro ⟨nodup, count⟩
        have apart := moved.mp nodup
        have behind : (key :: keys).Nodup := (List.nodup_append.mp apart).2.1
        have new := (List.nodup_cons.mp behind).1
        simp only [List.length_cons] at count
        refine ⟨⟨by simpa using new, by omega⟩, ?_⟩
        refine (ih (key :: keys) behind ?_).mpr ⟨apart, ?_⟩
        · simp only [List.length_cons]
          omega
        · simp only [List.length_cons]
          omega

/-- Objects that neither repeat keys nor have too many. -/
def KeysAccepted (objects : List (List JsString)) : Prop :=
  ∀ keys ∈ objects, keys.Nodup ∧ keys.length ≤ maxJsonObjectKeys

private theorem keysAccepted_append (left right : List (List JsString)) :
    KeysAccepted (left ++ right) ↔ KeysAccepted left ∧ KeysAccepted right := by
  unfold KeysAccepted
  constructor
  · intro accepted
    exact ⟨fun keys member => accepted keys (List.mem_append_left _ member),
      fun keys member => accepted keys (List.mem_append_right _ member)⟩
  · rintro ⟨first, second⟩ keys member
    rcases List.mem_append.mp member with earlier | later
    · exact first keys earlier
    · exact second keys later

/-- What fits beside and what fits behind, under the same bound. -/
theorem fits_both {first second : Prop} {depth left right : ℕ} :
    ((first ∧ depth + left ≤ maxJsonNestingDepth) ∧
        (second ∧ depth + right ≤ maxJsonNestingDepth)) ↔
      ((first ∧ second) ∧ depth + max left right ≤ maxJsonNestingDepth) := by
  constructor
  · rintro ⟨⟨one, below⟩, two, above⟩
    exact ⟨⟨one, two⟩, by omega⟩
  · rintro ⟨⟨one, two⟩, bound⟩
    exact ⟨⟨one, by omega⟩, two, by omega⟩

mutual

private theorem fitsAt_iff (depth : ℕ) (shallow : depth ≤ maxJsonNestingDepth) : ∀ tree : JsonValue,
    fitsAt depth tree = true ↔
      KeysAccepted tree.objectKeys ∧ depth + tree.nesting ≤ maxJsonNestingDepth
  | .null | .boolean _ | .number _ | .string _ => by
      simp [fitsAt, JsonValue.objectKeys, JsonValue.nesting, KeysAccepted, shallow]
  | .array entries => by
      rw [fitsAt, JsonValue.objectKeys, JsonValue.nesting, Bool.and_eq_true, decide_eq_true_eq]
      constructor
      · rintro ⟨inside, fits⟩
        obtain ⟨accepted, bound⟩ := (entriesFitAt_iff (depth + 1) inside entries).mp fits
        exact ⟨accepted, by omega⟩
      · rintro ⟨accepted, bound⟩
        refine ⟨by omega,
          (entriesFitAt_iff (depth + 1) (by omega) entries).mpr ⟨accepted, by omega⟩⟩
  | .object properties => by
      rw [fitsAt, JsonValue.objectKeys, JsonValue.nesting, Bool.and_eq_true, Bool.and_eq_true,
        decide_eq_true_eq, keysFit_iff [] _ List.nodup_nil (Nat.zero_le _), List.append_nil]
      constructor
      · rintro ⟨⟨inside, nodup, few⟩, fits⟩
        obtain ⟨accepted, bound⟩ := (propertiesFitAt_iff (depth + 1) inside properties).mp fits
        refine ⟨fun keys member => ?_, by omega⟩
        rcases List.mem_cons.mp member with rfl | later
        · exact ⟨nodup, few⟩
        · exact accepted keys later
      · rintro ⟨accepted, bound⟩
        have own := accepted _ List.mem_cons_self
        refine ⟨⟨by omega, own.1, own.2⟩,
          (propertiesFitAt_iff (depth + 1) (by omega) properties).mpr
          ⟨fun keys member => accepted keys (List.mem_cons_of_mem _ member), by omega⟩⟩

private theorem entriesFitAt_iff (depth : ℕ) (shallow : depth ≤ maxJsonNestingDepth) :
    ∀ entries : List JsonValue, entriesFitAt depth entries = true ↔
      KeysAccepted (objectKeysEntries entries) ∧
        depth + nestingEntries entries ≤ maxJsonNestingDepth
  | [] => by
      simp [entriesFitAt, objectKeysEntries, nestingEntries, KeysAccepted, shallow]
  | entry :: rest => by
      rw [entriesFitAt, objectKeysEntries, nestingEntries, Bool.and_eq_true,
        fitsAt_iff depth shallow entry, entriesFitAt_iff depth shallow rest, keysAccepted_append]
      exact fits_both

private theorem propertiesFitAt_iff (depth : ℕ) (shallow : depth ≤ maxJsonNestingDepth) :
    ∀ properties : List (JsString × JsonValue), propertiesFitAt depth properties = true ↔
      KeysAccepted (objectKeysProperties properties) ∧
        depth + nestingProperties properties ≤ maxJsonNestingDepth
  | [] => by
      simp [propertiesFitAt, objectKeysProperties, nestingProperties, KeysAccepted, shallow]
  | (_, value) :: rest => by
      rw [propertiesFitAt, objectKeysProperties, nestingProperties, Bool.and_eq_true,
        fitsAt_iff depth shallow value, propertiesFitAt_iff depth shallow rest,
        keysAccepted_append]
      exact fits_both

end

private theorem fitsAt_iff_isStrict (tree : JsonValue) : fitsAt 0 tree = true ↔ IsStrict tree := by
  rw [fitsAt_iff 0 (Nat.zero_le _), Nat.zero_add]
  constructor
  · rintro ⟨accepted, nested⟩
    exact ⟨fun keys member => (accepted keys member).1, fun keys member => (accepted keys member).2,
      nested⟩
  · intro strict
    exact ⟨fun keys member => ⟨strict.unique keys member, strict.bounded keys member⟩,
      strict.nested⟩

/-- On a JSON text, the scanner decides whether its tree is strict. -/
theorem hasUniqueObjectKeys_iff {text : JsString} {tree : JsonValue}
    (read : jsonTree text = some tree) : hasUniqueObjectKeys text = true ↔ IsStrict tree := by
  unfold jsonTree at read
  cases found : readTree (text.length + 1) text with
  | none =>
      rw [found] at read
      cases read
  | some result =>
      obtain ⟨value, rest⟩ := result
      rw [found] at read
      dsimp only at read
      split_ifs at read with ended
      cases read
      have scanned := (scansTrees _).values text tree rest found [] fun keys outer
        same => by cases same
      have behind : hasUniqueKeysFrom [] rest = true := by
        rw [hasUniqueKeysFrom_skipSpace, ended, hasUniqueKeysFrom.eq_def]
      rw [hasUniqueObjectKeys, scanned, behind, Bool.and_true]
      exact fitsAt_iff_isStrict tree

/-- **Strict JSON is JSON with unique keys**: a text parses exactly when it is JSON, its tree is
within the limits and no object in it repeats a key, and its value is then that of
`JSON.parse`. -/
theorem parseJsonWithUniqueObjectKeys_iff (text : JsString) (value : JsonValue) :
    parseJsonWithUniqueObjectKeys text = some value ↔
      parseJson text = some value ∧ ∃ tree, jsonTree text = some tree ∧ IsStrict tree := by
  unfold parseJsonWithUniqueObjectKeys
  constructor
  · intro parsed
    split_ifs at parsed with unique
    have collapsed := parsed
    rw [parseJson_eq_collapsed] at collapsed
    obtain ⟨tree, read, _⟩ := Option.map_eq_some_iff.mp collapsed
    exact ⟨parsed, tree, read, (hasUniqueObjectKeys_iff read).mp unique⟩
  · rintro ⟨parsed, tree, read, strict⟩
    rw [if_pos ((hasUniqueObjectKeys_iff read).mpr strict), parsed]

end Kurobara.DatasetCodec
