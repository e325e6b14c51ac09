import Kurobara.Foundation.JsonText

/-! # JSON as it is written

The tree of a JSON text with every property that is written in it. `JSON.parse` keeps the last of
the properties with one key, so it gives the tree with repeated keys collapsed.
-/

namespace Kurobara.Foundation

/-! ## Reading a tree -/

mutual

/-- A value as it is written, and what follows it. -/
def readTree : ℕ → JsString → Option (JsonValue × JsString)
  | 0, _ => none
  | fuel + 1, text =>
      match skipSpace text with
      | [] => none
      | unit :: rest =>
          if unit = 34 then
            (readString rest).map fun (value, rest) => (.string value, rest)
          else if unit = 91 then
            if (skipSpace rest).head? = some 93 then some (.array [], (skipSpace rest).tail)
            else (readTreeEntries fuel rest).map fun (entries, rest) => (.array entries, rest)
          else if unit = 123 then
            if (skipSpace rest).head? = some 125 then some (.object [], (skipSpace rest).tail)
            else
              (readTreeProperties fuel rest).map fun (properties, rest) =>
                (.object properties, rest)
          else if unit = 110 then readLiteral "null" .null (unit :: rest)
          else if unit = 116 then readLiteral "true" (.boolean true) (unit :: rest)
          else if unit = 102 then readLiteral "false" (.boolean false) (unit :: rest)
          else readJsonNumber (unit :: rest)

def readTreeEntries : ℕ → JsString → Option (List JsonValue × JsString)
  | 0, _ => none
  | fuel + 1, text =>
      (readTree fuel text).bind fun (entry, rest) =>
        match skipSpace rest with
        | [] => none
        | unit :: rest =>
            if unit = 44 then
              (readTreeEntries fuel rest).map fun (entries, rest) => (entry :: entries, rest)
            else if unit = 93 then some ([entry], rest)
            else none

def readTreeProperties : ℕ → JsString → Option (List (JsString × JsonValue) × JsString)
  | 0, _ => none
  | fuel + 1, text =>
      match skipSpace text with
      | [] => none
      | unit :: rest =>
          if unit = 34 then
            (readString rest).bind fun (key, rest) =>
              match skipSpace rest with
              | [] => none
              | unit :: rest =>
                  if unit = 58 then
                    (readTree fuel rest).bind fun (value, rest) =>
                      match skipSpace rest with
                      | [] => none
                      | unit :: rest =>
                          if unit = 44 then
                            (readTreeProperties fuel rest).map fun (properties, rest) =>
                              ((key, value) :: properties, rest)
                          else if unit = 125 then some ([(key, value)], rest)
                          else none
                  else none
          else none

end

/-- The tree of a JSON text. -/
def jsonTree (text : JsString) : Option JsonValue :=
  match readTree (text.length + 1) text with
  | some (tree, rest) => if skipSpace rest = [] then some tree else none
  | none => none

/-! ## Enough fuel -/

theorem skipSpace_length (text : JsString) : (skipSpace text).length ≤ text.length :=
  List.length_dropWhile_le _ _

theorem readString_length {text value rest : JsString}
    (read : readString text = some (value, rest)) : rest.length < text.length := by
  induction text using readString.induct generalizing value with
  | case1 => cases read
  | case2 later =>
      rw [readString.eq_def] at read
      dsimp only at read
      rw [if_pos rfl] at read
      cases read
      exact Nat.lt_succ_self _
  | case3 _ => cases read
  | case4 first second third fourth later _ ih =>
      rw [readString.eq_def] at read
      dsimp only at read
      rw [if_neg (by decide), if_pos rfl, if_pos rfl] at read
      obtain ⟨unit, _, read⟩ := Option.bind_eq_some_iff.mp read
      obtain ⟨inner, found, split⟩ := Option.map_eq_some_iff.mp read
      cases split
      have shorter := ih found
      simp only [List.length_cons]
      omega
  | case5 later short _ =>
      rw [readString.eq_def] at read
      dsimp only at read
      rw [if_neg (by decide), if_pos rfl, if_pos rfl] at read
      split at read
      · exact absurd rfl (short _ _ _ _ _)
      · cases read
  | case6 letter later noHex _ ih =>
      rw [readString.eq_def] at read
      dsimp only at read
      rw [if_neg (by decide), if_pos rfl, if_neg noHex] at read
      obtain ⟨unit, _, read⟩ := Option.bind_eq_some_iff.mp read
      obtain ⟨inner, found, split⟩ := Option.map_eq_some_iff.mp read
      cases split
      have shorter := ih found
      simp only [List.length_cons]
      omega
  | case7 unit later noQuote noEscape control =>
      rw [readString.eq_def] at read
      dsimp only at read
      rw [if_neg noQuote, if_neg noEscape, if_pos control] at read
      cases read
  | case8 unit later noQuote noEscape printable ih =>
      rw [readString_plain noQuote noEscape printable] at read
      obtain ⟨inner, found, split⟩ := Option.map_eq_some_iff.mp read
      cases split
      have shorter := ih found
      simp only [List.length_cons]
      omega

private theorem readLiteral_length {literal : String} {value tree : JsonValue}
    {text rest : JsString}
    (nonempty : 0 < (ascii literal).length)
    (read : readLiteral literal value text = some (tree, rest)) : rest.length < text.length := by
  unfold readLiteral at read
  split_ifs at read with found
  cases read
  have taken := congrArg List.length found
  rw [List.length_take] at taken
  rw [List.length_drop]
  omega

private theorem readJsonNumber_length {tree : JsonValue} {text rest : JsString}
    (read : readJsonNumber text = some (tree, rest)) : rest.length < text.length := by
  unfold readJsonNumber at read
  obtain ⟨number, found, split⟩ := Option.map_eq_some_iff.mp read
  cases split
  have whole := congrArg List.length
    (List.takeWhile_append_dropWhile (p := isNumberUnit) (l := text))
  rw [List.length_append] at whole
  have occupied : (text.takeWhile isNumberUnit).length ≠ 0 := by
    intro empty
    rw [List.eq_nil_of_length_eq_zero empty] at found
    cases found
  omega

/-- What is read with some fuel is shorter than the text, and any fuel that covers what was read
reads the same. -/
structure ReadsEnough (fuel : ℕ) : Prop where
  values : ∀ text tree rest, readTree fuel text = some (tree, rest) → rest.length < text.length ∧
    ∀ enough, text.length ≤ enough + rest.length → readTree enough text = some (tree, rest)
  entries : ∀ text entries rest, readTreeEntries fuel text = some (entries, rest) →
    rest.length < text.length ∧ ∀ enough, text.length ≤ enough + rest.length →
      readTreeEntries enough text = some (entries, rest)
  properties : ∀ text properties rest, readTreeProperties fuel text = some (properties, rest) →
    rest.length < text.length ∧ ∀ enough, text.length ≤ enough + rest.length →
      readTreeProperties enough text = some (properties, rest)

theorem ReadsEnough.value {fuel : ℕ} (below : ReadsEnough fuel) {text : JsString}
    {tree : JsonValue} {rest : JsString} (read : readTree (fuel + 1) text = some (tree, rest)) :
    rest.length < text.length ∧ ∀ enough, text.length ≤ enough + rest.length →
      readTree enough text = some (tree, rest) := by
  rw [readTree] at read
  have spaced := skipSpace_length text
  suffices shorter : rest.length < text.length from by
    refine ⟨shorter, fun enough covers => ?_⟩
    obtain ⟨enough, rfl⟩ : ∃ less, enough = less + 1 := ⟨enough - 1, by omega⟩
    rw [readTree]
    cases found : skipSpace text with
    | nil => rw [found] at read; cases read
    | cons unit after =>
        rw [found] at read spaced
        rw [List.length_cons] at spaced
        dsimp only at read ⊢
        split_ifs at read ⊢
        · exact read
        · exact read
        · obtain ⟨inner, inside, split⟩ := Option.map_eq_some_iff.mp read
          cases split
          rw [(below.entries _ _ _ inside).2 enough (by omega), Option.map_some]
        · exact read
        · obtain ⟨inner, inside, split⟩ := Option.map_eq_some_iff.mp read
          cases split
          rw [(below.properties _ _ _ inside).2 enough (by omega), Option.map_some]
        · exact read
        · exact read
        · exact read
        · exact read
  cases found : skipSpace text with
  | nil => rw [found] at read; cases read
  | cons unit after =>
      rw [found] at read spaced
      rw [List.length_cons] at spaced
      have closed := skipSpace_length after
      dsimp only at read
      split_ifs at read
      · obtain ⟨inner, inside, split⟩ := Option.map_eq_some_iff.mp read
        cases split
        have shorter := readString_length inside
        omega
      · cases read
        rw [List.length_tail]
        omega
      · obtain ⟨inner, inside, split⟩ := Option.map_eq_some_iff.mp read
        cases split
        have shorter := (below.entries _ _ _ inside).1
        omega
      · cases read
        rw [List.length_tail]
        omega
      · obtain ⟨inner, inside, split⟩ := Option.map_eq_some_iff.mp read
        cases split
        have shorter := (below.properties _ _ _ inside).1
        omega
      · exact lt_of_lt_of_le (readLiteral_length (by decide) read) spaced
      · exact lt_of_lt_of_le (readLiteral_length (by decide) read) spaced
      · exact lt_of_lt_of_le (readLiteral_length (by decide) read) spaced
      · exact lt_of_lt_of_le (readJsonNumber_length read) spaced

theorem ReadsEnough.entryList {fuel : ℕ} (below : ReadsEnough fuel) {text : JsString}
    {entries : List JsonValue} {rest : JsString}
    (read : readTreeEntries (fuel + 1) text = some (entries, rest)) :
    rest.length < text.length ∧ ∀ enough, text.length ≤ enough + rest.length →
      readTreeEntries enough text = some (entries, rest) := by
  rw [readTreeEntries] at read
  obtain ⟨⟨entry, after⟩, first, read⟩ := Option.bind_eq_some_iff.mp read
  obtain ⟨shorter, first⟩ := below.values _ _ _ first
  have spaced := skipSpace_length after
  dsimp only at read
  cases found : skipSpace after with
  | nil => rw [found] at read; cases read
  | cons unit later =>
      rw [found] at read spaced
      rw [List.length_cons] at spaced
      dsimp only at read
      split_ifs at read with comma close
      · obtain ⟨inner, inside, split⟩ := Option.map_eq_some_iff.mp read
        cases split
        obtain ⟨less, inside⟩ := below.entries _ _ _ inside
        refine ⟨by omega, fun enough covers => ?_⟩
        obtain ⟨enough, rfl⟩ : ∃ less, enough = less + 1 := ⟨enough - 1, by omega⟩
        rw [readTreeEntries, first enough (by omega), Option.bind_some]
        dsimp only
        rw [found]
        dsimp only
        rw [if_pos comma, inside enough (by omega), Option.map_some]
      · cases read
        refine ⟨by omega, fun enough covers => ?_⟩
        obtain ⟨enough, rfl⟩ : ∃ less, enough = less + 1 := ⟨enough - 1, by omega⟩
        rw [readTreeEntries, first enough (by omega), Option.bind_some]
        dsimp only
        rw [found]
        dsimp only
        rw [if_neg comma, if_pos close]

theorem ReadsEnough.propertyList {fuel : ℕ} (below : ReadsEnough fuel) {text : JsString}
    {properties : List (JsString × JsonValue)} {rest : JsString}
    (read : readTreeProperties (fuel + 1) text = some (properties, rest)) :
    rest.length < text.length ∧ ∀ enough, text.length ≤ enough + rest.length →
      readTreeProperties enough text = some (properties, rest) := by
  rw [readTreeProperties] at read
  have spaced := skipSpace_length text
  cases quoted : skipSpace text with
  | nil => rw [quoted] at read; cases read
  | cons quote inside =>
      rw [quoted] at read spaced
      rw [List.length_cons] at spaced
      dsimp only at read
      split_ifs at read with opened
      obtain ⟨⟨key, behind⟩, named, read⟩ := Option.bind_eq_some_iff.mp read
      have keyed := readString_length named
      have separated := skipSpace_length behind
      dsimp only at read
      cases colon : skipSpace behind with
      | nil => rw [colon] at read; cases read
      | cons unit valued =>
          rw [colon] at read separated
          rw [List.length_cons] at separated
          dsimp only at read
          split_ifs at read with marked
          obtain ⟨⟨value, after⟩, first, read⟩ := Option.bind_eq_some_iff.mp read
          obtain ⟨shorter, first⟩ := below.values _ _ _ first
          have ended := skipSpace_length after
          dsimp only at read
          cases found : skipSpace after with
          | nil => rw [found] at read; cases read
          | cons unit later =>
              rw [found] at read ended
              rw [List.length_cons] at ended
              dsimp only at read
              split_ifs at read with comma close
              · obtain ⟨inner, others, split⟩ := Option.map_eq_some_iff.mp read
                cases split
                obtain ⟨less, others⟩ := below.properties _ _ _ others
                refine ⟨by omega, fun enough covers => ?_⟩
                obtain ⟨enough, rfl⟩ : ∃ less, enough = less + 1 := ⟨enough - 1, by omega⟩
                rw [readTreeProperties, quoted]
                dsimp only
                rw [if_pos opened, named, Option.bind_some]
                dsimp only
                rw [colon]
                dsimp only
                rw [if_pos marked, first enough (by omega), Option.bind_some]
                dsimp only
                rw [found]
                dsimp only
                rw [if_pos comma, others enough (by omega), Option.map_some]
              · cases read
                refine ⟨by omega, fun enough covers => ?_⟩
                obtain ⟨enough, rfl⟩ : ∃ less, enough = less + 1 := ⟨enough - 1, by omega⟩
                rw [readTreeProperties, quoted]
                dsimp only
                rw [if_pos opened, named, Option.bind_some]
                dsimp only
                rw [colon]
                dsimp only
                rw [if_pos marked, first enough (by omega), Option.bind_some]
                dsimp only
                rw [found]
                dsimp only
                rw [if_neg comma, if_pos close]

private theorem readsEnough (fuel : ℕ) : ReadsEnough fuel := by
  induction fuel with
  | zero =>
      exact ⟨fun _ _ _ read => (by cases read), fun _ _ _ read => (by cases read),
        fun _ _ _ read => (by cases read)⟩
  | succ fuel below =>
      exact ⟨fun _ _ _ read => below.value read, fun _ _ _ read => below.entryList read,
        fun _ _ _ read => below.propertyList read⟩

/-- **A text has a tree exactly when some fuel reads it whole.** -/
theorem jsonTree_iff {text : JsString} {tree : JsonValue} :
    jsonTree text = some tree ↔
      ∃ fuel rest, readTree fuel text = some (tree, rest) ∧ skipSpace rest = [] := by
  constructor
  · intro parsed
    rw [jsonTree] at parsed
    split at parsed
    · rename_i found read
      split_ifs at parsed with closed
      cases parsed
      exact ⟨_, _, read, closed⟩
    · cases parsed
  · rintro ⟨fuel, rest, read, closed⟩
    rw [jsonTree, ((readsEnough fuel).values _ _ _ read).2 _ (by omega)]
    dsimp only
    rw [if_pos closed]

/-! ## Collapsing repeated keys -/

mutual

/-- The tree as an object keeps it: a later value of a key takes the place of the earlier one. -/
def JsonValue.collapsed : JsonValue → JsonValue
  | .array entries => .array (collapsedEntries entries)
  | .object properties => .object (collapsedProperties properties [])
  | value => value

def collapsedEntries : List JsonValue → List JsonValue
  | [] => []
  | entry :: rest => entry.collapsed :: collapsedEntries rest

/-- The properties set one after the other, behind those set before. -/
def collapsedProperties : List (JsString × JsonValue) → List (JsString × JsonValue) →
    List (JsString × JsonValue)
  | [], before => before
  | (key, value) :: rest, before =>
      collapsedProperties rest (setProperty before key value.collapsed)

end

private theorem readLiteral_collapsed (literal : String) {value : JsonValue}
    (scalar : value.collapsed = value) (text : JsString) :
    (readLiteral literal value text).map (fun (tree, rest) => (tree.collapsed, rest)) =
      readLiteral literal value text := by
  unfold readLiteral
  split_ifs with found
  · rw [Option.map_some]
    dsimp only
    rw [scalar]
  · rfl

private theorem readJsonNumber_collapsed (text : JsString) :
    (readJsonNumber text).map (fun (tree, rest) => (tree.collapsed, rest)) =
      readJsonNumber text := by
  unfold readJsonNumber
  cases readNumber (text.takeWhile isNumberUnit) with
  | none => rfl
  | some number => rfl

/-- **Parsing a text is reading its tree and collapsing it**, for values, entries and
properties. -/
theorem readValue_tree (fuel : ℕ) :
    (∀ text, readValue fuel text =
      (readTree fuel text).map fun (tree, rest) => (tree.collapsed, rest)) ∧
    (∀ text, readEntries fuel text =
      (readTreeEntries fuel text).map fun (entries, rest) => (collapsedEntries entries, rest)) ∧
    ∀ text before, readProperties fuel text before =
      (readTreeProperties fuel text).map fun (properties, rest) =>
        (collapsedProperties properties before, rest) := by
  induction fuel with
  | zero =>
      exact ⟨fun text => by rw [readValue, readTree]; rfl,
        fun text => by rw [readEntries, readTreeEntries]; rfl,
        fun text before => by rw [readProperties, readTreeProperties]; rfl⟩
  | succ fuel ih =>
      obtain ⟨values, entries, properties⟩ := ih
      refine ⟨?_, ?_, ?_⟩
      · intro text
        rw [readValue, readTree]
        cases skipSpace text with
        | nil => rfl
        | cons unit rest =>
            dsimp only
            split_ifs
            · cases readString rest <;> rfl
            · rfl
            · rw [entries]
              cases readTreeEntries fuel rest <;> rfl
            · rfl
            · rw [properties]
              cases readTreeProperties fuel rest <;> rfl
            · exact (readLiteral_collapsed "null" rfl _).symm
            · exact (readLiteral_collapsed "true" rfl _).symm
            · exact (readLiteral_collapsed "false" rfl _).symm
            · exact (readJsonNumber_collapsed _).symm
      · intro text
        rw [readEntries, readTreeEntries, values]
        cases readTree fuel text with
        | none => rfl
        | some read =>
            obtain ⟨entry, rest⟩ := read
            dsimp only [Option.map_some, Option.bind_some]
            cases skipSpace rest with
            | nil => rfl
            | cons unit later =>
                dsimp only
                split_ifs
                · rw [entries]
                  cases readTreeEntries fuel later <;> rfl
                · rfl
                · rfl
      · intro text before
        rw [readProperties, readTreeProperties]
        cases skipSpace text with
        | nil => rfl
        | cons unit rest =>
            dsimp only
            split_ifs
            · cases readString rest with
              | none => rfl
              | some read =>
                  obtain ⟨key, rest⟩ := read
                  dsimp only [Option.bind_some]
                  cases skipSpace rest with
                  | nil => rfl
                  | cons colon later =>
                      dsimp only
                      split_ifs
                      · rw [values]
                        cases readTree fuel later with
                        | none => rfl
                        | some read =>
                            obtain ⟨value, rest⟩ := read
                            dsimp only [Option.map_some, Option.bind_some]
                            cases skipSpace rest with
                            | nil => rfl
                            | cons unit last =>
                                dsimp only
                                split_ifs
                                · rw [properties]
                                  cases readTreeProperties fuel last <;> rfl
                                · rfl
                                · rfl
                      · rfl
            · rfl

/-- **`JSON.parse` is the tree of a text with repeated keys collapsed.** -/
theorem parseJson_eq_collapsed (text : JsString) :
    parseJson text = (jsonTree text).map JsonValue.collapsed := by
  rw [parseJson, jsonTree, (readValue_tree _).1]
  cases readTree (text.length + 1) text with
  | none => rfl
  | some read =>
      obtain ⟨tree, rest⟩ := read
      dsimp only [Option.map_some]
      split_ifs <;> rfl

/-! ## Depth and keys -/

mutual

/-- The depth of the containers of a value. -/
def JsonValue.nesting : JsonValue → ℕ
  | .array entries => nestingEntries entries + 1
  | .object properties => nestingProperties properties + 1
  | _ => 0

def nestingEntries : List JsonValue → ℕ
  | [] => 0
  | entry :: rest => max entry.nesting (nestingEntries rest)

def nestingProperties : List (JsString × JsonValue) → ℕ
  | [] => 0
  | (_, value) :: rest => max value.nesting (nestingProperties rest)

end

mutual

/-- The keys of every object of a value, object by object. -/
def JsonValue.objectKeys : JsonValue → List (List JsString)
  | .array entries => objectKeysEntries entries
  | .object properties => properties.map Prod.fst :: objectKeysProperties properties
  | _ => []

def objectKeysEntries : List JsonValue → List (List JsString)
  | [] => []
  | entry :: rest => entry.objectKeys ++ objectKeysEntries rest

def objectKeysProperties : List (JsString × JsonValue) → List (List JsString)
  | [] => []
  | (_, value) :: rest => value.objectKeys ++ objectKeysProperties rest

end

end Kurobara.Foundation
