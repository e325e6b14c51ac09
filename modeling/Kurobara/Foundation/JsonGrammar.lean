import Kurobara.Foundation.JsonTree
import Kurobara.Foundation.NumberGrammar
import Mathlib.Data.List.Basic

/-! # The grammar of JSON

The grammar of RFC 8259 over code units, with the tree of each derivation. A text derives a tree
exactly when `JSON.parse` reads that tree from it.
-/

namespace Kurobara.Foundation

/-! ## Strings -/

/-- The characters of a string behind its opening quote, with their value and what follows the
closing quote. -/
inductive CharactersText : JsString → JsString → JsString → Prop where
  | close (rest : JsString) : CharactersText (34 :: rest) [] rest
  | unescaped {unit : CodeUnit} {text value rest : JsString} (noQuote : unit ≠ 34)
      (noEscape : unit ≠ 92) (printable : ¬ unit < 32) (others : CharactersText text value rest) :
      CharactersText (unit :: text) (unit :: value) rest
  | short {letter unit : CodeUnit} {text value rest : JsString}
      (escaped : unescapeLetter letter = some unit) (others : CharactersText text value rest) :
      CharactersText (92 :: letter :: text) (unit :: value) rest
  | unicode {first second third fourth unit : CodeUnit} {text value rest : JsString}
      (escaped : readHex first second third fourth = some unit)
      (others : CharactersText text value rest) :
      CharactersText (92 :: 117 :: first :: second :: third :: fourth :: text) (unit :: value) rest

/-- The string reader accepts exactly the grammar's strings. -/
theorem readString_iff {text value rest : JsString} :
    readString text = some (value, rest) ↔ CharactersText text value rest := by
  constructor
  · intro read
    induction text using readString.induct generalizing value with
    | case1 => cases read
    | case2 later =>
        rw [readString.eq_def] at read
        dsimp only at read
        rw [if_pos rfl] at read
        cases read
        exact .close _
    | case3 _ => cases read
    | case4 first second third fourth later _ ih =>
        rw [readString.eq_def] at read
        dsimp only at read
        rw [if_neg (by decide), if_pos rfl, if_pos rfl] at read
        obtain ⟨unit, escaped, read⟩ := Option.bind_eq_some_iff.mp read
        obtain ⟨inner, found, split⟩ := Option.map_eq_some_iff.mp read
        cases split
        exact .unicode escaped (ih found)
    | case5 later short _ =>
        rw [readString.eq_def] at read
        dsimp only at read
        rw [if_neg (by decide), if_pos rfl, if_pos rfl] at read
        split at read
        · exact absurd rfl (short _ _ _ _ _)
        · cases read
    | case6 letter later noHex _ ih =>
        rw [readString.eq_def] at read
        dsimp only at read
        rw [if_neg (by decide), if_pos rfl, if_neg noHex] at read
        obtain ⟨unit, escaped, read⟩ := Option.bind_eq_some_iff.mp read
        obtain ⟨inner, found, split⟩ := Option.map_eq_some_iff.mp read
        cases split
        exact .short escaped (ih found)
    | case7 unit later noQuote noEscape control =>
        rw [readString.eq_def] at read
        dsimp only at read
        rw [if_neg noQuote, if_neg noEscape, if_pos control] at read
        cases read
    | case8 unit later noQuote noEscape printable ih =>
        rw [readString_plain noQuote noEscape printable] at read
        obtain ⟨inner, found, split⟩ := Option.map_eq_some_iff.mp read
        cases split
        exact .unescaped noQuote noEscape printable (ih found)
  · intro derived
    induction derived with
    | close rest =>
        rw [readString.eq_def]
        rfl
    | unescaped noQuote noEscape printable _ ih =>
        rw [readString_plain noQuote noEscape printable, ih]
        rfl
    | @short letter unit text value rest escaped _ ih =>
        have noHex : letter ≠ 117 := by
          rintro rfl
          cases escaped
        rw [readString.eq_def]
        dsimp only
        rw [if_neg (by decide), if_pos rfl, if_neg noHex, escaped, Option.bind_some, ih]
        rfl
    | unicode escaped _ ih =>
        rw [readString.eq_def]
        dsimp only
        rw [if_neg (by decide), if_pos rfl, if_pos rfl, escaped, Option.bind_some, ih]
        rfl

/-! ## Values -/

/-- `ws` at the head of a text. -/
def SpaceText (text rest : JsString) : Prop :=
  ∃ space, (∀ unit ∈ space, isJsonSpace unit = true) ∧ text = space ++ rest

/-- What a derivation is of: a value, the rest of an array, or the rest of an object. -/
inductive JsonPart where
  | value (tree : JsonValue)
  | entries (entries : List JsonValue)
  | properties (properties : List (JsString × JsonValue))

/-- A part at the head of a text, and what follows it. The rest of an array or an object ends with
its bracket or brace. -/
inductive DerivesJson : JsonPart → JsString → JsString → Prop where
  | nullLiteral (rest : JsString) : DerivesJson (.value .null) (ascii "null" ++ rest) rest
  | trueLiteral (rest : JsString) : DerivesJson (.value (.boolean true)) (ascii "true" ++ rest) rest
  | falseLiteral (rest : JsString) :
      DerivesJson (.value (.boolean false)) (ascii "false" ++ rest) rest
  | number {text : JsString} {decimal : Decimal} (number : NumberText text decimal)
      (rest : JsString) : DerivesJson (.value (.number decimal.number)) (text ++ rest) rest
  | string {text value rest : JsString} (characters : CharactersText text value rest) :
      DerivesJson (.value (.string value)) (34 :: text) rest
  | emptyArray {text rest : JsString} (space : SpaceText text (93 :: rest)) :
      DerivesJson (.value (.array [])) (91 :: text) rest
  | array {text rest : JsString} {entries : List JsonValue}
      (inside : DerivesJson (.entries entries) text rest) :
      DerivesJson (.value (.array entries)) (91 :: text) rest
  | emptyObject {text rest : JsString} (space : SpaceText text (125 :: rest)) :
      DerivesJson (.value (.object [])) (123 :: text) rest
  | object {text rest : JsString} {properties : List (JsString × JsonValue)}
      (inside : DerivesJson (.properties properties) text rest) :
      DerivesJson (.value (.object properties)) (123 :: text) rest
  | lastEntry {text start after rest : JsString} {entry : JsonValue}
      (before : SpaceText text start) (value : DerivesJson (.value entry) start after)
      (behind : SpaceText after (93 :: rest)) : DerivesJson (.entries [entry]) text rest
  | entry {text start after later rest : JsString} {entry : JsonValue} {entries : List JsonValue}
      (before : SpaceText text start) (value : DerivesJson (.value entry) start after)
      (behind : SpaceText after (44 :: later))
      (others : DerivesJson (.entries entries) later rest) :
      DerivesJson (.entries (entry :: entries)) text rest
  | lastProperty {text start named colon valued after rest key : JsString} {value : JsonValue}
      (before : SpaceText text (34 :: start)) (characters : CharactersText start key named)
      (separator : SpaceText named (58 :: colon)) (space : SpaceText colon valued)
      (derived : DerivesJson (.value value) valued after)
      (behind : SpaceText after (125 :: rest)) : DerivesJson (.properties [(key, value)]) text rest
  | property {text start named colon valued after later rest key : JsString} {value : JsonValue}
      {properties : List (JsString × JsonValue)}
      (before : SpaceText text (34 :: start)) (characters : CharactersText start key named)
      (separator : SpaceText named (58 :: colon)) (space : SpaceText colon valued)
      (derived : DerivesJson (.value value) valued after)
      (behind : SpaceText after (44 :: later))
      (others : DerivesJson (.properties properties) later rest) :
      DerivesJson (.properties ((key, value) :: properties)) text rest

/-- `JSON-text = ws value ws`. -/
def JsonText (text : JsString) (tree : JsonValue) : Prop :=
  ∃ start after, SpaceText text start ∧ DerivesJson (.value tree) start after ∧ SpaceText after []

/-! ## What is read is derived -/

theorem spaceText_skipSpace (text : JsString) : SpaceText text (skipSpace text) :=
  ⟨text.takeWhile isJsonSpace, fun _ member => List.mem_takeWhile_imp member,
    (List.takeWhile_append_dropWhile ..).symm⟩

theorem SpaceText.skipSpace_eq {text rest : JsString} (space : SpaceText text rest) :
    skipSpace text = skipSpace rest := by
  obtain ⟨spaces, areSpaces, rfl⟩ := space
  exact List.dropWhile_append_of_pos areSpaces

theorem SpaceText.skipTo {text rest : JsString} {unit : CodeUnit}
    (space : SpaceText text (unit :: rest)) (visible : isJsonSpace unit = false) :
    skipSpace text = unit :: rest := by
  rw [space.skipSpace_eq, skipSpace_cons visible]

theorem SpaceText.ofSkip {text rest : JsString} (skipped : skipSpace text = rest) :
    SpaceText text rest :=
  skipped ▸ spaceText_skipSpace text

theorem SpaceText.isSpace {text : JsString} (space : SpaceText text []) :
    ∀ unit ∈ text, isJsonSpace unit = true := by
  obtain ⟨spaces, areSpaces, rfl⟩ := space
  rwa [List.append_nil]

private theorem readLiteral_derives {literal : String} {value tree : JsonValue}
    {text rest : JsString}
    (read : readLiteral literal value text = some (tree, rest)) :
    tree = value ∧ text = ascii literal ++ rest := by
  unfold readLiteral at read
  split_ifs at read with found
  cases read
  refine ⟨rfl, ?_⟩
  conv_lhs => rw [← List.take_append_drop (ascii literal).length text, found]

private theorem readJsonNumber_derives {tree : JsonValue} {text rest : JsString}
    (read : readJsonNumber text = some (tree, rest)) :
    DerivesJson (.value tree) text rest := by
  obtain ⟨number, found, split⟩ := Option.map_eq_some_iff.mp read
  cases split
  obtain ⟨decimal, decimalRead, rfl⟩ := Option.map_eq_some_iff.mp found
  have derived := DerivesJson.number (readDecimal_iff.mp decimalRead) (text.dropWhile isNumberUnit)
  rwa [List.takeWhile_append_dropWhile] at derived

/-- What some fuel reads is derived. -/
structure ReadsDerived (fuel : ℕ) : Prop where
  values : ∀ text tree rest, readTree fuel text = some (tree, rest) →
    DerivesJson (.value tree) (skipSpace text) rest
  entries : ∀ text entries rest, readTreeEntries fuel text = some (entries, rest) →
    DerivesJson (.entries entries) text rest
  properties : ∀ text properties rest, readTreeProperties fuel text = some (properties, rest) →
    DerivesJson (.properties properties) text rest

theorem ReadsDerived.value {fuel : ℕ} (below : ReadsDerived fuel) {text rest : JsString}
    {tree : JsonValue} (read : readTree (fuel + 1) text = some (tree, rest)) :
    DerivesJson (.value tree) (skipSpace text) rest := by
  rw [readTree] at read
  cases found : skipSpace text with
  | nil =>
      rw [found] at read
      cases read
  | cons unit after =>
      rw [found] at read
      dsimp only at read
      split_ifs at read with quote bracket closed brace closed null true false
      · obtain ⟨⟨value, later⟩, inside, split⟩ := Option.map_eq_some_iff.mp read
        cases split
        exact quote ▸ .string (readString_iff.mp inside)
      · cases read
        exact bracket ▸ .emptyArray (.ofSkip (List.cons_head?_tail closed).symm)
      · obtain ⟨⟨entries, later⟩, inside, split⟩ := Option.map_eq_some_iff.mp read
        cases split
        exact bracket ▸ .array (below.entries _ _ _ inside)
      · cases read
        exact brace ▸ .emptyObject (.ofSkip (List.cons_head?_tail closed).symm)
      · obtain ⟨⟨properties, later⟩, inside, split⟩ := Option.map_eq_some_iff.mp read
        cases split
        exact brace ▸ .object (below.properties _ _ _ inside)
      · obtain ⟨rfl, split⟩ := readLiteral_derives read
        exact split ▸ .nullLiteral _
      · obtain ⟨rfl, split⟩ := readLiteral_derives read
        exact split ▸ .trueLiteral _
      · obtain ⟨rfl, split⟩ := readLiteral_derives read
        exact split ▸ .falseLiteral _
      · exact readJsonNumber_derives read

theorem ReadsDerived.entryList {fuel : ℕ} (below : ReadsDerived fuel) {text rest : JsString}
    {entries : List JsonValue} (read : readTreeEntries (fuel + 1) text = some (entries, rest)) :
    DerivesJson (.entries entries) text rest := by
  rw [readTreeEntries] at read
  obtain ⟨⟨entry, after⟩, first, read⟩ := Option.bind_eq_some_iff.mp read
  have derived := below.values _ _ _ first
  dsimp only at read
  cases found : skipSpace after with
  | nil =>
      rw [found] at read
      cases read
  | cons unit later =>
      rw [found] at read
      dsimp only at read
      split_ifs at read with comma close
      · obtain ⟨⟨others, last⟩, inside, split⟩ := Option.map_eq_some_iff.mp read
        cases split
        exact .entry (spaceText_skipSpace text) derived (.ofSkip (comma ▸ found))
          (below.entries _ _ _ inside)
      · cases read
        exact .lastEntry (spaceText_skipSpace text) derived (.ofSkip (close ▸ found))

theorem ReadsDerived.propertyList {fuel : ℕ} (below : ReadsDerived fuel) {text rest : JsString}
    {properties : List (JsString × JsonValue)}
    (read : readTreeProperties (fuel + 1) text = some (properties, rest)) :
    DerivesJson (.properties properties) text rest := by
  rw [readTreeProperties] at read
  cases quoted : skipSpace text with
  | nil =>
      rw [quoted] at read
      cases read
  | cons quote inside =>
      rw [quoted] at read
      dsimp only at read
      split_ifs at read with opened
      obtain ⟨⟨key, behind⟩, named, read⟩ := Option.bind_eq_some_iff.mp read
      dsimp only at read
      cases colon : skipSpace behind with
      | nil =>
          rw [colon] at read
          cases read
      | cons unit valued =>
          rw [colon] at read
          dsimp only at read
          split_ifs at read with marked
          obtain ⟨⟨value, after⟩, first, read⟩ := Option.bind_eq_some_iff.mp read
          have derived := below.values _ _ _ first
          dsimp only at read
          cases found : skipSpace after with
          | nil =>
              rw [found] at read
              cases read
          | cons unit later =>
              rw [found] at read
              dsimp only at read
              split_ifs at read with comma close
              · obtain ⟨⟨others, last⟩, rested, split⟩ := Option.map_eq_some_iff.mp read
                cases split
                exact .property (.ofSkip (opened ▸ quoted)) (readString_iff.mp named)
                  (.ofSkip (marked ▸ colon)) (spaceText_skipSpace valued) derived
                  (.ofSkip (comma ▸ found)) (below.properties _ _ _ rested)
              · cases read
                exact .lastProperty (.ofSkip (opened ▸ quoted)) (readString_iff.mp named)
                  (.ofSkip (marked ▸ colon)) (spaceText_skipSpace valued) derived
                  (.ofSkip (close ▸ found))

private theorem readsDerived (fuel : ℕ) : ReadsDerived fuel := by
  induction fuel with
  | zero =>
      exact ⟨fun _ _ _ read => (by cases read), fun _ _ _ read => (by cases read),
        fun _ _ _ read => (by cases read)⟩
  | succ fuel below =>
      exact ⟨fun _ _ _ read => below.value read, fun _ _ _ read => below.entryList read,
        fun _ _ _ read => below.propertyList read⟩

/-! ## What is derived is read -/

theorem NumberText.head {text : JsString} {decimal : Decimal} (derived : NumberText text decimal) :
    ∃ unit rest, text = unit :: rest ∧ (isDigitUnit unit = true ∨ unit = 45) := by
  cases derived with
  | negative unsigned => exact ⟨45, _, rfl, .inr rfl⟩
  | unsigned unsigned =>
      obtain ⟨_, _, _, _, layout, _, _⟩ := unsigned.layout
      obtain ⟨unit, rest, split, digit⟩ := layout.head
      exact ⟨unit, rest, split, .inl digit⟩

/-- A value begins with a unit that is no white space. -/
theorem DerivesJson.visible {tree : JsonValue} {text rest : JsString}
    (derived : DerivesJson (.value tree) text rest) : skipSpace text = text := by
  cases derived with
  | nullLiteral => exact skipSpace_cons (by decide)
  | trueLiteral => exact skipSpace_cons (by decide)
  | falseLiteral => exact skipSpace_cons (by decide)
  | string => exact skipSpace_cons (by decide)
  | emptyArray => exact skipSpace_cons (by decide)
  | array => exact skipSpace_cons (by decide)
  | emptyObject => exact skipSpace_cons (by decide)
  | object => exact skipSpace_cons (by decide)
  | number number =>
      obtain ⟨unit, later, rfl, begins⟩ := number.head
      exact skipSpace_cons (beginsNumber begins).1

private theorem SpaceText.endsValue {text rest : JsString} {unit : CodeUnit}
    (space : SpaceText text (unit :: rest)) (ends : isNumberUnit unit = false) :
    EndsValue text := by
  obtain ⟨spaces, areSpaces, rfl⟩ := space
  cases spaces with
  | nil => exact endsValue_cons ends
  | cons first others =>
      refine endsValue_cons ?_
      have isSpace := areSpaces first List.mem_cons_self
      simp only [isJsonSpace, Bool.or_eq_true, beq_iff_eq] at isSpace
      rcases isSpace with ((rfl | rfl) | rfl) | rfl <;> decide

theorem SpaceText.length_le {text rest : JsString} (space : SpaceText text rest) :
    rest.length ≤ text.length := by
  obtain ⟨spaces, _, rfl⟩ := space
  rw [List.length_append]
  exact Nat.le_add_left _ _

theorem CharactersText.length_lt {text value rest : JsString}
    (derived : CharactersText text value rest) : rest.length < text.length :=
  readString_length (readString_iff.mpr derived)

/-- What follows a part is shorter. -/
theorem DerivesJson.length_lt {part : JsonPart} {text rest : JsString}
    (derived : DerivesJson part text rest) : rest.length < text.length := by
  have literal : ∀ (name : String), 0 < (ascii name).length → ∀ rest : JsString,
      rest.length < (ascii name ++ rest).length := by
    intro name occupied rest
    rw [List.length_append]
    exact Nat.lt_add_of_pos_left occupied
  induction derived with
  | nullLiteral rest => exact literal "null" (by decide) rest
  | trueLiteral rest => exact literal "true" (by decide) rest
  | falseLiteral rest => exact literal "false" (by decide) rest
  | number number rest =>
      obtain ⟨unit, later, rfl, _⟩ := number.head
      simp only [List.cons_append, List.length_cons, List.length_append]
      omega
  | string characters => exact Nat.lt_succ_of_lt characters.length_lt
  | emptyArray space =>
      have shorter := space.length_le
      simp only [List.length_cons] at shorter ⊢
      omega
  | array _ ih => exact Nat.lt_succ_of_lt ih
  | emptyObject space =>
      have shorter := space.length_le
      simp only [List.length_cons] at shorter ⊢
      omega
  | object _ ih => exact Nat.lt_succ_of_lt ih
  | lastEntry before _ behind ih =>
      have first := before.length_le
      have last := behind.length_le
      simp only [List.length_cons] at last
      omega
  | entry before _ behind _ ih later =>
      have first := before.length_le
      have last := behind.length_le
      simp only [List.length_cons] at last
      omega
  | lastProperty before characters separator space _ behind ih =>
      have first := before.length_le
      have name := characters.length_lt
      have colon := separator.length_le
      have second := space.length_le
      have last := behind.length_le
      simp only [List.length_cons] at first colon last
      omega
  | property before characters separator space _ behind _ ih later =>
      have first := before.length_le
      have name := characters.length_lt
      have colon := separator.length_le
      have second := space.length_le
      have last := behind.length_le
      simp only [List.length_cons] at first colon last
      omega

private theorem readTree_space {text start : JsString} (space : SpaceText text start) (fuel : ℕ) :
    readTree fuel text = readTree fuel start := by
  cases fuel with
  | zero => rw [readTree, readTree]
  | succ fuel => rw [readTree, readTree, space.skipSpace_eq]

private theorem readTree_number {text : JsString} {decimal : Decimal}
    (number : NumberText text decimal)
    {rest : JsString} (ends : EndsValue rest) (fuel : ℕ) :
    readTree (fuel + 1) (text ++ rest) = some (.number decimal.number, rest) := by
  have span := span_append number.units ends
  rw [List.span_eq_takeWhile_dropWhile, Prod.mk.injEq] at span
  have reads : readJsonNumber (text ++ rest) = some (.number decimal.number, rest) := by
    rw [readJsonNumber, span.1, span.2, readNumber, readDecimal_iff.mpr number]
    rfl
  obtain ⟨unit, later, rfl, begins⟩ := number.head
  obtain ⟨visible, lower, upper⟩ := beginsNumber begins
  have other : ∀ named : CodeUnit, named.toNat < 45 ∨ 57 < named.toNat → unit ≠ named := by
    rintro named apart rfl
    omega
  rw [List.cons_append] at reads ⊢
  rw [readTree, skipSpace_cons visible]
  dsimp only
  rw [if_neg (other 34 (by decide)), if_neg (other 91 (by decide)), if_neg (other 123 (by decide)),
    if_neg (other 110 (by decide)), if_neg (other 116 (by decide)), if_neg (other 102 (by decide)),
    reads]

private theorem readTree_literals (rest : JsString) (fuel : ℕ) :
    readTree (fuel + 1) (ascii "null" ++ rest) = some (.null, rest) ∧
      readTree (fuel + 1) (ascii "true" ++ rest) = some (.boolean true, rest) ∧
      readTree (fuel + 1) (ascii "false" ++ rest) = some (.boolean false, rest) := by
  have null : skipSpace (ascii "null" ++ rest) = ascii "null" ++ rest := skipSpace_cons (by decide)
  have yes : skipSpace (ascii "true" ++ rest) = ascii "true" ++ rest := skipSpace_cons (by decide)
  have no : skipSpace (ascii "false" ++ rest) = ascii "false" ++ rest := skipSpace_cons (by decide)
  rw [readTree, readTree, readTree, null, yes, no]
  exact ⟨readLiteral_append "null" .null rest, readLiteral_append "true" (.boolean true) rest,
    readLiteral_append "false" (.boolean false) rest⟩

/-- The rest of an array or of an object does not begin with its closing bracket or brace. -/
theorem DerivesJson.notClosing {part : JsonPart} {text rest : JsString}
    (derived : DerivesJson part text rest) : match part with
    | .value _ => text.head? ≠ some 93
    | .entries _ => (skipSpace text).head? ≠ some 93
    | .properties _ => (skipSpace text).head? ≠ some 125 := by
  induction derived with
  | number number rest =>
      obtain ⟨unit, later, rfl, begins⟩ := number.head
      have upper := (beginsNumber begins).2.2
      intro same
      cases same
      exact absurd upper (by decide)
  | lastEntry before value _ ih => rwa [before.skipSpace_eq, value.visible]
  | entry before value _ _ ih => rwa [before.skipSpace_eq, value.visible]
  | lastProperty before =>
      rw [before.skipTo (by decide)]
      exact fun same => absurd (Option.some.inj same) (by decide)
  | property before =>
      rw [before.skipTo (by decide)]
      exact fun same => absurd (Option.some.inj same) (by decide)
  | _ => exact fun same => absurd (Option.some.inj same) (by decide)

private theorem readTree_string {text value rest : JsString}
    (characters : CharactersText text value rest) (fuel : ℕ) :
    readTree (fuel + 1) (34 :: text) = some (.string value, rest) := by
  rw [readTree, skipSpace_cons (by decide)]
  dsimp only
  rw [if_pos rfl, readString_iff.mpr characters]
  rfl

private theorem readTree_emptyArray {text rest : JsString} (space : SpaceText text (93 :: rest))
    (fuel : ℕ) : readTree (fuel + 1) (91 :: text) = some (.array [], rest) := by
  rw [readTree, skipSpace_cons (by decide)]
  dsimp only
  rw [if_neg (by decide), if_pos rfl, space.skipTo (by decide)]
  rfl

private theorem readTree_array {text rest : JsString} {entries : List JsonValue} {fuel : ℕ}
    (inside : DerivesJson (.entries entries) text rest)
    (read : readTreeEntries fuel text = some (entries, rest)) :
    readTree (fuel + 1) (91 :: text) = some (.array entries, rest) := by
  rw [readTree, skipSpace_cons (by decide)]
  dsimp only
  rw [if_neg (by decide), if_pos rfl, if_neg inside.notClosing, read]
  rfl

private theorem readTree_emptyObject {text rest : JsString} (space : SpaceText text (125 :: rest))
    (fuel : ℕ) : readTree (fuel + 1) (123 :: text) = some (.object [], rest) := by
  rw [readTree, skipSpace_cons (by decide)]
  dsimp only
  rw [if_neg (by decide), if_neg (by decide), if_pos rfl, space.skipTo (by decide)]
  rfl

private theorem readTree_object {text rest : JsString} {properties : List (JsString × JsonValue)}
    {fuel : ℕ} (inside : DerivesJson (.properties properties) text rest)
    (read : readTreeProperties fuel text = some (properties, rest)) :
    readTree (fuel + 1) (123 :: text) = some (.object properties, rest) := by
  rw [readTree, skipSpace_cons (by decide)]
  dsimp only
  rw [if_neg (by decide), if_neg (by decide), if_pos rfl, if_neg inside.notClosing, read]
  rfl

section

variable {text start after later rest : JsString} {fuel : ℕ}

private theorem readTreeEntries_last {entry : JsonValue} (before : SpaceText text start)
    (read : readTree fuel start = some (entry, after)) (behind : SpaceText after (93 :: rest)) :
    readTreeEntries (fuel + 1) text = some ([entry], rest) := by
  rw [readTreeEntries, readTree_space before, read, Option.bind_some]
  dsimp only
  rw [behind.skipTo (by decide)]
  rfl

private theorem readTreeEntries_cons {entry : JsonValue} {entries : List JsonValue}
    (before : SpaceText text start) (read : readTree fuel start = some (entry, after))
    (behind : SpaceText after (44 :: later))
    (others : readTreeEntries fuel later = some (entries, rest)) :
    readTreeEntries (fuel + 1) text = some (entry :: entries, rest) := by
  rw [readTreeEntries, readTree_space before, read, Option.bind_some]
  dsimp only
  rw [behind.skipTo (by decide)]
  dsimp only
  rw [if_pos rfl, others]
  rfl

variable {named colon valued key : JsString} {value : JsonValue}

private theorem readTreeProperties_last (before : SpaceText text (34 :: start))
    (characters : CharactersText start key named) (separator : SpaceText named (58 :: colon))
    (space : SpaceText colon valued) (read : readTree fuel valued = some (value, after))
    (behind : SpaceText after (125 :: rest)) :
    readTreeProperties (fuel + 1) text = some ([(key, value)], rest) := by
  rw [readTreeProperties, before.skipTo (by decide)]
  dsimp only
  rw [if_pos rfl, readString_iff.mpr characters, Option.bind_some]
  dsimp only
  rw [separator.skipTo (by decide)]
  dsimp only
  rw [if_pos rfl, readTree_space space, read, Option.bind_some]
  dsimp only
  rw [behind.skipTo (by decide)]
  rfl

private theorem readTreeProperties_cons {properties : List (JsString × JsonValue)}
    (before : SpaceText text (34 :: start)) (characters : CharactersText start key named)
    (separator : SpaceText named (58 :: colon)) (space : SpaceText colon valued)
    (read : readTree fuel valued = some (value, after)) (behind : SpaceText after (44 :: later))
    (others : readTreeProperties fuel later = some (properties, rest)) :
    readTreeProperties (fuel + 1) text = some ((key, value) :: properties, rest) := by
  rw [readTreeProperties, before.skipTo (by decide)]
  dsimp only
  rw [if_pos rfl, readString_iff.mpr characters, Option.bind_some]
  dsimp only
  rw [separator.skipTo (by decide)]
  dsimp only
  rw [if_pos rfl, readTree_space space, read, Option.bind_some]
  dsimp only
  rw [behind.skipTo (by decide)]
  dsimp only
  rw [if_pos rfl, others]
  rfl

end

/-- **What is derived is read**, with fuel for every unit of the text. -/
theorem DerivesJson.reads {part : JsonPart} {text rest : JsString}
    (derived : DerivesJson part text rest) : match part with
    | .value tree => EndsValue rest → ∀ fuel, 2 * text.length ≤ fuel →
        readTree fuel text = some (tree, rest)
    | .entries entries => ∀ fuel, 2 * text.length < fuel →
        readTreeEntries fuel text = some (entries, rest)
    | .properties properties => ∀ fuel, 2 * text.length < fuel →
        readTreeProperties fuel text = some (properties, rest) := by
  -- Each unit pays for the call of its value and for that of the list around it.
  have fueled : ∀ {fuel : ℕ}, 0 < fuel → ∃ less, fuel = less + 1 :=
    fun positive => Nat.exists_eq_add_one_of_ne_zero (Nat.ne_of_gt positive)
  induction derived with
  | nullLiteral rest =>
      intro _ fuel covers
      have occupied := (DerivesJson.nullLiteral rest).length_lt
      obtain ⟨fuel, rfl⟩ := @fueled fuel (by omega)
      exact (readTree_literals rest fuel).1
  | trueLiteral rest =>
      intro _ fuel covers
      have occupied := (DerivesJson.trueLiteral rest).length_lt
      obtain ⟨fuel, rfl⟩ := @fueled fuel (by omega)
      exact (readTree_literals rest fuel).2.1
  | falseLiteral rest =>
      intro _ fuel covers
      have occupied := (DerivesJson.falseLiteral rest).length_lt
      obtain ⟨fuel, rfl⟩ := @fueled fuel (by omega)
      exact (readTree_literals rest fuel).2.2
  | number number rest =>
      intro ends fuel covers
      have occupied := (DerivesJson.number number rest).length_lt
      obtain ⟨fuel, rfl⟩ := @fueled fuel (by omega)
      exact readTree_number number ends fuel
  | string characters =>
      intro _ fuel covers
      rw [List.length_cons] at covers
      obtain ⟨fuel, rfl⟩ := @fueled fuel (by omega)
      exact readTree_string characters fuel
  | emptyArray space =>
      intro _ fuel covers
      rw [List.length_cons] at covers
      obtain ⟨fuel, rfl⟩ := @fueled fuel (by omega)
      exact readTree_emptyArray space fuel
  | array inside ih =>
      intro _ fuel covers
      rw [List.length_cons] at covers
      obtain ⟨fuel, rfl⟩ := @fueled fuel (by omega)
      exact readTree_array inside (ih fuel (by omega))
  | emptyObject space =>
      intro _ fuel covers
      rw [List.length_cons] at covers
      obtain ⟨fuel, rfl⟩ := @fueled fuel (by omega)
      exact readTree_emptyObject space fuel
  | object inside ih =>
      intro _ fuel covers
      rw [List.length_cons] at covers
      obtain ⟨fuel, rfl⟩ := @fueled fuel (by omega)
      exact readTree_object inside (ih fuel (by omega))
  | lastEntry before value behind ih =>
      intro fuel covers
      have first := before.length_le
      obtain ⟨fuel, rfl⟩ := @fueled fuel (by omega)
      exact readTreeEntries_last before (ih (behind.endsValue (by decide)) fuel (by omega)) behind
  | entry before value behind others ih later =>
      intro fuel covers
      have first := before.length_le
      have consumed := value.length_lt
      have last := behind.length_le
      rw [List.length_cons] at last
      obtain ⟨fuel, rfl⟩ := @fueled fuel (by omega)
      exact readTreeEntries_cons before (ih (behind.endsValue (by decide)) fuel (by omega)) behind
        (later fuel (by omega))
  | lastProperty before characters separator space value behind ih =>
      intro fuel covers
      have first := before.length_le
      have name := characters.length_lt
      have colon := separator.length_le
      have second := space.length_le
      rw [List.length_cons] at first colon
      obtain ⟨fuel, rfl⟩ := @fueled fuel (by omega)
      exact readTreeProperties_last before characters separator space
        (ih (behind.endsValue (by decide)) fuel (by omega)) behind
  | property before characters separator space value behind others ih later =>
      intro fuel covers
      have first := before.length_le
      have name := characters.length_lt
      have colon := separator.length_le
      have second := space.length_le
      have consumed := value.length_lt
      have last := behind.length_le
      rw [List.length_cons] at first colon last
      obtain ⟨fuel, rfl⟩ := @fueled fuel (by omega)
      exact readTreeProperties_cons before characters separator space
        (ih (behind.endsValue (by decide)) fuel (by omega)) behind (later fuel (by omega))

/-- **A text has a tree exactly when the grammar derives it.** -/
theorem jsonTree_iff_jsonText {text : JsString} {tree : JsonValue} :
    jsonTree text = some tree ↔ JsonText text tree := by
  rw [jsonTree_iff]
  constructor
  · rintro ⟨fuel, rest, read, ends⟩
    exact ⟨skipSpace text, rest, spaceText_skipSpace text, (readsDerived fuel).values _ _ _ read,
      .ofSkip ends⟩
  · rintro ⟨start, after, before, derived, behind⟩
    have nothing : skipSpace after = [] := behind.skipSpace_eq
    have ends : EndsValue after := by
      obtain ⟨spaces, areSpaces, rfl⟩ := behind
      cases spaces with
      | nil => exact fun unit none => (by cases none)
      | cons first others =>
          refine endsValue_cons ?_
          have isSpace := areSpaces first List.mem_cons_self
          simp only [isJsonSpace, Bool.or_eq_true, beq_iff_eq] at isSpace
          rcases isSpace with ((rfl | rfl) | rfl) | rfl <;> decide
    refine ⟨2 * start.length, after, ?_, nothing⟩
    rw [readTree_space before]
    exact derived.reads ends _ le_rfl

/-! ## Derivations behind white space -/

theorem SpaceText.trans {text start rest : JsString} (first : SpaceText text start)
    (second : SpaceText start rest) : SpaceText text rest := by
  obtain ⟨spaces, areSpaces, rfl⟩ := first
  obtain ⟨others, areOthers, rfl⟩ := second
  refine ⟨spaces ++ others, ?_, (List.append_assoc _ _ _).symm⟩
  rintro unit member
  rcases List.mem_append.mp member with inside | inside
  · exact areSpaces unit inside
  · exact areOthers unit inside

theorem DerivesJson.entriesBehind {text start rest : JsString} {entries : List JsonValue}
    (derived : DerivesJson (.entries entries) start rest) (space : SpaceText text start) :
    DerivesJson (.entries entries) text rest := by
  cases derived with
  | lastEntry before value behind => exact .lastEntry (space.trans before) value behind
  | entry before value behind others => exact .entry (space.trans before) value behind others

theorem DerivesJson.propertiesBehind {text start rest : JsString}
    {properties : List (JsString × JsonValue)}
    (derived : DerivesJson (.properties properties) start rest) (space : SpaceText text start) :
    DerivesJson (.properties properties) text rest := by
  cases derived with
  | lastProperty before characters separator between value behind =>
      exact .lastProperty (space.trans before) characters separator between value behind
  | property before characters separator between value behind others =>
      exact .property (space.trans before) characters separator between value behind others

/-! ## Derivations in a longer text -/

theorem SpaceText.append {text rest : JsString} (space : SpaceText text rest) (more : JsString) :
    SpaceText (text ++ more) (rest ++ more) := by
  obtain ⟨spaces, areSpaces, rfl⟩ := space
  exact ⟨spaces, areSpaces, List.append_assoc _ _ _⟩

theorem CharactersText.append {text value rest : JsString}
    (derived : CharactersText text value rest) (more : JsString) :
    CharactersText (text ++ more) value (rest ++ more) := by
  induction derived with
  | close rest => exact .close _
  | unescaped noQuote noEscape printable _ ih => exact .unescaped noQuote noEscape printable ih
  | short escaped _ ih => exact .short escaped ih
  | unicode escaped _ ih => exact .unicode escaped ih

/-- What follows a derived part is of no account. -/
theorem DerivesJson.append {part : JsonPart} {text rest : JsString}
    (derived : DerivesJson part text rest) (more : JsString) :
    DerivesJson part (text ++ more) (rest ++ more) := by
  induction derived with
  | nullLiteral rest => exact (List.append_assoc _ _ _) ▸ .nullLiteral _
  | trueLiteral rest => exact (List.append_assoc _ _ _) ▸ .trueLiteral _
  | falseLiteral rest => exact (List.append_assoc _ _ _) ▸ .falseLiteral _
  | number number rest => exact (List.append_assoc _ _ _) ▸ .number number _
  | string characters => exact .string (characters.append more)
  | emptyArray space => exact .emptyArray (space.append more)
  | array _ ih => exact .array ih
  | emptyObject space => exact .emptyObject (space.append more)
  | object _ ih => exact .object ih
  | lastEntry before _ behind ih => exact .lastEntry (before.append more) ih (behind.append more)
  | entry before _ behind _ ih later =>
      exact .entry (before.append more) ih (behind.append more) later
  | lastProperty before characters separator space _ behind ih =>
      exact .lastProperty (before.append more) (characters.append more) (separator.append more)
        (space.append more) ih (behind.append more)
  | property before characters separator space _ behind _ ih later =>
      exact .property (before.append more) (characters.append more) (separator.append more)
        (space.append more) ih (behind.append more) later

theorem SpaceText.suffix {text rest : JsString} (space : SpaceText text rest) : rest <:+ text := by
  obtain ⟨spaces, _, rfl⟩ := space
  exact List.suffix_append _ _

theorem CharactersText.suffix {text value rest : JsString}
    (derived : CharactersText text value rest) : rest <:+ text := by
  induction derived with
  | close rest => exact List.suffix_cons _ _
  | unescaped _ _ _ _ ih => exact ih.trans (List.suffix_cons _ _)
  | short _ _ ih => exact (ih.trans (List.suffix_cons _ _)).trans (List.suffix_cons _ _)
  | @unicode first second third fourth _ text _ _ _ _ ih =>
      exact ih.trans (List.suffix_append [92, 117, first, second, third, fourth] text)

/-- What a derivation leaves is a suffix of the text. -/
theorem DerivesJson.suffix {part : JsonPart} {text rest : JsString}
    (derived : DerivesJson part text rest) : rest <:+ text := by
  have behindUnit : ∀ {text rest : JsString} {unit : CodeUnit}, unit :: rest <:+ text →
      rest <:+ text := fun inside => (List.suffix_cons _ _).trans inside
  induction derived with
  | nullLiteral rest => exact List.suffix_append _ _
  | trueLiteral rest => exact List.suffix_append _ _
  | falseLiteral rest => exact List.suffix_append _ _
  | number number rest => exact List.suffix_append _ _
  | string characters => exact characters.suffix.trans (List.suffix_cons _ _)
  | emptyArray space => exact (behindUnit space.suffix).trans (List.suffix_cons _ _)
  | array _ ih => exact ih.trans (List.suffix_cons _ _)
  | emptyObject space => exact (behindUnit space.suffix).trans (List.suffix_cons _ _)
  | object _ ih => exact ih.trans (List.suffix_cons _ _)
  | lastEntry before _ behind ih =>
      exact ((behindUnit behind.suffix).trans ih).trans before.suffix
  | entry before _ behind _ ih later =>
      exact ((later.trans (behindUnit behind.suffix)).trans ih).trans before.suffix
  | lastProperty before characters separator space _ behind ih =>
      exact (((((behindUnit behind.suffix).trans ih).trans space.suffix).trans
        (behindUnit separator.suffix)).trans characters.suffix).trans (behindUnit before.suffix)
  | property before characters separator space _ behind _ ih later =>
      exact ((((((later.trans (behindUnit behind.suffix)).trans ih).trans space.suffix).trans
        (behindUnit separator.suffix)).trans characters.suffix)).trans (behindUnit before.suffix)

/-- A text without white space derives a value from its first unit to its last. -/
theorem JsonText.whole {text : JsString} {tree : JsonValue} (derived : JsonText text tree)
    (visible : ∀ unit ∈ text, isJsonSpace unit = false) : DerivesJson (.value tree) text [] := by
  obtain ⟨start, after, ⟨before, areSpaces, split⟩, value, ⟨behind, areBehind, ends⟩⟩ := derived
  have nothing : ∀ spaces : JsString, (∀ unit ∈ spaces, isJsonSpace unit = true) →
      (∀ unit ∈ spaces, unit ∈ text) → spaces = [] := by
    intro spaces areSpaces inside
    refine List.eq_nil_iff_forall_not_mem.mpr fun unit member => ?_
    have space := areSpaces unit member
    rw [visible unit (inside unit member)] at space
    cases space
  have none := nothing before areSpaces fun unit member => split ▸ List.mem_append_left _ member
  rw [none, List.nil_append] at split
  rw [List.append_nil] at ends
  have last := nothing behind areBehind fun unit member =>
    split ▸ value.suffix.mem (ends ▸ member)
  rw [split]
  rw [last] at ends
  exact ends ▸ value

/-! ## Values without repeated keys -/

private theorem collapsedEntries_eq {entries : List JsonValue}
    (same : ∀ entry ∈ entries, entry.collapsed = entry) : collapsedEntries entries = entries := by
  induction entries with
  | nil => rfl
  | cons entry rest ih =>
      rw [collapsedEntries, same entry List.mem_cons_self,
        ih fun other member => same other (List.mem_cons_of_mem _ member)]

private theorem collapsedProperties_eq {before properties : List (JsString × JsonValue)}
    (distinct : ((before ++ properties).map Prod.fst).Nodup)
    (same : ∀ property ∈ properties, property.2.collapsed = property.2) :
    collapsedProperties properties before = before ++ properties := by
  induction properties generalizing before with
  | nil => rw [collapsedProperties, List.append_nil]
  | cons property rest ih =>
      obtain ⟨key, value⟩ := property
      have new : key ∉ before.map Prod.fst := by
        rw [List.map_append, List.map_cons, List.nodup_append] at distinct
        exact fun member => distinct.2.2 key member key List.mem_cons_self rfl
      rw [collapsedProperties, same (key, value) List.mem_cons_self, setProperty_new new,
        ih _ fun other member => same other (List.mem_cons_of_mem _ member)]
      · rw [List.append_assoc]
        rfl
      · rwa [List.append_assoc]

/-- Collapsing changes nothing where no key is repeated. -/
theorem IsJson.collapsed_eq {value : JsonValue} (isJson : IsJson value) :
    value.collapsed = value := by
  induction isJson with
  | null => rfl
  | boolean value => rfl
  | number value => rfl
  | string value => rfl
  | array entries _ ih => rw [JsonValue.collapsed, collapsedEntries_eq ih]
  | object properties distinct _ ih =>
      rw [JsonValue.collapsed, @collapsedProperties_eq [] _ distinct ih]
      rfl

end Kurobara.Foundation
