import Kurobara.ProviderSearch.StrictJsonParser
import Mathlib.Data.Bool.AllAny

/-! # The tokens of the strict parser

String tokens and primitives are handed to `JSON.parse` one by one. Each of them is taken exactly
when the grammar derives it where it stands.
-/

namespace Kurobara.ProviderSearch

open Foundation

/-! ## String tokens -/

private theorem stringToken_escape (character : CodeUnit) (rest : JsString) :
    stringToken false (92 :: character :: rest) =
      (stringToken false rest).map fun (token, later) => (92 :: character :: token, later) := by
  rw [stringToken.eq_def]
  dsimp only
  rw [if_pos rfl, stringToken.eq_def]
  dsimp only
  cases stringToken false rest <;> rfl

private theorem stringToken_plain {character : CodeUnit} (noQuote : character ≠ 34)
    (noEscape : character ≠ 92) (printable : ¬ character < 32) (rest : JsString) :
    stringToken false (character :: rest) =
      (stringToken false rest).map fun (token, later) => (character :: token, later) := by
  rw [stringToken.eq_def]
  dsimp only
  rw [if_neg noEscape, if_neg noQuote, if_neg printable]

/-- A token is a first part of the source, and it is its own token. -/
theorem stringToken_split {escaped : Bool} {source token later : JsString}
    (taken : stringToken escaped source = some (token, later)) :
    source = token ++ later ∧ stringToken escaped token = some (token, []) := by
  induction source generalizing escaped token with
  | nil => cases escaped <;> cases taken
  | cons character rest ih =>
      have further : ∀ next, (stringToken next rest).map
          (fun (token, later) => (character :: token, later)) = some (token, later) →
          ∃ inner, token = character :: inner ∧ rest = inner ++ later ∧
            stringToken next inner = some (inner, []) := by
        intro next found
        obtain ⟨⟨inner, behind⟩, inside, split⟩ := Option.map_eq_some_iff.mp found
        cases split
        exact ⟨inner, rfl, ih inside⟩
      rw [stringToken.eq_def] at taken
      cases escaped with
      | true =>
          obtain ⟨inner, rfl, rfl, alone⟩ := further false taken
          refine ⟨rfl, ?_⟩
          rw [stringToken.eq_def]
          dsimp only
          rw [alone]
          rfl
      | false =>
          dsimp only at taken
          split_ifs at taken with escape quote control
          · obtain ⟨inner, rfl, rfl, alone⟩ := further true taken
            refine ⟨rfl, ?_⟩
            rw [stringToken.eq_def]
            dsimp only
            rw [if_pos escape, alone]
            rfl
          · cases taken
            refine ⟨rfl, ?_⟩
            rw [stringToken.eq_def]
            dsimp only
            rw [if_neg escape, if_pos quote]
          · obtain ⟨inner, rfl, rfl, alone⟩ := further false taken
            refine ⟨rfl, ?_⟩
            rw [stringToken_plain quote escape control, alone]
            rfl

private theorem hexValue_visible {unit : CodeUnit} {digit : ℕ} (hex : hexValue unit = some digit) :
    unit ≠ 34 ∧ unit ≠ 92 ∧ ¬ unit < 32 := by
  have large : 48 ≤ unit.toNat ∧ unit.toNat ≠ 92 := by
    unfold hexValue at hex
    split_ifs at hex with decimal lower upper
    · have bounds := decimal
      simp only [UInt16.le_iff_toNat_le, UInt16.reduceToNat] at bounds
      omega
    · have bounds := lower
      simp only [UInt16.le_iff_toNat_le, UInt16.reduceToNat] at bounds
      omega
    · have bounds := upper
      simp only [UInt16.le_iff_toNat_le, UInt16.reduceToNat] at bounds
      omega
  refine ⟨?_, ?_, ?_⟩
  · rintro rfl
    exact absurd large.1 (by decide)
  · rintro rfl
    exact large.2 rfl
  · rw [UInt16.lt_iff_toNat_lt]
    have control : (32 : CodeUnit).toNat = 32 := rfl
    omega

/-- The characters of a string are its token. -/
theorem stringToken_characters {text value rest : JsString}
    (derived : CharactersText text value rest) : ∃ token, text = token ++ rest ∧
      stringToken false text = some (token, rest) ∧ CharactersText token value [] := by
  induction derived with
  | close rest =>
      refine ⟨[34], rfl, ?_, .close []⟩
      rw [stringToken.eq_def]
      rfl
  | unescaped noQuote noEscape printable _ ih =>
      obtain ⟨token, rfl, taken, alone⟩ := ih
      refine ⟨_ :: token, rfl, ?_, .unescaped noQuote noEscape printable alone⟩
      rw [stringToken_plain noQuote noEscape printable, taken]
      rfl
  | short escaped _ ih =>
      obtain ⟨token, rfl, taken, alone⟩ := ih
      refine ⟨92 :: _ :: token, rfl, ?_, .short escaped alone⟩
      rw [stringToken_escape, taken]
      rfl
  | @unicode first second third fourth unit text value rest escaped _ ih =>
      obtain ⟨token, rfl, taken, alone⟩ := ih
      refine ⟨92 :: 117 :: first :: second :: third :: fourth :: token, rfl, ?_,
        .unicode escaped alone⟩
      unfold readHex at escaped
      simp only [Option.bind_eq_bind, Option.bind_eq_some_iff, Option.some.injEq] at escaped
      obtain ⟨_, firstHex, _, secondHex, _, thirdHex, _, fourthHex, _⟩ := escaped
      obtain ⟨firstQuote, firstEscape, firstPrintable⟩ := hexValue_visible firstHex
      obtain ⟨secondQuote, secondEscape, secondPrintable⟩ := hexValue_visible secondHex
      obtain ⟨thirdQuote, thirdEscape, thirdPrintable⟩ := hexValue_visible thirdHex
      obtain ⟨fourthQuote, fourthEscape, fourthPrintable⟩ := hexValue_visible fourthHex
      rw [stringToken_escape, stringToken_plain firstQuote firstEscape firstPrintable,
        stringToken_plain secondQuote secondEscape secondPrintable,
        stringToken_plain thirdQuote thirdEscape thirdPrintable,
        stringToken_plain fourthQuote fourthEscape fourthPrintable, taken]
      rfl

/-- `JSON.parse` of a derived text whose value repeats no key. -/
theorem parseJson_jsonText {text : JsString} {tree : JsonValue} (derived : JsonText text tree)
    (plain : tree.collapsed = tree) : parseJson text = some tree := by
  rw [parseJson_eq_collapsed, jsonTree_iff_jsonText.mpr derived, Option.map_some, plain]

/-- **A string is parsed exactly when its characters are derived.** -/
theorem parseString_iff {state next : ParserState} {value : JsString} :
    parseString state = .ok (value, next) ↔ ∃ rest, state.source = 34 :: rest ∧
      CharactersText rest value next.source ∧ next.nodes = state.nodes := by
  constructor
  · intro parsed
    unfold parseString at parsed
    split at parsed
    · cases parsed
    · rename_i opening rest opened
      split_ifs at parsed with quote
      subst quote
      split at parsed
      · cases parsed
      · rename_i token later taken
        split at parsed
        · rename_i string found
          cases parsed
          refine ⟨rest, opened, ?_, rfl⟩
          rw [parseJson_eq_collapsed, Option.map_eq_some_iff] at found
          obtain ⟨tree, read, collapsed⟩ := found
          have scalar : tree = .string value := by
            cases tree <;> cases collapsed
            rfl
          subst scalar
          obtain ⟨start, after, before, derived, behind⟩ := jsonTree_iff_jsonText.mp read
          have starts : start = 34 :: token := by
            rw [← derived.visible, ← before.skipSpace_eq]
            exact skipSpace_cons (by decide)
          subst starts
          obtain ⟨rfl, alone⟩ := stringToken_split taken
          cases derived with
          | string characters =>
              obtain ⟨front, _, ends, closed⟩ := stringToken_characters characters
              rw [alone, Option.some.injEq, Prod.mk.injEq] at ends
              obtain ⟨rfl, rfl⟩ := ends
              exact closed.append later
        · cases parsed
  · rintro ⟨rest, opened, characters, same⟩
    obtain ⟨token, _, taken, alone⟩ := stringToken_characters characters
    have parsed : parseJson (34 :: token) = some (.string value) := by
      refine parseJson_jsonText ⟨34 :: token, [], ⟨[], List.forall_mem_nil _, rfl⟩,
        .string alone, ⟨[], List.forall_mem_nil _, rfl⟩⟩ rfl
    obtain ⟨source, nodes⟩ := next
    subst same
    unfold parseString
    rw [opened]
    dsimp only at taken ⊢
    rw [if_pos rfl, taken]
    dsimp only
    rw [parsed]

/-! ## Primitives -/

/-- What may follow a primitive. -/
def EndsPrimitive (rest : JsString) : Prop :=
  ∀ unit ∈ rest.head?, endsPrimitive unit = true

private theorem isNumberUnit_primitive {unit : CodeUnit} (number : isNumberUnit unit = true) :
    endsPrimitive unit = false := by
  simp only [isNumberUnit, Bool.or_eq_true, beq_iff_eq] at number
  rcases number with ((((digit | rfl) | rfl) | rfl) | rfl) | rfl
  · obtain ⟨visible, lower, upper⟩ := beginsNumber (.inl digit)
    have other : ∀ named : CodeUnit, named.toNat < 45 ∨ 57 < named.toNat → unit ≠ named := by
      rintro named apart rfl
      omega
    rw [endsPrimitive, beq_false_of_ne (other 44 (by decide)),
      beq_false_of_ne (other 93 (by decide)), beq_false_of_ne (other 125 (by decide))]
    exact visible
  all_goals decide

/-- A primitive is derived from units that do not end it. -/
theorem DerivesJson_primitive {value : JsonValue} {source rest : JsString}
    (derived : DerivesJson (.value value) source rest) (primitive : isPrimitive value = true) :
    ∃ text, source = text ++ rest ∧ DerivesJson (.value value) text [] ∧
      ∀ unit ∈ text, endsPrimitive unit = false := by
  cases derived with
  | nullLiteral => exact ⟨ascii "null", rfl, .nullLiteral [],
      List.all_iff_forall_prop.mp (by decide)⟩
  | trueLiteral => exact ⟨ascii "true", rfl, .trueLiteral [],
      List.all_iff_forall_prop.mp (by decide)⟩
  | falseLiteral => exact ⟨ascii "false", rfl, .falseLiteral [],
      List.all_iff_forall_prop.mp (by decide)⟩
  | @number text decimal number =>
      refine ⟨text, rfl, ?_, fun unit member => isNumberUnit_primitive (number.units unit member)⟩
      have alone := DerivesJson.number number []
      rwa [List.append_nil] at alone
  | string => cases primitive
  | emptyArray => cases primitive
  | array => cases primitive
  | emptyObject => cases primitive
  | object => cases primitive

private theorem collapsed_primitive {tree value : JsonValue} (collapsed : tree.collapsed = value)
    (primitive : isPrimitive value = true) : tree = value := by
  cases tree with
  | array entries =>
      rw [← collapsed] at primitive
      cases primitive
  | object properties =>
      rw [← collapsed] at primitive
      cases primitive
  | _ => exact collapsed

/-- **A primitive is parsed exactly when it is derived up to its end.** -/
theorem parsePrimitive_iff {state next : ParserState} {value : JsonValue} :
    parsePrimitive state = .ok (value, next) ↔ isPrimitive value = true ∧
      DerivesJson (.value value) state.source next.source ∧ EndsPrimitive next.source ∧
      next.nodes = state.nodes := by
  constructor
  · intro parsed
    unfold parsePrimitive at parsed
    split at parsed
    · rename_i found read
      split_ifs at parsed with primitive
      cases parsed
      rw [parseJson_eq_collapsed, Option.map_eq_some_iff] at read
      obtain ⟨tree, derived, collapsed⟩ := read
      obtain rfl := collapsed_primitive collapsed primitive
      refine ⟨primitive, ?_, ?_, rfl⟩
      · have alone := (jsonTree_iff_jsonText.mp derived).whole fun unit member => by
          have inside := List.mem_takeWhile_imp member
          rw [Bool.not_eq_true', endsPrimitive, Bool.or_eq_false_iff] at inside
          exact inside.2
        have longer := alone.append (state.source.dropWhile fun unit => !endsPrimitive unit)
        rwa [List.takeWhile_append_dropWhile] at longer
      · intro unit head
        have stops := List.head?_dropWhile_not (fun unit => !endsPrimitive unit) state.source
        dsimp only at head
        rw [head] at stops
        simpa using stops
    · cases parsed
  · rintro ⟨primitive, derived, ends, same⟩
    obtain ⟨text, split, alone, inside⟩ := DerivesJson_primitive derived primitive
    have parsed : parseJson text = some value := by
      refine parseJson_jsonText ⟨text, [], ⟨[], List.forall_mem_nil _, rfl⟩, alone,
        ⟨[], List.forall_mem_nil _, rfl⟩⟩ ?_
      cases value <;> first | rfl | cases primitive
    have span := @span_append (fun unit => !endsPrimitive unit) text next.source
      (fun unit member => by rw [inside unit member]; rfl)
      (fun unit member => by rw [ends unit member]; rfl)
    rw [List.span_eq_takeWhile_dropWhile, Prod.mk.injEq, ← split] at span
    obtain ⟨source, nodes⟩ := next
    subst same
    unfold parsePrimitive
    rw [span.1, span.2, parsed]
    dsimp only
    rw [if_pos primitive]

end Kurobara.ProviderSearch
