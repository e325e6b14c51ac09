import Kurobara.Foundation.JsonGrammar

/-! # Written JSON is derived

`JSON.stringify` writes texts of the grammar: the text of a value derives that value.
-/

namespace Kurobara.Foundation

private theorem spaceText_refl (text : JsString) : SpaceText text text :=
  ⟨[], List.forall_mem_nil _, rfl⟩

/-- The text of a value derives it, whatever follows. -/
def IsWritten (value : JsonValue) : Prop :=
  ∀ rest, DerivesJson (.value value) (stringify value ++ rest) rest

private theorem derives_quoted (value rest : JsString) :
    DerivesJson (.value (.string value)) (quoted value ++ rest) rest := by
  have characters := readString_iff.mp (readString_quoteUnits value rest)
  have derived := DerivesJson.string characters
  rwa [quoted, List.cons_append, List.append_assoc, List.singleton_append]

private theorem derives_number (value : Double) : IsWritten (.number (.finite value)) := by
  intro rest
  obtain ⟨decimal, read, same⟩ := Option.map_eq_some_iff.mp (readNumber_text value)
  have derived := DerivesJson.number (readDecimal_iff.mp read) rest
  rwa [same] at derived

private theorem derives_entries {entries : List JsonValue} (some : entries ≠ [])
    (written : ∀ entry ∈ entries, IsWritten entry) (rest : JsString) :
    DerivesJson (.entries entries) (joinComma (stringifyEntries entries) ++ 93 :: rest) rest := by
  induction entries with
  | nil => exact absurd rfl some
  | cons entry others ih =>
      have first := written entry List.mem_cons_self
      cases others with
      | nil => exact .lastEntry (spaceText_refl _) (first _) (spaceText_refl _)
      | cons next later =>
          have behind := ih (List.cons_ne_nil _ _) fun other member =>
            written other (List.mem_cons_of_mem _ member)
          have whole := DerivesJson.entry (spaceText_refl _) (first _) (spaceText_refl _) behind
          rw [stringifyEntries, stringifyEntries, joinComma, List.append_assoc, List.cons_append,
            ← stringifyEntries]
          exact whole

private theorem derives_properties {properties : List (JsString × JsonValue)}
    (some : properties ≠ [])
    (written : ∀ property ∈ properties, IsWritten property.2) (rest : JsString) :
    DerivesJson (.properties properties)
      (joinComma (stringifyProperties properties) ++ 125 :: rest) rest := by
  induction properties with
  | nil => exact absurd rfl some
  | cons property others ih =>
      obtain ⟨key, value⟩ := property
      have first := written (key, value) List.mem_cons_self
      have named : ∀ behind, CharactersText (quoteUnits key ++ 34 :: behind) key behind :=
        fun behind => readString_iff.mp (readString_quoteUnits key behind)
      cases others with
      | nil =>
          have whole := DerivesJson.lastProperty (spaceText_refl _) (named _) (spaceText_refl _)
            (spaceText_refl _) (first (125 :: rest)) (spaceText_refl _)
          rw [stringifyProperties, stringifyProperties, joinComma, quoted, List.cons_append,
            List.cons_append, List.append_assoc, List.append_assoc, List.cons_append]
          exact whole
      | cons next later =>
          have behind := ih (List.cons_ne_nil _ _) fun other member =>
            written other (List.mem_cons_of_mem _ member)
          have whole := DerivesJson.property (spaceText_refl _) (named _) (spaceText_refl _)
            (spaceText_refl _) (first _) (spaceText_refl _) behind
          obtain ⟨nextKey, nextValue⟩ := next
          rw [stringifyProperties, stringifyProperties, joinComma, ← stringifyProperties, quoted,
            List.cons_append, List.cons_append, List.cons_append, List.append_assoc,
            List.append_assoc, List.append_assoc, List.cons_append, List.cons_append]
          exact whole

/-- **The text of a value is derived.** -/
theorem IsJson.isWritten {value : JsonValue} (isJson : IsJson value) : IsWritten value := by
  induction isJson with
  | null => exact .nullLiteral
  | boolean value =>
      cases value with
      | true => exact .trueLiteral
      | false => exact .falseLiteral
  | number value => exact derives_number value
  | string value => exact derives_quoted value
  | array entries _ ih =>
      intro rest
      rw [stringify, List.cons_append, List.append_assoc, List.singleton_append]
      cases entries with
      | nil => exact .emptyArray (spaceText_refl _)
      | cons entry others => exact .array (derives_entries (List.cons_ne_nil _ _) ih rest)
  | object properties _ _ ih =>
      intro rest
      rw [stringify, List.cons_append, List.append_assoc, List.singleton_append]
      cases properties with
      | nil => exact .emptyObject (spaceText_refl _)
      | cons property others =>
          exact .object (derives_properties (List.cons_ne_nil _ _) ih rest)

/-- What `stringify` writes is a text of the grammar for the same value. -/
theorem jsonText_stringify {value : JsonValue} (isJson : IsJson value) :
    JsonText (stringify value) value := by
  have derived := isJson.isWritten []
  rw [List.append_nil] at derived
  exact ⟨_, _, spaceText_refl _, derived, spaceText_refl _⟩

end Kurobara.Foundation
