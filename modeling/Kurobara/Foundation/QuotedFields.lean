import Mathlib.Data.List.Basic

/-! # Quoted fields

A line of fields over any alphabet: separated by commas, each either plain or between quotes, with
the quotes inside it doubled. A reader of a line returns the fields of which it was written, and
an encoding of the alphabet that keeps quotes and commas apart from everything else carries the
line over to its own alphabet.
-/

namespace Kurobara.Foundation

/-- A field of a record, with or without quotes. -/
structure QuotedField (Symbol : Type) where
  quoted : Bool
  text : List Symbol
  deriving DecidableEq, Repr

section Fields

variable {Symbol : Type} [DecidableEq Symbol] (quote comma : Symbol)

/-- A text with every quote doubled. -/
def doubled : List Symbol → List Symbol
  | [] => []
  | symbol :: rest =>
      if symbol = quote then quote :: quote :: doubled rest else symbol :: doubled rest

/-- What a field is written as. -/
def fieldText (field : QuotedField Symbol) : List Symbol :=
  if field.quoted then quote :: (doubled quote field.text ++ [quote]) else field.text

/-- Fields joined by commas. -/
def fieldsText : List (QuotedField Symbol) → List Symbol
  | [] => []
  | [field] => fieldText quote field
  | field :: next :: rest => fieldText quote field ++ comma :: fieldsText (next :: rest)

/-- Fields with a comma behind each. -/
def fieldsBefore (fields : List (QuotedField Symbol)) : List Symbol :=
  fields.flatMap fun field => fieldText quote field ++ [comma]

/-- A text up to its closing quote, and what follows that quote. -/
def readQuoted : List Symbol → List Symbol × List Symbol
  | [] => ([], [])
  | symbol :: rest =>
      if symbol = quote then
        match rest with
        | [] => ([], [])
        | next :: later =>
            if next = quote then
              let (text, behind) := readQuoted later
              (quote :: text, behind)
            else ([], next :: later)
      else
        let (text, behind) := readQuoted rest
        (symbol :: text, behind)

/-- One field, and what follows it. -/
def readField (source : List Symbol) : QuotedField Symbol × List Symbol :=
  if source.head? = some quote then
    (⟨true, (readQuoted quote source.tail).1⟩, (readQuoted quote source.tail).2)
  else (⟨false, source.takeWhile fun symbol => symbol ≠ comma⟩,
    source.dropWhile fun symbol => symbol ≠ comma)

/-- The fields of a line, at most so many of them. One symbol separates a field from the next. -/
def readFields : ℕ → List Symbol → Option (List (QuotedField Symbol))
  | 0, _ => none
  | remaining + 1, source =>
      match (readField quote comma source).2 with
      | [] => some [(readField quote comma source).1]
      | _ :: next => (readFields remaining next).map ((readField quote comma source).1 :: ·)

/-- A plain field has neither quotes nor commas. -/
def IsReadable (field : QuotedField Symbol) : Prop :=
  field.quoted = false → quote ∉ field.text ∧ comma ∉ field.text

variable {quote comma}

theorem doubled_append (left right : List Symbol) :
    doubled quote (left ++ right) = doubled quote left ++ doubled quote right := by
  induction left with
  | nil => rfl
  | cons symbol rest ih =>
      rw [List.cons_append, doubled, doubled, ih]
      split_ifs <;> rfl

/-- A quoted text is read up to its closing quote. -/
theorem readQuoted_doubled (text : List Symbol) {rest : List Symbol}
    (separate : rest.head? ≠ some quote) :
    readQuoted quote (doubled quote text ++ quote :: rest) = (text, rest) := by
  induction text with
  | nil =>
      rw [doubled, List.nil_append, readQuoted.eq_def]
      dsimp only
      rw [if_pos rfl]
      cases rest with
      | nil => rfl
      | cons next later =>
          dsimp only
          rw [if_neg fun same => separate (by rw [same]; rfl)]
  | cons symbol text ih =>
      rw [doubled]
      by_cases same : symbol = quote
      · rw [if_pos same, List.cons_append, List.cons_append, readQuoted.eq_def]
        dsimp only
        rw [if_pos rfl, if_pos rfl, ih, same]
      · rw [if_neg same, List.cons_append, readQuoted.eq_def]
        dsimp only
        rw [if_neg same, ih]

/-- A field is read up to the comma behind it, or to the end. -/
theorem readField_fieldText {field : QuotedField Symbol} (readable : IsReadable quote comma field)
    (distinct : comma ≠ quote) {rest : List Symbol}
    (ends : rest = [] ∨ rest.head? = some comma) :
    readField quote comma (fieldText quote field ++ rest) = (field, rest) := by
  have separate : rest.head? ≠ some quote := by
    rcases ends with rfl | head
    · exact fun none => by cases none
    · rw [head]
      exact fun same => distinct (Option.some.inj same)
  unfold readField fieldText
  obtain ⟨quoted, text⟩ := field
  cases quoted with
  | true =>
      rw [if_pos rfl, List.cons_append, List.head?_cons, if_pos rfl, List.tail_cons,
        List.append_assoc, List.singleton_append, readQuoted_doubled text separate]
  | false =>
      obtain ⟨noQuote, noComma⟩ := readable rfl
      have head : (text ++ rest).head? ≠ some quote := by
        cases text with
        | nil => exact separate
        | cons first others =>
            rw [List.cons_append, List.head?_cons]
            exact fun same => noQuote (by rw [Option.some.inj same]; exact List.mem_cons_self)
      have plain : ∀ symbol ∈ text, decide (symbol ≠ comma) = true := fun symbol member =>
        decide_eq_true fun same => noComma (same ▸ member)
      rw [if_neg Bool.false_ne_true, if_neg head, List.takeWhile_append_of_pos plain,
        List.dropWhile_append_of_pos plain]
      rcases ends with rfl | comesComma
      · rw [List.takeWhile_nil, List.dropWhile_nil, List.append_nil]
      · cases rest with
        | nil => cases comesComma
        | cons next later =>
            rw [List.head?_cons, Option.some.injEq] at comesComma
            rw [comesComma, List.takeWhile_cons_of_neg (by simp),
              List.dropWhile_cons_of_neg (by simp), List.append_nil]

/-- **A line reads back as its fields**, unless they are too many. -/
theorem readFields_fieldsText {fields : List (QuotedField Symbol)} (nonempty : fields ≠ [])
    (readable : ∀ field ∈ fields, IsReadable quote comma field) (distinct : comma ≠ quote)
    (maximum : ℕ) :
    readFields quote comma maximum (fieldsText quote comma fields) =
      if fields.length ≤ maximum then some fields else none := by
  induction fields generalizing maximum with
  | nil => exact absurd rfl nonempty
  | cons field rest ih =>
      cases maximum with
      | zero => rfl
      | succ remaining =>
          have first := readable field List.mem_cons_self
          cases rest with
          | nil =>
              have ends : ([] : List Symbol) = [] ∨ ([] : List Symbol).head? = some comma :=
                .inl rfl
              have reads := readField_fieldText first distinct ends
              rw [List.append_nil] at reads
              rw [readFields, fieldsText, reads]
              simp
          | cons next later =>
              have ends : comma :: fieldsText quote comma (next :: later) = [] ∨
                  (comma :: fieldsText quote comma (next :: later)).head? = some comma := .inr rfl
              have reads := readField_fieldText first distinct ends
              rw [readFields, fieldsText, reads]
              dsimp only
              rw [ih (List.cons_ne_nil next later)
                (fun other member => readable other (List.mem_cons_of_mem field member))]
              by_cases few : (next :: later).length ≤ remaining
              · rw [if_pos few, if_pos (by simpa using few)]
                rfl
              · rw [if_neg few, if_neg (by simpa using few)]
                rfl

theorem fieldsText_concat (fields : List (QuotedField Symbol)) (field : QuotedField Symbol) :
    fieldsText quote comma (fields ++ [field]) =
      fieldsBefore quote comma fields ++ fieldText quote field := by
  induction fields with
  | nil => rfl
  | cons first rest ih =>
      have later : ∃ next others, rest ++ [field] = next :: others := by
        cases rest with
        | nil => exact ⟨field, [], rfl⟩
        | cons next others => exact ⟨next, others ++ [field], rfl⟩
      obtain ⟨next, others, split⟩ := later
      rw [List.cons_append, split, fieldsText, ← split, ih, fieldsBefore, fieldsBefore,
        List.flatMap_cons]
      simp

theorem fieldsBefore_concat (fields : List (QuotedField Symbol)) (field : QuotedField Symbol) :
    fieldsBefore quote comma (fields ++ [field]) =
      fieldsBefore quote comma fields ++ (fieldText quote field ++ [comma]) := by
  simp [fieldsBefore]

/-! ## Encodings -/

section Encoding

variable {Code : Type}

/-- A field in another alphabet. -/
def QuotedField.encoded (encode : Symbol → List Code) (field : QuotedField Symbol) :
    QuotedField Code :=
  ⟨field.quoted, field.text.flatMap encode⟩

/-- A symbol is encoded as one code, which occurs in no other encoding. -/
structure KeepsApart (encode : Symbol → List Code) (symbol : Symbol) (code : Code) : Prop where
  alone : encode symbol = [code]
  apart : ∀ other, other ≠ symbol → code ∉ encode other

variable {encode : Symbol → List Code} {quoteCode commaCode : Code}

theorem KeepsApart.mem_iff {symbol : Symbol} {code : Code} (keeps : KeepsApart encode symbol code)
    (text : List Symbol) : code ∈ text.flatMap encode ↔ symbol ∈ text := by
  rw [List.mem_flatMap]
  constructor
  · rintro ⟨other, member, inside⟩
    by_cases same : other = symbol
    · exact same ▸ member
    · exact absurd inside (keeps.apart other same)
  · intro member
    exact ⟨symbol, member, by rw [keeps.alone]; exact List.mem_singleton_self code⟩

theorem IsReadable.encoded {field : QuotedField Symbol} (readable : IsReadable quote comma field)
    (keepsQuote : KeepsApart encode quote quoteCode)
    (keepsComma : KeepsApart encode comma commaCode) :
    IsReadable quoteCode commaCode (field.encoded encode) := by
  intro plain
  obtain ⟨noQuote, noComma⟩ := readable plain
  exact ⟨fun member => noQuote ((keepsQuote.mem_iff field.text).mp member),
    fun member => noComma ((keepsComma.mem_iff field.text).mp member)⟩

variable [DecidableEq Code]

/-- A text without quotes has nothing to double. -/
theorem doubled_plain {text : List Symbol} (plain : quote ∉ text) : doubled quote text = text := by
  induction text with
  | nil => rfl
  | cons symbol rest ih =>
      rw [List.mem_cons, not_or] at plain
      rw [doubled, if_neg fun same => plain.1 same.symm, ih plain.2]

private theorem doubled_encoded (keeps : KeepsApart encode quote quoteCode) (text : List Symbol) :
    doubled quoteCode (text.flatMap encode) = (doubled quote text).flatMap encode := by
  induction text with
  | nil => rfl
  | cons symbol rest ih =>
      rw [List.flatMap_cons, doubled_append, ih, doubled]
      by_cases same : symbol = quote
      · rw [if_pos same, same, List.flatMap_cons, List.flatMap_cons, keeps.alone]
        simp [doubled]
      · rw [if_neg same, List.flatMap_cons, doubled_plain (keeps.apart symbol same)]

private theorem fieldText_encoded (keeps : KeepsApart encode quote quoteCode)
    (field : QuotedField Symbol) :
    fieldText quoteCode (field.encoded encode) = (fieldText quote field).flatMap encode := by
  unfold fieldText QuotedField.encoded
  dsimp only
  cases field.quoted with
  | true =>
      rw [if_pos rfl, if_pos rfl, doubled_encoded keeps, List.flatMap_cons, List.flatMap_append,
        List.flatMap_singleton, keeps.alone, List.singleton_append]
  | false => rfl

/-- An encoding carries lines over. -/
theorem fieldsText_encoded (keepsQuote : KeepsApart encode quote quoteCode)
    (keepsComma : KeepsApart encode comma commaCode) (fields : List (QuotedField Symbol)) :
    fieldsText quoteCode commaCode (fields.map (QuotedField.encoded encode)) =
      (fieldsText quote comma fields).flatMap encode := by
  induction fields with
  | nil => rfl
  | cons field rest ih =>
      cases rest with
      | nil => exact fieldText_encoded keepsQuote field
      | cons next later =>
          rw [List.map_cons] at ih ⊢
          rw [List.map_cons, fieldsText, fieldsText, fieldText_encoded keepsQuote, ih,
            List.flatMap_append, List.flatMap_cons, keepsComma.alone, List.singleton_append]

end Encoding

end Fields

end Kurobara.Foundation
