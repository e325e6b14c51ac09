import Kurobara.DatasetCodec.Csv

/-! # The grammar of CSV records

Records of fields, each quoted with its quotes doubled, or plain without quotes, commas and line
breaks; records end with CRLF, which the last one may lack. A scanner that reads a text character
by character finds the records of every document, and fails on every other text.
-/

namespace Kurobara.DatasetCodec

open Kurobara.Foundation Kurobara.Kernel Kurobara.Application

/-- A field of a record: its text, and whether it is quoted. -/
abbrev TextField := QuotedField Char

/-! ## The grammar -/

/-- A character that needs no quotes. -/
def isOrdinary (character : Char) : Prop :=
  character ≠ '"' ∧ character ≠ ',' ∧ character ≠ '\r' ∧ character ≠ '\n'

/-- The line break between two records. -/
def lineBreak : List Char :=
  ['\r', '\n']

/-- A field without quotes has only ordinary characters. -/
def IsCsvField (field : TextField) : Prop :=
  field.quoted = false → ∀ character ∈ field.text, isOrdinary character

/-- A record has a field, and its fields are well formed. -/
structure IsCsvRecord (fields : List TextField) : Prop where
  nonempty : fields ≠ []
  valid : ∀ field ∈ fields, IsCsvField field

/-- The text of a record. -/
def recordText (fields : List TextField) : List Char :=
  fieldsText '"' ',' fields

/-- Records with a line break behind each. -/
def linesText (lines : List (List TextField)) : List Char :=
  lines.flatMap fun fields => recordText fields ++ lineBreak

/-- A document: only its last record may lack a line break, unless it is empty. -/
structure IsCsvDocument (source : List Char) (lines : List (List TextField)) : Prop where
  valid : ∀ fields ∈ lines, IsCsvRecord fields
  text : source = linesText lines ∨ ∃ front last, lines = front ++ [last] ∧ recordText last ≠ [] ∧
    source = linesText front ++ recordText last

/-! ## The scanner -/

/-- The complete fields of a record, the text of the field at hand, and whether a carriage return
outside quotes has been read. -/
structure FieldScan where
  fields : List TextField
  text : List Char
  state : CsvState
  broken : Bool
  deriving DecidableEq, Repr

/-- What the scan of one character gives. -/
inductive ScanResult where
  | continues (scan : FieldScan)
  | ends (fields : List TextField)
  | fails
  deriving DecidableEq, Repr

namespace FieldScan

/-- The scan at the start of a record. -/
def start : FieldScan :=
  ⟨[], [], .fieldStart, false⟩

/-- The field being read. -/
def current (scan : FieldScan) : TextField :=
  ⟨scan.state == .quoted || scan.state == .afterQuote, scan.text⟩

/-- The fields of the record, if it ended here. -/
def line (scan : FieldScan) : List TextField :=
  scan.fields ++ [scan.current]

/-- A character outside quotes. -/
def stepOutside (scan : FieldScan) (character : Char) : ScanResult :=
  if character = '\r' then .continues { scan with broken := true }
  else if character = '\n' then .fails
  else if character = ',' then .continues ⟨scan.line, [], .fieldStart, false⟩
  else if character = '"' then
    match scan.state with
    | .fieldStart => .continues { scan with state := .quoted }
    | .afterQuote => .continues { scan with state := .quoted, text := scan.text ++ ['"'] }
    | _ => .fails
  else if scan.state = .afterQuote then .fails
  else .continues { scan with state := .unquoted, text := scan.text ++ [character] }

/-- One character of a record. -/
def step (scan : FieldScan) (character : Char) : ScanResult :=
  if scan.broken then
    if character = '\n' then .ends scan.line else .fails
  else if scan.state = .quoted then
    if character = '"' then .continues { scan with state := .afterQuote }
    else .continues { scan with text := scan.text ++ [character] }
  else scan.stepOutside character

/-- What was read of the field at hand. -/
def partialText (scan : FieldScan) : List Char :=
  match scan.state with
  | .quoted => '"' :: doubled '"' scan.text
  | .afterQuote => '"' :: (doubled '"' scan.text ++ ['"'])
  | _ => scan.text

/-- What the record holds so far. -/
def read (scan : FieldScan) : List Char :=
  fieldsBefore '"' ',' scan.fields ++ scan.partialText

/-- What was read since the record began. -/
def consumed (scan : FieldScan) : List Char :=
  scan.read ++ if scan.broken then ['\r'] else []

end FieldScan

/-- The records of a text, and whether it fails to be a document. -/
def scanDocument : FieldScan → List Char → List (List TextField) × Bool
  | scan, [] =>
      if scan.broken || scan.state == .quoted then ([], true)
      else if scan.consumed = [] then ([], false)
      else ([scan.line], false)
  | scan, character :: rest =>
      match scan.step character with
      | .continues next => scanDocument next rest
      | .ends fields => (fields :: (scanDocument .start rest).1, (scanDocument .start rest).2)
      | .fails => ([], true)

/-! ## The scanner is sound -/

/-- A scan reads fields of the grammar. -/
structure FieldScan.IsValid (scan : FieldScan) : Prop where
  fields : ∀ field ∈ scan.fields, IsCsvField field
  started : scan.state = .fieldStart → scan.text = []
  plain : scan.state = .unquoted → ∀ character ∈ scan.text, isOrdinary character
  outside : scan.broken = true → scan.state ≠ .quoted

theorem FieldScan.start_isValid : FieldScan.start.IsValid where
  fields _ member := by cases member
  started _ := rfl
  plain impossible := by cases impossible
  outside impossible := by cases impossible

namespace FieldScan

variable {scan : FieldScan}

theorem IsValid.current (valid : scan.IsValid) : IsCsvField scan.current := by
  intro plain character member
  cases stateEq : scan.state with
  | quoted => simp [FieldScan.current, stateEq] at plain
  | afterQuote => simp [FieldScan.current, stateEq] at plain
  | fieldStart =>
      rw [FieldScan.current, valid.started stateEq] at member
      cases member
  | unquoted => exact valid.plain stateEq character member

theorem IsValid.line (valid : scan.IsValid) : IsCsvRecord scan.line where
  nonempty := by simp [FieldScan.line]
  valid field member := by
    rcases List.mem_append.mp member with earlier | last
    · exact valid.fields field earlier
    · rw [List.mem_singleton.mp last]
      exact valid.current

/-- Outside quotes, what was read is the record itself. -/
theorem read_eq_recordText (outside : scan.state ≠ .quoted) : scan.read = recordText scan.line := by
  rw [FieldScan.read, FieldScan.line, recordText, fieldsText_concat]
  refine congrArg (fieldsBefore '"' ',' scan.fields ++ ·) ?_
  unfold partialText fieldText FieldScan.current
  cases stateEq : scan.state with
  | quoted => exact absurd stateEq outside
  | afterQuote => rfl
  | fieldStart => rfl
  | unquoted => rfl

/-- A step that continues has read its character. -/
theorem step_continues (valid : scan.IsValid) {character : Char} {next : FieldScan}
    (stepped : scan.step character = .continues next) :
    next.IsValid ∧ next.consumed = scan.consumed ++ [character] := by
  obtain ⟨fields, text, state, broken⟩ := scan
  unfold FieldScan.step at stepped
  cases broken with
  | true =>
      rw [if_pos rfl] at stepped
      split_ifs at stepped
  | false =>
      rw [if_neg Bool.false_ne_true] at stepped
      by_cases inside : state = .quoted
      · rw [if_pos inside] at stepped
        split_ifs at stepped with quote
        · cases stepped
          refine ⟨⟨valid.fields, ?_, ?_, ?_⟩, ?_⟩
          · intro impossible; cases impossible
          · intro impossible; cases impossible
          · intro impossible; cases impossible
          · simp [consumed, FieldScan.read, partialText, inside, quote]
        · cases stepped
          refine ⟨⟨valid.fields, ?_, ?_, ?_⟩, ?_⟩
          · intro starts; rw [inside] at starts; cases starts
          · intro starts; rw [inside] at starts; cases starts
          · intro impossible; cases impossible
          · simp [consumed, FieldScan.read, partialText, inside, doubled_append, doubled, quote]
      · rw [if_neg inside, stepOutside] at stepped
        split_ifs at stepped with isCr isLf isComma isQuote closed
        · cases stepped
          exact ⟨⟨valid.fields, valid.started, valid.plain, fun _ => inside⟩,
            by simp [consumed, FieldScan.read, partialText, isCr]⟩
        · cases stepped
          refine ⟨⟨valid.line.valid, fun _ => rfl, ?_, ?_⟩, ?_⟩
          · intro impossible; cases impossible
          · intro impossible; cases impossible
          · have record := @read_eq_recordText ⟨fields, text, state, false⟩ inside
            rw [recordText, FieldScan.line, fieldsText_concat] at record
            simp only [consumed]
            rw [record]
            simp [FieldScan.read, partialText, FieldScan.line, fieldsBefore_concat, isComma]
        · cases state with
          | fieldStart =>
              cases stepped
              have empty : text = [] := valid.started rfl
              refine ⟨⟨valid.fields, ?_, ?_, ?_⟩, ?_⟩
              · intro impossible; cases impossible
              · intro impossible; cases impossible
              · intro impossible; cases impossible
              · simp [consumed, FieldScan.read, partialText, empty, doubled, isQuote]
          | afterQuote =>
              cases stepped
              refine ⟨⟨valid.fields, ?_, ?_, ?_⟩, ?_⟩
              · intro impossible; cases impossible
              · intro impossible; cases impossible
              · intro impossible; cases impossible
              · simp [consumed, FieldScan.read, partialText, doubled_append, doubled, isQuote]
          | quoted => exact absurd rfl inside
          | unquoted => cases stepped
        · cases stepped
          refine ⟨⟨valid.fields, ?_, ?_, ?_⟩, ?_⟩
          · intro impossible; cases impossible
          · intro _ other member
            rcases List.mem_append.mp member with earlier | last
            · cases state with
              | fieldStart =>
                  rw [show text = [] from valid.started rfl] at earlier
                  cases earlier
              | unquoted => exact valid.plain rfl other earlier
              | quoted => exact absurd rfl inside
              | afterQuote => exact absurd rfl closed
            · rw [List.mem_singleton.mp last]
              exact ⟨isQuote, isComma, isCr, isLf⟩
          · intro impossible; cases impossible
          · cases state with
            | fieldStart => simp [consumed, FieldScan.read, partialText]
            | unquoted => simp [consumed, FieldScan.read, partialText]
            | quoted => exact absurd rfl inside
            | afterQuote => exact absurd rfl closed

/-- A step that ends a record has read it and its line break. -/
theorem step_ends (valid : scan.IsValid) {character : Char} {fields : List TextField}
    (stepped : scan.step character = .ends fields) :
    IsCsvRecord fields ∧ scan.consumed ++ [character] = recordText fields ++ lineBreak := by
  unfold FieldScan.step at stepped
  split_ifs at stepped with broken newline quoted quote
  · cases stepped
    refine ⟨valid.line, ?_⟩
    rw [consumed, if_pos broken, read_eq_recordText (valid.outside broken), newline,
      List.append_assoc]
    rfl
  · unfold stepOutside at stepped
    split_ifs at stepped
    cases stateEq : scan.state <;> rw [stateEq] at stepped <;> cases stepped

end FieldScan

/-- **Scanning is sound**: the records found are of the grammar, and they are the whole text,
unless the scan fails behind them. -/
theorem scanDocument_sound (text : List Char) : ∀ scan : FieldScan, scan.IsValid →
    (∀ fields ∈ (scanDocument scan text).1, IsCsvRecord fields) ∧
      ((scanDocument scan text).2 = false →
        scan.consumed ++ text = linesText (scanDocument scan text).1 ∨
          ∃ front last, (scanDocument scan text).1 = front ++ [last] ∧ recordText last ≠ [] ∧
            scan.consumed ++ text = linesText front ++ recordText last) ∧
      ∃ rest, (scanDocument scan text).2 = true →
        scan.consumed ++ text = linesText (scanDocument scan text).1 ++ rest := by
  induction text with
  | nil =>
      intro scan valid
      rw [scanDocument]
      split_ifs with incomplete empty
      · exact ⟨by simp, by simp, scan.consumed, fun _ => by simp [linesText]⟩
      · exact ⟨by simp, fun _ => .inl (by rw [empty]; rfl), [], by simp⟩
      · rw [Bool.or_eq_true, not_or, Bool.not_eq_true, beq_iff_eq] at incomplete
        have whole : scan.consumed = recordText scan.line := by
          rw [FieldScan.consumed, incomplete.1, if_neg Bool.false_ne_true, List.append_nil]
          exact FieldScan.read_eq_recordText incomplete.2
        refine ⟨?_, fun _ => .inr ⟨[], scan.line, rfl, whole ▸ empty, ?_⟩, [], by simp⟩
        · intro fields member
          rw [List.mem_singleton.mp member]
          exact valid.line
        · rw [List.append_nil, whole]
          rfl
  | cons character rest ih =>
      intro scan valid
      rw [scanDocument]
      cases stepped : scan.step character with
      | continues next =>
          obtain ⟨nextValid, consumed⟩ := FieldScan.step_continues valid stepped
          have later := ih next nextValid
          rw [consumed, List.append_assoc, List.singleton_append] at later
          exact later
      | fails => exact ⟨by simp, by simp, _, fun _ => rfl⟩
      | ends fields =>
          obtain ⟨isRecord, consumed⟩ := FieldScan.step_ends valid stepped
          obtain ⟨laterValid, complete, behind, failed⟩ := ih .start FieldScan.start_isValid
          have split : scan.consumed ++ character :: rest =
              recordText fields ++ lineBreak ++ (FieldScan.start.consumed ++ rest) := by
            rw [← consumed]
            simp [FieldScan.consumed, FieldScan.start, FieldScan.read, FieldScan.partialText,
              fieldsBefore]
          refine ⟨?_, ?_, behind, ?_⟩
          · intro line member
            rcases List.mem_cons.mp member with rfl | later
            · exact isRecord
            · exact laterValid line later
          · intro succeeded
            rcases complete succeeded with terminated | ⟨front, last, lines, occupied, text⟩
            · left
              rw [split, terminated, linesText, linesText, List.flatMap_cons]
            · right
              refine ⟨fields :: front, last, by dsimp only; rw [lines, List.cons_append],
                occupied, ?_⟩
              rw [split, text]
              simp only [linesText, List.flatMap_cons, List.append_assoc]
          · intro fails
            dsimp only at fails ⊢
            rw [split, failed fails]
            simp only [linesText, List.flatMap_cons, List.append_assoc]

/-! ## The scanner is complete -/

private theorem scanDocument_plain (fields : List TextField) (plain rest : List Char) :
    ∀ (text : List Char) (state : CsvState), state = .fieldStart ∨ state = .unquoted →
      (∀ character ∈ plain, isOrdinary character) →
      scanDocument ⟨fields, text, state, false⟩ (plain ++ rest) =
        scanDocument ⟨fields, text ++ plain, if plain = [] then state else .unquoted, false⟩
          rest := by
  induction plain with
  | nil =>
      intro text state _ _
      rw [List.append_nil, if_pos rfl, List.nil_append]
  | cons character others ih =>
      intro text state outside ordinary
      obtain ⟨noQuote, noComma, noCr, noLf⟩ := ordinary character List.mem_cons_self
      have stepped : FieldScan.step ⟨fields, text, state, false⟩ character =
          .continues ⟨fields, text ++ [character], .unquoted, false⟩ := by
        rcases outside with rfl | rfl <;>
          simp [FieldScan.step, FieldScan.stepOutside, noQuote, noComma, noCr, noLf]
      rw [List.cons_append, scanDocument, stepped]
      dsimp only
      rw [ih _ _ (.inr rfl) fun other member => ordinary other (List.mem_cons_of_mem _ member),
        List.append_assoc, List.singleton_append, if_neg (List.cons_ne_nil character others),
          ite_self]

private theorem scanDocument_doubled (fields : List TextField) (quoted rest : List Char) :
    ∀ text : List Char,
      scanDocument ⟨fields, text, .quoted, false⟩ (doubled '"' quoted ++ rest) =
        scanDocument ⟨fields, text ++ quoted, .quoted, false⟩ rest := by
  induction quoted with
  | nil =>
      intro text
      rw [List.append_nil]
      rfl
  | cons character others ih =>
      intro text
      rw [doubled]
      by_cases quote : character = '"'
      · rw [if_pos quote, List.cons_append, List.cons_append, scanDocument]
        have closes : FieldScan.step ⟨fields, text, .quoted, false⟩ '"' =
            .continues ⟨fields, text, .afterQuote, false⟩ := rfl
        have opens : FieldScan.step ⟨fields, text, .afterQuote, false⟩ '"' =
            .continues ⟨fields, text ++ ['"'], .quoted, false⟩ := rfl
        rw [closes]
        dsimp only
        rw [scanDocument, opens]
        dsimp only
        rw [ih, List.append_assoc, List.singleton_append, quote]
      · have stepped : FieldScan.step ⟨fields, text, .quoted, false⟩ character =
            .continues ⟨fields, text ++ [character], .quoted, false⟩ := by
          simp [FieldScan.step, quote]
        rw [if_neg quote, List.cons_append, scanDocument, stepped]
        dsimp only
        rw [ih, List.append_assoc, List.singleton_append]

/-- A scan outside quotes, with the fields it would end with and the text it has read. -/
structure IsScanOf (scan : FieldScan) (fields : List TextField) (text : List Char) : Prop where
  line : scan.line = fields
  unbroken : scan.broken = false
  outside : scan.state ≠ .quoted
  consumed : scan.consumed = text

/-- A field is scanned up to what follows it. -/
theorem scanDocument_field (fields : List TextField) {field : TextField}
    (valid : IsCsvField field) (rest : List Char) :
    ∃ scan, IsScanOf scan (fields ++ [field])
        (fieldsBefore '"' ',' fields ++ fieldText '"' field) ∧
      scanDocument ⟨fields, [], .fieldStart, false⟩ (fieldText '"' field ++ rest) =
        scanDocument scan rest := by
  obtain ⟨quoted, text⟩ := field
  cases quoted with
  | true =>
      refine ⟨⟨fields, text, .afterQuote, false⟩, ⟨rfl, rfl, by simp, ?_⟩, ?_⟩
      · rw [FieldScan.consumed, if_neg Bool.false_ne_true, List.append_nil]
        rfl
      · rw [fieldText, if_pos rfl, List.cons_append, List.append_assoc, scanDocument]
        have opens : FieldScan.step ⟨fields, [], .fieldStart, false⟩ '"' =
            .continues ⟨fields, [], .quoted, false⟩ := rfl
        rw [opens]
        dsimp only
        rw [scanDocument_doubled, List.nil_append, List.singleton_append, scanDocument]
        rfl
  | false =>
      have ordinary := valid rfl
      refine ⟨⟨fields, text, if text = [] then .fieldStart else .unquoted, false⟩,
        ⟨?_, rfl, ?_, ?_⟩, ?_⟩
      · unfold FieldScan.line FieldScan.current
        split_ifs <;> rfl
      · dsimp only
        split_ifs <;> simp
      · rw [FieldScan.consumed, if_neg Bool.false_ne_true, List.append_nil, FieldScan.read]
        unfold FieldScan.partialText
        dsimp only
        split_ifs <;> rfl
      · rw [fieldText, if_neg Bool.false_ne_true,
          scanDocument_plain fields text rest [] .fieldStart (.inl rfl) ordinary, List.nil_append]

/-- The fields of a record are scanned up to what follows them. -/
theorem scanDocument_fields {line : List TextField} (nonempty : line ≠ [])
    (valid : ∀ field ∈ line, IsCsvField field) (rest : List Char) :
    ∀ fields : List TextField, ∃ scan, IsScanOf scan (fields ++ line)
        (fieldsBefore '"' ',' fields ++ recordText line) ∧
      scanDocument ⟨fields, [], .fieldStart, false⟩ (recordText line ++ rest) =
        scanDocument scan rest := by
  induction line with
  | nil => exact absurd rfl nonempty
  | cons field others ih =>
      intro fields
      have first := valid field List.mem_cons_self
      cases others with
      | nil => exact scanDocument_field fields first rest
      | cons next later =>
          obtain ⟨scan, isScan, scanned⟩ := scanDocument_field fields first
            (',' :: (recordText (next :: later) ++ rest))
          obtain ⟨last, isLast, scannedLast⟩ := ih (List.cons_ne_nil next later)
            (fun other member => valid other (List.mem_cons_of_mem field member))
            (fields ++ [field])
          have separated : scan.step ',' =
            .continues ⟨fields ++ [field], [], .fieldStart, false⟩ := by
            rw [← isScan.line]
            simp [FieldScan.step, FieldScan.stepOutside, isScan.unbroken, isScan.outside]
          refine ⟨last, ⟨?_, isLast.unbroken, isLast.outside, ?_⟩, ?_⟩
          · rw [isLast.line, List.append_assoc, List.singleton_append]
          · rw [isLast.consumed, fieldsBefore_concat]
            simp [recordText, fieldsText]
          · rw [recordText, fieldsText, List.append_assoc, List.cons_append]
            refine scanned.trans ?_
            rw [scanDocument, separated]
            exact scannedLast

private theorem scanDocument_line {fields : List TextField} (isRecord : IsCsvRecord fields)
    (rest : List Char) :
    scanDocument .start (recordText fields ++ lineBreak ++ rest) =
      (fields :: (scanDocument .start rest).1, (scanDocument .start rest).2) := by
  obtain ⟨scan, isScan, scanned⟩ :=
    scanDocument_fields isRecord.nonempty isRecord.valid (lineBreak ++ rest) []
  rw [List.append_assoc]
  refine scanned.trans ?_
  have breaks : scan.step '\r' = .continues { scan with broken := true } := by
    simp [FieldScan.step, FieldScan.stepOutside, isScan.unbroken, isScan.outside]
  have ends : FieldScan.step { scan with broken := true } '\n' = .ends fields := by
    have line : scan.line = fields := isScan.line
    rw [← line]
    rfl
  rw [lineBreak, List.cons_append, List.singleton_append, scanDocument, breaks]
  dsimp only
  rw [scanDocument, ends]

private theorem scanDocument_lines (lines : List (List TextField)) (rest : List Char)
    (valid : ∀ fields ∈ lines, IsCsvRecord fields) :
    scanDocument .start (linesText lines ++ rest) =
      (lines ++ (scanDocument .start rest).1, (scanDocument .start rest).2) := by
  induction lines with
  | nil => rfl
  | cons fields others ih =>
      have text : linesText (fields :: others) ++ rest =
          recordText fields ++ lineBreak ++ (linesText others ++ rest) := by
        rw [linesText, List.flatMap_cons, List.append_assoc]
        rfl
      rw [text, scanDocument_line (valid fields List.mem_cons_self),
        ih fun line member => valid line (List.mem_cons_of_mem fields member)]
      rfl

/-- **Scanning is complete**: a document is scanned as its records. -/
theorem scanDocument_complete {source : List Char} {lines : List (List TextField)}
    (document : IsCsvDocument source lines) : scanDocument .start source = (lines, false) := by
  rcases document.text with terminated | ⟨front, last, split, occupied, text⟩
  · have scanned := scanDocument_lines lines [] document.valid
    rw [List.append_nil, ← terminated] at scanned
    refine scanned.trans ?_
    have ended : scanDocument .start [] = ([], false) := rfl
    rw [ended, List.append_nil]
  · have isLast := document.valid last (by rw [split]; simp)
    have scanned := scanDocument_lines front (recordText last) fun fields member =>
      document.valid fields (by rw [split]; exact List.mem_append_left _ member)
    obtain ⟨scan, isScan, scannedLast⟩ :=
      scanDocument_fields isLast.nonempty isLast.valid [] []
    rw [List.append_nil] at scannedLast
    have ended : scanDocument .start (recordText last) = ([last], false) := by
      refine scannedLast.trans ?_
      have line : scan.line = last := isScan.line
      have consumed : scan.consumed = recordText last := isScan.consumed
      rw [scanDocument, line, consumed, isScan.unbroken, if_neg (by simpa using isScan.outside),
        if_neg occupied]
    rw [text, scanned, ended, split]

end Kurobara.DatasetCodec
