import Kurobara.DatasetCodec.CsvGrammar

/-! # The framing of CSV records

The framer does on the bytes of a text what the scanner of the grammar does on its characters, and
the parser of fields reads those that the scanner found.
-/

namespace Kurobara.DatasetCodec

open Kurobara.Foundation Kurobara.Kernel Kurobara.Application

/-! ## The framer follows the scanner -/

/-- The framer has read what the scanner has. The position of its lines is left out, and so is a
carriage return inside quotes, behind which only lines are counted differently. -/
structure Follows (framer : CsvFramer) (scan : FieldScan) : Prop where
  state : framer.state = scan.state
  bytes : framer.bytes = utf8 scan.read
  broken : framer.pendingCr = some .record ↔ scan.broken = true
  quoted : framer.pendingCr = some .quoted → scan.state = .quoted
  started : framer.started = !scan.consumed.isEmpty

/-- The bytes of a record within the limit. -/
def recordBytes (limit : ℕ) (fields : List TextField) : Option Bytes :=
  let bytes := utf8 (recordText fields)
  if limit < bytes.length then none else some bytes

theorem Follows.initial (limit : ℕ) : Follows (.initial limit) .start where
  state := rfl
  bytes := rfl
  broken := by simp [CsvFramer.initial, FieldScan.start]
  quoted impossible := by cases impossible
  started := rfl

/-- No byte of an ordinary character is one that the framer looks for. -/
theorem ordinary_bytes {character : Char} (ordinary : isOrdinary character) {byte : UInt8}
    (member : byte ∈ String.utf8EncodeChar character) :
    byte ≠ 34 ∧ byte ≠ 44 ∧ byte ≠ 13 ∧ byte ≠ 10 := by
  obtain ⟨noQuote, noComma, noCr, noLf⟩ := ordinary
  have quote := @utf8EncodeChar_apart character '"' (by decide) noQuote
  have comma := @utf8EncodeChar_apart character ',' (by decide) noComma
  have cr := @utf8EncodeChar_apart character '\r' (by decide) noCr
  have lf := @utf8EncodeChar_apart character '\n' (by decide) noLf
  refine ⟨?_, ?_, ?_, ?_⟩
  · rintro rfl
    exact quote member
  · rintro rfl
    exact comma member
  · rintro rfl
    exact cr member
  · rintro rfl
    exact lf member

/-- A byte that is no line feed is consumed as it is without the carriage return before it. -/
theorem CsvFramer.consume_settled {framer : CsvFramer} (settled : framer.pendingCr ≠ some .record)
    {byte : UInt8} (noLf : byte ≠ 10) :
    framer.consume byte = CsvFramer.consumeByte { framer with pendingCr := none } byte := by
  obtain ⟨limit, bytes, line, lineStart, pendingCr, started, state⟩ := framer
  unfold CsvFramer.consume
  cases pendingCr with
  | none => rfl
  | some pending =>
      cases pending with
      | quoted => exact if_neg noLf
      | record => exact absurd rfl settled

/-- The framer behind bytes that lead it to a state and that break no line. -/
def CsvFramer.behind (framer : CsvFramer) (bytes : Bytes) (state : CsvState) : CsvFramer :=
  { framer with
    bytes := framer.bytes ++ bytes
    pendingCr := none
    started := true
    state := state }

/-- The state behind a character that is neither a quote nor a comma nor in a line break. -/
def CsvState.behindOrdinary (state : CsvState) : CsvState :=
  if state = .quoted then .quoted else .unquoted

private theorem CsvFramer.consume_ordinary {framer : CsvFramer}
    (settled : framer.pendingCr ≠ some .record)
    (unclosed : framer.state ≠ .afterQuote) {byte : UInt8}
    (ordinary : byte ≠ 34 ∧ byte ≠ 44 ∧ byte ≠ 13 ∧ byte ≠ 10) :
    framer.consume byte = (framer.behind [byte] framer.state.behindOrdinary, none) := by
  obtain ⟨noQuote, noComma, noCr, noLf⟩ := ordinary
  rw [framer.consume_settled settled noLf, CsvFramer.consumeByte, if_neg noCr, if_neg noLf]
  unfold CsvFramer.consumeData CsvFramer.behind CsvState.behindOrdinary
  cases stateEq : framer.state with
  | afterQuote => exact absurd stateEq unclosed
  | fieldStart => simp [noQuote, noComma, CsvFramer.append]
  | quoted => simp [noQuote, CsvFramer.append]
  | unquoted => simp [noQuote, noComma, CsvFramer.append]

private theorem consumeChunk_ordinary {bytes : Bytes} (nonempty : bytes ≠ []) :
    ∀ framer : CsvFramer, framer.pendingCr ≠ some .record → framer.state ≠ .afterQuote →
      (∀ byte ∈ bytes, byte ≠ 34 ∧ byte ≠ 44 ∧ byte ≠ 13 ∧ byte ≠ 10) →
      consumeChunk framer bytes =
        ([], some (framer.behind bytes framer.state.behindOrdinary)) := by
  induction bytes with
  | nil => exact absurd rfl nonempty
  | cons byte rest ih =>
      intro framer settled unclosed ordinary
      rw [consumeChunk, framer.consume_ordinary settled unclosed (ordinary byte List.mem_cons_self)]
      dsimp only
      by_cases last : rest = []
      · rw [last]
        rfl
      · rw [ih last]
        · unfold CsvFramer.behind CsvState.behindOrdinary
          dsimp only
          rw [List.append_assoc, List.singleton_append]
          by_cases quoted : framer.state = .quoted <;> simp [quoted]
        · exact fun impossible => by cases impossible
        · unfold CsvFramer.behind CsvState.behindOrdinary
          dsimp only
          split_ifs <;> simp
        · exact fun other member => ordinary other (List.mem_cons_of_mem byte member)

private theorem FieldScan.unbroken_of_continues {scan next : FieldScan} {character : Char}
    (stepped : scan.step character = .continues next) : scan.broken = false := by
  by_contra broken
  rw [Bool.not_eq_false] at broken
  rw [FieldScan.step, if_pos broken] at stepped
  split_ifs at stepped

/-- The framer follows a step that ends with no carriage return outside quotes. -/
theorem Follows.advance {framer later : CsvFramer} {scan next : FieldScan} {character : Char}
    (follows : Follows framer scan) (valid : scan.IsValid)
    (stepped : scan.step character = .continues next) (unbroken : next.broken = false)
    (state : later.state = next.state)
    (bytes : later.bytes = framer.bytes ++ String.utf8EncodeChar character)
    (pending : later.pendingCr = none ∨ later.pendingCr = some .quoted ∧ next.state = .quoted)
    (started : later.started = true) : Follows later next := by
  have consumed := (FieldScan.step_continues valid stepped).2
  have read : next.read = scan.read ++ [character] := by
    unfold FieldScan.consumed at consumed
    rw [unbroken, FieldScan.unbroken_of_continues stepped, if_neg Bool.false_ne_true,
      List.append_nil, List.append_nil] at consumed
    exact consumed
  refine ⟨state, ?_, ?_, ?_, ?_⟩
  · rw [bytes, follows.bytes, read, utf8_append, utf8_cons, utf8_nil, List.append_nil]
  · rw [unbroken]
    rcases pending with none | quoted
    · simp [none]
    · simp [quoted.1]
  · intro quoted
    rcases pending with none | settled
    · rw [none] at quoted
      cases quoted
    · exact settled.2
  · rw [started, consumed]
    simp

/-- What a step of the scanner is to the framer. -/
def FollowsStep (framer : CsvFramer) (character : Char) : ScanResult → Prop
  | .continues next => ∃ later, consumeChunk framer (String.utf8EncodeChar character) =
      ([], some later) ∧ later.limit = framer.limit ∧ Follows later next
  | .ends fields => ∃ raw later, consumeChunk framer (String.utf8EncodeChar character) =
      ([.record raw], some later) ∧ later.limit = framer.limit ∧ Follows later .start ∧
        raw.bytes = recordBytes framer.limit fields
  | .fails => ∃ error, consumeChunk framer (String.utf8EncodeChar character) =
      ([.error error], none)

variable {framer : CsvFramer} {scan : FieldScan}

/-- A byte that is refused ends the document. -/
theorem consumeChunk_refused {character : Char}
    (refused : ∀ byte rest, String.utf8EncodeChar character = byte :: rest →
      ∃ next error, framer.consume byte = (next, some (.error error))) :
    ∃ error, consumeChunk framer (String.utf8EncodeChar character) = ([.error error], none) := by
  cases encoded : String.utf8EncodeChar character with
  | nil => exact absurd encoded (utf8EncodeChar_ne_nil character)
  | cons byte rest =>
      obtain ⟨next, error, consumed⟩ := refused byte rest encoded
      exact ⟨error, by rw [consumeChunk, consumed]⟩

private theorem Follows.step_broken (follows : Follows framer scan) (valid : scan.IsValid)
    (broken : scan.broken = true) (character : Char) :
    FollowsStep framer character (scan.step character) := by
  have pending := follows.broken.mpr broken
  rw [FieldScan.step, if_pos broken]
  by_cases newline : character = '\n'
  · rw [if_pos newline, newline]
    have encoded : String.utf8EncodeChar '\n' = [10] := rfl
    refine ⟨framer.rawRecord,
      { framer with
        bytes := []
        line := framer.line + 1
        lineStart := framer.line + 1
        pendingCr := none
        started := false
        state := .fieldStart }, ?_, rfl, ?_, ?_⟩
    · rw [encoded, consumeChunk, CsvFramer.consume, pending]
      rfl
    · exact ⟨rfl, rfl, by simp [FieldScan.start], fun impossible => (by cases impossible), rfl⟩
    · have record : scan.read = recordText scan.line :=
        FieldScan.read_eq_recordText (valid.outside broken)
      unfold CsvFramer.rawRecord recordBytes
      dsimp only
      rw [follows.bytes, record]
  · rw [if_neg newline]
    have noLf := @utf8EncodeChar_apart character '\n' (by decide) newline
    refine consumeChunk_refused fun byte rest encoded => ?_
    have other : byte ≠ 10 := by
      rintro rfl
      exact noLf (by rw [encoded]; exact List.mem_cons_self)
    exact ⟨framer, _, by rw [CsvFramer.consume, pending]; exact if_pos other⟩

theorem Follows.settled (follows : Follows framer scan) (unbroken : scan.broken = false) :
    framer.pendingCr ≠ some .record := by
  intro pending
  rw [follows.broken.mp pending] at unbroken
  cases unbroken

private theorem Follows.settled_outside (follows : Follows framer scan)
    (unbroken : scan.broken = false)
    (outside : scan.state ≠ .quoted) : framer.pendingCr = none := by
  cases pendingEq : framer.pendingCr with
  | none => rfl
  | some pending =>
      cases pending with
      | quoted => exact absurd (follows.quoted pendingEq) outside
      | record => exact absurd pendingEq (follows.settled unbroken)

/-- A carriage return outside quotes. -/
theorem Follows.step_carriageReturn (follows : Follows framer scan)
    (unbroken : scan.broken = false) (outside : scan.state ≠ .quoted) :
    FollowsStep framer '\r' (scan.step '\r') := by
  have settled := follows.settled_outside unbroken outside
  have stepped : scan.step '\r' = .continues { scan with broken := true } := by
    simp [FieldScan.step, FieldScan.stepOutside, unbroken, outside]
  have encoded : String.utf8EncodeChar '\r' = [13] := rfl
  have framerOutside : framer.state ≠ .quoted := fun inside => outside (follows.state ▸ inside)
  rw [stepped]
  refine ⟨{ framer with started := true, pendingCr := some .record }, ?_, rfl, ?_⟩
  · rw [encoded, consumeChunk, CsvFramer.consume, settled]
    dsimp only
    rw [CsvFramer.consumeByte, if_pos rfl, if_neg framerOutside]
    rfl
  · exact ⟨follows.state, follows.bytes, by simp, fun impossible => (by cases impossible),
      by simp [FieldScan.consumed]⟩

/-- A carriage return inside quotes is data. -/
theorem Follows.step_quotedReturn (follows : Follows framer scan) (valid : scan.IsValid)
    (unbroken : scan.broken = false) (inside : scan.state = .quoted) :
    FollowsStep framer '\r' (scan.step '\r') := by
  have stepped : scan.step '\r' = .continues { scan with text := scan.text ++ ['\r'] } := by
    simp [FieldScan.step, unbroken, inside]
  have encoded : String.utf8EncodeChar '\r' = [13] := rfl
  have framerInside : framer.state = .quoted := follows.state.trans inside
  rw [stepped]
  refine ⟨{ framer with
    bytes := framer.bytes ++ [13]
    pendingCr := some .quoted
    line := framer.line + 1
    started := true }, ?_, rfl, ?_⟩
  · rw [encoded, consumeChunk, framer.consume_settled (follows.settled unbroken) (by decide),
      CsvFramer.consumeByte, if_pos rfl, if_pos framerInside]
    rfl
  · exact follows.advance valid stepped unbroken follows.state (by rw [encoded])
      (.inr ⟨rfl, inside⟩) rfl

/-- A line feed, which only stands inside quotes without a carriage return before it. -/
theorem Follows.step_lineFeed (follows : Follows framer scan) (valid : scan.IsValid)
    (unbroken : scan.broken = false) : FollowsStep framer '\n' (scan.step '\n') := by
  have encoded : String.utf8EncodeChar '\n' = [10] := rfl
  by_cases inside : scan.state = .quoted
  · have stepped : scan.step '\n' = .continues { scan with text := scan.text ++ ['\n'] } := by
      simp [FieldScan.step, unbroken, inside]
    have framerInside : framer.state = .quoted := follows.state.trans inside
    rw [stepped]
    cases pendingEq : framer.pendingCr with
    | none =>
        refine ⟨{ framer with
          bytes := framer.bytes ++ [10]
          started := true
          line := framer.line + 1 }, ?_, rfl, ?_⟩
        · rw [encoded, consumeChunk, CsvFramer.consume, pendingEq]
          dsimp only
          rw [CsvFramer.consumeByte, if_neg (by decide), if_pos rfl, if_pos framerInside]
          dsimp only [CsvFramer.append]
          rw [pendingEq]
          rfl
        · exact follows.advance valid stepped unbroken follows.state (by rw [encoded])
            (.inl pendingEq) rfl
    | some pending =>
        cases pending with
        | quoted =>
            have started : framer.started = true := by
              rw [follows.started, FieldScan.consumed, FieldScan.read, FieldScan.partialText,
                inside]
              simp
            refine ⟨{ framer with bytes := framer.bytes ++ [10], pendingCr := none }, ?_, rfl, ?_⟩
            · rw [encoded, consumeChunk, CsvFramer.consume, pendingEq]
              rfl
            · exact follows.advance valid stepped unbroken follows.state (by rw [encoded])
                (.inl rfl) started
        | record => exact absurd pendingEq (follows.settled unbroken)
  · have stepped : scan.step '\n' = .fails := by
      simp [FieldScan.step, FieldScan.stepOutside, unbroken, inside]
    have framerOutside : framer.state ≠ .quoted := fun quoted => inside (follows.state ▸ quoted)
    have settled := follows.settled_outside unbroken inside
    rw [stepped]
    have refused : framer.consume 10 =
        (framer, some (framer.error "A CSV line break must use CRLF.")) := by
      rw [CsvFramer.consume, settled]
      dsimp only
      rw [CsvFramer.consumeByte, if_neg (by decide), if_pos rfl, if_neg framerOutside]
    refine consumeChunk_refused fun byte rest split => ?_
    rw [encoded] at split
    cases split
    exact ⟨framer, _, refused⟩

/-- A byte that breaks no line is data. -/
theorem CsvFramer.consume_data (settled : framer.pendingCr ≠ some .record) {byte : UInt8}
    (noCr : byte ≠ 13) (noLf : byte ≠ 10) :
    framer.consume byte =
      CsvFramer.consumeData { framer with pendingCr := none, started := true } byte := by
  rw [framer.consume_settled settled noLf, CsvFramer.consumeByte, if_neg noCr, if_neg noLf]

/-- A character of which every byte is appended is followed. -/
theorem Follows.step_behind (follows : Follows framer scan) (valid : scan.IsValid)
    {character : Char} {next : FieldScan} (stepped : scan.step character = .continues next)
    (unbroken : next.broken = false)
    (consumed : consumeChunk framer (String.utf8EncodeChar character) =
      ([], some (framer.behind (String.utf8EncodeChar character) next.state))) :
    FollowsStep framer character (scan.step character) := by
  rw [stepped]
  exact ⟨_, consumed, rfl, follows.advance valid stepped unbroken rfl rfl (.inl rfl) rfl⟩

private theorem Follows.step_quote (follows : Follows framer scan) (valid : scan.IsValid)
    (unbroken : scan.broken = false) : FollowsStep framer '"' (scan.step '"') := by
  have encoded : String.utf8EncodeChar '"' = [34] := rfl
  have data := @CsvFramer.consume_data framer (follows.settled unbroken) 34 (by decide) (by decide)
  have stateEq := follows.state
  cases scanState : scan.state with
  | fieldStart =>
      have stepped : scan.step '"' = .continues { scan with state := .quoted } := by
        simp [FieldScan.step, FieldScan.stepOutside, unbroken, scanState]
      refine follows.step_behind valid stepped unbroken ?_
      rw [encoded, consumeChunk, data, CsvFramer.consumeData, stateEq, scanState]
      rfl
  | unquoted =>
      have stepped : scan.step '"' = .fails := by
        simp [FieldScan.step, FieldScan.stepOutside, unbroken, scanState]
      rw [stepped]
      refine consumeChunk_refused fun byte rest split => ?_
      rw [encoded] at split
      cases split
      rw [data, CsvFramer.consumeData, stateEq, scanState]
      exact ⟨_, _, rfl⟩
  | quoted =>
      have stepped : scan.step '"' = .continues { scan with state := .afterQuote } := by
        simp [FieldScan.step, unbroken, scanState]
      refine follows.step_behind valid stepped unbroken ?_
      rw [encoded, consumeChunk, data, CsvFramer.consumeData, stateEq, scanState]
      rfl
  | afterQuote =>
      have stepped : scan.step '"' =
          .continues { scan with state := .quoted, text := scan.text ++ ['"'] } := by
        simp [FieldScan.step, FieldScan.stepOutside, unbroken, scanState]
      refine follows.step_behind valid stepped unbroken ?_
      rw [encoded, consumeChunk, data, CsvFramer.consumeData, stateEq, scanState]
      rfl

private theorem Follows.step_comma (follows : Follows framer scan) (valid : scan.IsValid)
    (unbroken : scan.broken = false) : FollowsStep framer ',' (scan.step ',') := by
  have encoded : String.utf8EncodeChar ',' = [44] := rfl
  have data := @CsvFramer.consume_data framer (follows.settled unbroken) 44 (by decide) (by decide)
  by_cases inside : scan.state = .quoted
  · have stepped : scan.step ',' = .continues { scan with text := scan.text ++ [','] } := by
      simp [FieldScan.step, unbroken, inside]
    refine follows.step_behind valid stepped unbroken ?_
    have stateEq : framer.state = .quoted := follows.state.trans inside
    rw [encoded, consumeChunk, data, CsvFramer.consumeData, stateEq, inside]
    rfl
  · have stepped : scan.step ',' = .continues ⟨scan.line, [], .fieldStart, false⟩ := by
      simp [FieldScan.step, FieldScan.stepOutside, unbroken, inside]
    refine follows.step_behind valid stepped rfl ?_
    rw [encoded, consumeChunk, data, CsvFramer.consumeData]
    dsimp only [CsvFramer.append]
    cases stateEq : framer.state with
    | quoted => exact absurd (follows.state.symm.trans stateEq) inside
    | fieldStart => rfl
    | unquoted => rfl
    | afterQuote => rfl

private theorem Follows.step_ordinary (follows : Follows framer scan) (valid : scan.IsValid)
    (unbroken : scan.broken = false) {character : Char} (ordinary : isOrdinary character) :
    FollowsStep framer character (scan.step character) := by
  obtain ⟨noQuote, noComma, noCr, noLf⟩ := ordinary
  have bytes : ∀ byte ∈ String.utf8EncodeChar character,
      byte ≠ 34 ∧ byte ≠ 44 ∧ byte ≠ 13 ∧ byte ≠ 10 :=
    fun byte => ordinary_bytes ⟨noQuote, noComma, noCr, noLf⟩
  by_cases closed : scan.state = .afterQuote
  · have stepped : scan.step character = .fails := by
      simp [FieldScan.step, FieldScan.stepOutside, unbroken, closed, noQuote, noComma, noCr, noLf]
    rw [stepped]
    refine consumeChunk_refused fun byte rest split => ?_
    obtain ⟨byteQuote, byteComma, byteCr, byteLf⟩ :=
      bytes byte (by rw [split]; exact List.mem_cons_self)
    rw [CsvFramer.consume_data (follows.settled unbroken) byteCr byteLf, CsvFramer.consumeData,
      follows.state, closed]
    dsimp only
    rw [if_pos ⟨byteQuote, byteComma⟩]
    exact ⟨_, _, rfl⟩
  · have consumed := consumeChunk_ordinary (utf8EncodeChar_ne_nil character) framer
      (follows.settled unbroken) (fun state => closed (follows.state ▸ state)) bytes
    rw [follows.state] at consumed
    have stepped : scan.step character = .continues
        { scan with state := scan.state.behindOrdinary, text := scan.text ++ [character] } := by
      unfold CsvState.behindOrdinary
      by_cases inside : scan.state = .quoted
      · simp [FieldScan.step, unbroken, inside, noQuote]
      · simp [FieldScan.step, FieldScan.stepOutside, unbroken, inside, closed, noQuote, noComma,
          noCr, noLf]
    exact follows.step_behind valid stepped unbroken consumed

/-- **The framer does on the bytes of a character what the scanner does on it.** -/
theorem Follows.step (follows : Follows framer scan) (valid : scan.IsValid) (character : Char) :
    FollowsStep framer character (scan.step character) := by
  by_cases broken : scan.broken = true
  · exact follows.step_broken valid broken character
  · rw [Bool.not_eq_true] at broken
    by_cases quote : character = '"'
    · exact quote ▸ follows.step_quote valid broken
    by_cases comma : character = ','
    · exact comma ▸ follows.step_comma valid broken
    by_cases lineFeed : character = '\n'
    · exact lineFeed ▸ follows.step_lineFeed valid broken
    by_cases carriageReturn : character = '\r'
    · rw [carriageReturn]
      by_cases inside : scan.state = .quoted
      · exact follows.step_quotedReturn valid broken inside
      · exact follows.step_carriageReturn broken inside
    · exact follows.step_ordinary valid broken ⟨quote, comma, carriageReturn, lineFeed⟩

/-! ## The framing of a document -/

private theorem recordsFrom_append (framer : CsvFramer) (left right : Bytes) :
    recordsFrom framer [left ++ right] =
      match consumeChunk framer left with
      | (events, none) => events
      | (events, some next) => events ++ recordsFrom next [right] := by
  rw [recordsFrom, consumeChunk_append]
  rcases consumeChunk framer left with ⟨events, none | next⟩
  · rfl
  · dsimp only
    rw [recordsFrom]
    rcases consumeChunk next right with ⟨later, none | last⟩
    · rfl
    · exact List.append_assoc events later _

/-- Events of records with these bytes, and an error behind them if the document fails. -/
def FramesAs (limit : ℕ) (result : List (List TextField) × Bool) (events : List RawEvent) : Prop :=
  ∃ raws : List RawRecord, raws.map RawRecord.bytes = result.1.map (recordBytes limit) ∧
    ((result.2 = false ∧ events = raws.map .record) ∨
      result.2 = true ∧ ∃ error, events = raws.map .record ++ [.error error])

/-- At the end of the document the framer yields what the grammar's scan says. -/
theorem Follows.finish (follows : Follows framer scan) :
    FramesAs framer.limit (scanDocument scan []) framer.finish.toList := by
  rw [scanDocument, CsvFramer.finish]
  by_cases incomplete : (scan.broken || scan.state == .quoted) = true
  · have stops : (framer.pendingCr.isSome || framer.state == .quoted) = true := by
      rw [Bool.or_eq_true] at incomplete ⊢
      rcases incomplete with broken | inside
      · rw [follows.broken.mpr broken]
        exact .inl rfl
      · rw [follows.state]
        exact .inr inside
    rw [if_pos incomplete, if_pos stops]
    exact ⟨[], rfl, .inr ⟨rfl, _, rfl⟩⟩
  · rw [Bool.not_eq_true, Bool.or_eq_false_iff, beq_eq_false_iff_ne] at incomplete
    obtain ⟨unbroken, outside⟩ := incomplete
    have continues : (framer.pendingCr.isSome || framer.state == .quoted) = false := by
      rw [follows.settled_outside unbroken outside, follows.state]
      exact beq_eq_false_iff_ne.mpr outside
    have read : scan.read = recordText scan.line := FieldScan.read_eq_recordText outside
    rw [unbroken, Bool.false_or, beq_eq_false_iff_ne.mpr outside, continues, follows.started]
    by_cases empty : scan.consumed = []
    · rw [empty]
      exact ⟨[], rfl, .inl ⟨rfl, rfl⟩⟩
    · rw [if_neg Bool.false_ne_true, if_neg empty, if_neg Bool.false_ne_true,
        if_pos (by simpa using empty)]
      refine ⟨[framer.rawRecord], ?_, .inl ⟨rfl, rfl⟩⟩
      unfold CsvFramer.rawRecord recordBytes
      rw [List.map_singleton, List.map_singleton, follows.bytes, read]

/-- **The framer frames the records that the scanner finds.** -/
theorem Follows.recordsFrom (text : List Char) : ∀ {framer : CsvFramer} {scan : FieldScan},
    Follows framer scan → scan.IsValid →
      FramesAs framer.limit (scanDocument scan text) (recordsFrom framer [utf8 text]) := by
  induction text with
  | nil =>
      intro framer scan follows _
      exact follows.finish
  | cons character rest ih =>
      intro framer scan follows valid
      have step := follows.step valid character
      rw [utf8_cons, recordsFrom_append, scanDocument]
      cases stepped : scan.step character with
      | continues next =>
          rw [stepped] at step
          obtain ⟨later, consumed, limit, laterFollows⟩ := step
          rw [consumed]
          have later := ih laterFollows (FieldScan.step_continues valid stepped).1
          rw [limit] at later
          exact later
      | ends fields =>
          rw [stepped] at step
          obtain ⟨raw, later, consumed, limit, laterFollows, bytes⟩ := step
          obtain ⟨raws, rawBytes, ended⟩ := ih laterFollows FieldScan.start_isValid
          rw [consumed]
          rw [limit] at rawBytes
          refine ⟨raw :: raws, ?_, ?_⟩
          · rw [List.map_cons, List.map_cons, bytes, rawBytes]
          · rcases ended with ⟨complete, events⟩ | ⟨failed, error, events⟩
            · exact .inl ⟨complete, by dsimp only; rw [events]; rfl⟩
            · exact .inr ⟨failed, error, by dsimp only; rw [events]; rfl⟩
      | fails =>
          rw [stepped] at step
          obtain ⟨error, consumed⟩ := step
          rw [consumed]
          exact ⟨[], rfl, .inr ⟨rfl, error, rfl⟩⟩

/-! ## What the parser reads -/

private theorem utf16_keepsQuote : KeepsApart utf16Char '"' 34 where
  alone := rfl
  apart _ other := @utf16Char_apart _ '"' (by decide) other

private theorem utf16_keepsComma : KeepsApart utf16Char ',' 44 where
  alone := rfl
  apart _ other := @utf16Char_apart _ ',' (by decide) other

theorem IsCsvField.readable {field : TextField} (valid : IsCsvField field) :
    IsReadable '"' ',' field := by
  intro plain
  have ordinary := valid plain
  exact ⟨fun member => (ordinary '"' member).1 rfl, fun member => (ordinary ',' member).2.1 rfl⟩

/-- **The parser reads the fields of a record**, unless they are too many. -/
theorem parseCsvText_recordText {fields : List TextField} (isRecord : IsCsvRecord fields)
    (maximumFields : ℕ) :
    parseCsvText (utf16 (recordText fields)) maximumFields =
      if fields.length ≤ maximumFields then
        some (fields.map (QuotedField.encoded utf16Char))
      else none := by
  rw [parseCsvText, utf16, recordText, ← fieldsText_encoded utf16_keepsQuote utf16_keepsComma,
    readFields_fieldsText (by simpa using isRecord.nonempty) _ (by decide), List.length_map]
  intro field member
  obtain ⟨text, inside, rfl⟩ := List.mem_map.mp member
  exact (isRecord.valid text inside).readable.encoded utf16_keepsQuote utf16_keepsComma

/-- A place behind some of the text of a record, inside the quotes of one of its fields. -/
def IsInsideQuotes (fields : List TextField) (before : List Char) : Prop :=
  ∃ front field back text, fields = front ++ field :: back ∧ field.quoted = true ∧
    text <+: doubled '"' field.text ∧ before = fieldsBefore '"' ',' front ++ '"' :: text

/-- A carriage return in a field is inside its quotes. -/
theorem fieldText_return {field : TextField} (valid : IsCsvField field) {before after : List Char}
    (split : fieldText '"' field = before ++ '\r' :: after) :
    field.quoted = true ∧ ∃ text, text <+: doubled '"' field.text ∧ before = '"' :: text := by
  obtain ⟨quoted, text⟩ := field
  cases quoted with
  | false =>
      have member : '\r' ∈ text := by
        rw [fieldText, if_neg Bool.false_ne_true] at split
        change text = before ++ '\r' :: after at split
        rw [split]
        simp
      exact absurd rfl (valid rfl '\r' member).2.2.1
  | true =>
      rw [fieldText, if_pos rfl] at split
      cases before with
      | nil =>
          rw [List.nil_append, List.cons.injEq] at split
          exact absurd split.1 (by decide)
      | cons first inner =>
          rw [List.cons_append, List.cons.injEq] at split
          obtain ⟨opens, inside⟩ := split
          refine ⟨rfl, inner, ?_, by rw [← opens]⟩
          rcases List.append_eq_append_iff.mp inside with
            ⟨gap, innerEq, closing⟩ | ⟨gap, doubledEq, _⟩
          · -- The carriage return is not the closing quote.
            cases gap with
            | nil =>
                rw [List.nil_append, List.cons.injEq] at closing
                exact absurd closing.1 (by decide)
            | cons symbol others =>
                have lengths := congrArg List.length closing
                simp at lengths
          · exact ⟨gap, doubledEq.symm⟩

/-- **A line break in a record is inside quotes.** -/
theorem recordText_lineBreak {fields : List TextField}
    (valid : ∀ field ∈ fields, IsCsvField field) :
    ∀ before after, recordText fields = before ++ lineBreak ++ after →
      IsInsideQuotes fields before := by
  induction fields with
  | nil =>
      intro before after split
      have lengths := congrArg List.length split
      simp [recordText, fieldsText, lineBreak] at lengths
  | cons field rest ih =>
      intro before after split
      have first := valid field List.mem_cons_self
      have behind : ∃ tail, recordText (field :: rest) = fieldText '"' field ++ tail ∧
          (tail = [] ∨ tail = ',' :: recordText rest) := by
        cases rest with
        | nil => exact ⟨[], (List.append_nil _).symm, .inl rfl⟩
        | cons next later => exact ⟨_, rfl, .inr rfl⟩
      obtain ⟨tail, text, tailEq⟩ := behind
      have returns : fieldText '"' field ++ tail = before ++ '\r' :: '\n' :: after := by
        rw [← text, split]
        simp [lineBreak]
      rcases List.append_eq_append_iff.mp returns with
        ⟨gap, beforeEq, tailGap⟩ | ⟨gap, fieldEq, tailGap⟩
      · -- The line break stands behind this field.
        rcases tailEq with rfl | rfl
        · have lengths := congrArg List.length tailGap
          simp at lengths
        · cases gap with
          | nil =>
              rw [List.nil_append, List.cons.injEq] at tailGap
              exact absurd tailGap.1 (by decide)
          | cons comma later =>
              rw [List.cons_append, List.cons.injEq] at tailGap
              obtain ⟨front, quoted, back, inner, restEq, isQuoted, isPrefix, laterEq⟩ :=
                ih (fun other member => valid other (List.mem_cons_of_mem field member)) later after
                  (by rw [tailGap.2]; simp [lineBreak])
              refine ⟨field :: front, quoted, back, inner, by rw [restEq]; rfl, isQuoted, isPrefix,
                ?_⟩
              rw [beforeEq, ← tailGap.1, laterEq]
              simp [fieldsBefore]
      · cases gap with
        | nil =>
            -- The field ends before the line break, so that the break begins the tail.
            rw [List.nil_append] at tailGap
            rcases tailEq with rfl | rfl
            · cases tailGap
            · rw [List.cons.injEq] at tailGap
              exact absurd tailGap.1 (by decide)
        | cons symbol others =>
            rw [List.cons_append, List.cons.injEq] at tailGap
            rw [← tailGap.1] at fieldEq
            obtain ⟨isQuoted, inner, isPrefix, beforeEq⟩ := fieldText_return first fieldEq
            exact ⟨[], field, rest, inner, rfl, isQuoted, isPrefix, beforeEq⟩

/-! ## The agreement -/

/-- **A framing that agrees with the parser.** The records are those of the grammar, the document
fails exactly when it is none of the grammar, every line break inside a record is inside quotes
for the parser, and the parser reads the fields of a record unless they are too many. -/
structure FramesExactly (limit : ℕ) (source : List Char) (lines : List (List TextField))
    (events : List RawEvent) : Prop where
  framed : ∃ raws : List RawRecord, raws.map RawRecord.bytes = lines.map (recordBytes limit) ∧
    (events = raws.map .record ∨ ∃ error, events = raws.map .record ++ [.error error])
  valid : ∀ fields ∈ lines, IsCsvRecord fields
  document : (∀ error, RawEvent.error error ∉ events) → IsCsvDocument source lines
  failed : ∀ error, RawEvent.error error ∈ events →
    (∃ rest, source = linesText lines ++ rest) ∧ ∀ others, ¬ IsCsvDocument source others
  boundaries : ∀ fields ∈ lines, ∀ before after, recordText fields = before ++ lineBreak ++ after →
    IsInsideQuotes fields before
  parsed : ∀ fields ∈ lines, ∀ maximumFields,
    parseCsvText (utf16 (recordText fields)) maximumFields =
      if fields.length ≤ maximumFields then some (fields.map (QuotedField.encoded utf16Char))
      else none

private theorem records_framesExactly (limit : ℕ) (source : List Char) :
    FramesExactly limit source (scanDocument .start source).1 (records [utf8 source] limit) := by
  obtain ⟨raws, bytes, ended⟩ :=
    (Follows.initial limit).recordsFrom source FieldScan.start_isValid
  obtain ⟨valid, complete, behind, failed⟩ := scanDocument_sound source .start
    FieldScan.start_isValid
  have consumed : FieldScan.start.consumed ++ source = source := rfl
  rw [consumed] at complete failed
  have recordsOnly : ∀ error, RawEvent.error error ∉ raws.map RawEvent.record := by
    intro error member
    obtain ⟨raw, _, impossible⟩ := List.mem_map.mp member
    cases impossible
  refine ⟨⟨raws, bytes, ?_⟩, valid, ?_, ?_, ?_, ?_⟩
  · rcases ended with ⟨_, events⟩ | ⟨_, error, events⟩
    · exact .inl events
    · exact .inr ⟨error, events⟩
  · intro succeeded
    rcases ended with ⟨unfailed, _⟩ | ⟨_, error, events⟩
    · exact ⟨valid, complete unfailed⟩
    · refine absurd ?_ (succeeded error)
      change RawEvent.error error ∈ recordsFrom _ _
      rw [events]
      simp
  · intro error member
    rcases ended with ⟨_, events⟩ | ⟨fails, _, _⟩
    · change RawEvent.error error ∈ recordsFrom _ _ at member
      rw [events] at member
      exact absurd member (recordsOnly error)
    · refine ⟨⟨behind, failed fails⟩, fun others document => ?_⟩
      rw [scanDocument_complete document] at fails
      cases fails
  · intro fields member before after split
    exact recordText_lineBreak (valid fields member).valid before after split
  · intro fields member maximumFields
    exact parseCsvText_recordText (valid fields member) maximumFields

/-- **CSV framing does not depend on chunks and agrees with the parsing of fields.** -/
theorem csvFraming_isExact :
    (∀ (input : DatasetDecodeInput) (source : List Bytes),
        decodeCsv input source = decodeCsv input [source.flatten]) ∧
      ∀ (limit : ℕ) (source : List Char),
        ∃ lines, FramesExactly limit source lines (records [utf8 source] limit) := by
  refine ⟨fun input source => decodeCsv_flatten input ?_, fun limit source => ?_⟩
  · rw [List.flatten_cons, List.flatten_nil, List.append_nil]
  · exact ⟨_, records_framesExactly limit source⟩

/-- Two fields and a line break are framed as a record of the grammar, which the parser does not
accept as one field; a last record is accepted without a line break. -/
theorem csvRecord_isNotAccepted :
    records [utf8 ['a', ',', 'b', '\r', '\n', 'c']] 8 =
        [.record ⟨some [97, 44, 98], 1, 1, false⟩, .record ⟨some [99], 2, 2, false⟩] ∧
      IsCsvRecord [⟨false, ['a']⟩, ⟨false, ['b']⟩] ∧
      recordText [⟨false, ['a']⟩, ⟨false, ['b']⟩] = ['a', ',', 'b'] ∧
      parseCsvText (utf16 ['a', ',', 'b']) 1 = none ∧
      parseCsvText (utf16 ['c']) 1 = some [⟨false, [99]⟩] := by
  refine ⟨by decide, ⟨by simp, ?_⟩, rfl, by decide, by decide⟩
  intro field member _ character inside
  simp only [List.mem_cons, List.not_mem_nil, or_false] at member
  rcases member with rfl | rfl <;> (rw [List.mem_singleton.mp inside]; unfold isOrdinary; decide)

end Kurobara.DatasetCodec
