import Mathlib.Data.Rat.Defs
import Mathlib.Algebra.Order.Ring.Rat
import Mathlib.Data.List.TakeWhile

/-! # Kernel values

The value conventions shared by the kernel modules. Branded identities are
strings. Numbers that the code admits only as safe integers are integers;
amounts are exact rationals, and two amounts are equal when they are the same
rational, so the rounding tolerance of `amountsEqual` is zero.
-/

namespace Kurobara.Kernel

abbrev ActorId := String
abbrev ArtifactId := String
abbrev AttemptId := String
abbrev ContentHash := String
abbrev CorrelationId := String
abbrev CostReservationId := String
abbrev DatasetId := String
abbrev DatasetGenerationId := String
abbrev DatasetGenerationPlanId := String
abbrev DatasetMaterializationId := String
abbrev EventId := String
abbrev FieldId := String
abbrev IdempotencyKey := String
abbrev OperationKey := String
abbrev RecordId := String
abbrev ResultManifestId := String
abbrev RoutingDecisionId := String
abbrev RunId := String
abbrev RunPlanId := String
abbrev StepRunId := String
abbrev UsageEntryId := String
abbrev WorkspaceId := String

/-- Unix epoch milliseconds. -/
abbrev Instant := ℤ

/-- An amount of money or of units, without rounding. -/
abbrev Amount := ℚ

/-! ## Text -/

/-- The white space and line terminators that `String.prototype.trim` removes. -/
def isTrimmedCharacter (character : Char) : Bool :=
  character.val == 0x20 || (0x09 ≤ character.val && character.val ≤ 0x0D) ||
    character.val == 0xA0 || character.val == 0x1680 ||
    (0x2000 ≤ character.val && character.val ≤ 0x200A) || character.val == 0x2028 ||
    character.val == 0x2029 || character.val == 0x202F || character.val == 0x205F ||
    character.val == 0x3000 || character.val == 0xFEFF

/-- The characters of `value.trim()`. -/
def trim (value : String) : List Char :=
  ((value.toList.dropWhile isTrimmedCharacter).reverse.dropWhile isTrimmedCharacter).reverse

/-- The length of a text in code points. -/
def codePointLength (value : String) : ℕ :=
  value.toList.length

/-- The UTF-16 code units of a string, in which `Array.prototype.sort` compares it. -/
def codeUnits (value : String) : List ℕ :=
  value.toList.flatMap fun character =>
    let point := character.val.toNat
    if point < 0x10000 then [point]
    else [0xD800 + (point - 0x10000) / 0x400, 0xDC00 + (point - 0x10000) % 0x400]

/-- `left <= right` on texts: by their code units, with the order of lists of the core library. -/
def textIsAtMost (left right : String) : Bool :=
  decide (@LE.le (List ℕ) List.instLE (codeUnits left) (codeUnits right))

/-- `value.trim().length > 0`. -/
def nonBlank (value : String) : Bool :=
  !(trim value).isEmpty

/-- `boundedText`: not blank and within the maximum. -/
def boundedText (value : String) (maximum : ℕ := 255) : Bool :=
  nonBlank value && decide (codePointLength value ≤ maximum)

/-- A bounded text without surrounding white space. -/
def boundedIdentity (value : String) (maximum : ℕ := 255) : Bool :=
  trim value == value.toList && boundedText value maximum

private def isLowerHexadecimal (character : Char) : Bool :=
  ('0' ≤ character && character ≤ '9') || ('a' ≤ character && character ≤ 'f')

/-- `/^sha256:[0-9a-f]{64}$/u`. -/
def contentHashIsValid (value : String) : Bool :=
  value.toList.take 7 == "sha256:".toList && (value.toList.drop 7).length == 64 &&
    (value.toList.drop 7).all isLowerHexadecimal

/-- `hash.slice("sha256:".length)`. -/
def hashDigits (hash : ContentHash) : String :=
  String.ofList (hash.toList.drop 7)

/-! ## Numbers -/

/-- `Number.MAX_SAFE_INTEGER`. -/
def maxSafeInteger : ℤ := 9007199254740991

/-- `Number.isSafeInteger`. -/
def isSafeInteger (value : ℤ) : Bool :=
  decide (-maxSafeInteger ≤ value) && decide (value ≤ maxSafeInteger)

def nonNegativeSafeInteger (value : ℤ) : Bool :=
  isSafeInteger value && decide (0 ≤ value)

/-- An instant is a non-negative safe integer. -/
def instantIsValid (value : Instant) : Bool :=
  isSafeInteger value && decide (0 ≤ value)

def isAmount (value : Amount) : Bool :=
  decide (0 ≤ value)

/-- `amountsEqual`, on exact amounts. -/
def amountsEqual (left right : Amount) : Bool :=
  isAmount left && isAmount right && decide (left = right)

/-- `amountExceeds`, on exact amounts. -/
def amountExceeds (value limit : Amount) : Bool :=
  decide (limit < value) && !amountsEqual value limit

@[simp] theorem isAmount_iff {value : Amount} : isAmount value = true ↔ 0 ≤ value := by
  simp [isAmount]

theorem amountsEqual_iff {left right : Amount} :
    amountsEqual left right = true ↔ 0 ≤ left ∧ left = right := by
  simp only [amountsEqual, Bool.and_eq_true, isAmount_iff, decide_eq_true_eq]
  constructor
  · rintro ⟨⟨nonNegative, _⟩, same⟩
    exact ⟨nonNegative, same⟩
  · rintro ⟨nonNegative, rfl⟩
    exact ⟨⟨nonNegative, nonNegative⟩, rfl⟩

/-- Over exact amounts, not exceeding a limit is being at most the limit. -/
@[simp] theorem amountExceeds_iff {value limit : Amount} :
    amountExceeds value limit = true ↔ limit < value := by
  simp only [amountExceeds, Bool.and_eq_true, decide_eq_true_eq, Bool.not_eq_true',
    Bool.eq_false_iff, ne_eq, amountsEqual_iff, not_and]
  exact ⟨fun exceeds => exceeds.1, fun above => ⟨above, fun _ same => above.ne same.symm⟩⟩

@[simp] theorem amountExceeds_eq_false_iff {value limit : Amount} :
    amountExceeds value limit = false ↔ value ≤ limit := by
  rw [Bool.eq_false_iff, ne_eq, amountExceeds_iff, not_lt]

@[simp] theorem isSafeInteger_iff {value : ℤ} :
    isSafeInteger value = true ↔ -maxSafeInteger ≤ value ∧ value ≤ maxSafeInteger := by
  simp [isSafeInteger]

@[simp] theorem nonNegativeSafeInteger_iff {value : ℤ} :
    nonNegativeSafeInteger value = true ↔ 0 ≤ value ∧ value ≤ maxSafeInteger := by
  simp only [nonNegativeSafeInteger, Bool.and_eq_true, isSafeInteger_iff, decide_eq_true_eq,
    maxSafeInteger]
  omega

/-- A text is not blank when one of its characters is not trimmed. -/
theorem nonBlank_iff {value : String} :
    nonBlank value = true ↔ ∃ character ∈ value.toList, isTrimmedCharacter character = false := by
  have trimmed : nonBlank value = true ↔ trim value ≠ [] := by simp [nonBlank]
  rw [trimmed]
  unfold trim
  rw [ne_eq, List.reverse_eq_nil_iff, List.dropWhile_eq_nil_iff]
  simp only [List.mem_reverse, not_forall, exists_prop, Bool.not_eq_true]
  constructor
  · rintro ⟨character, member, visible⟩
    exact ⟨character, (List.dropWhile_sublist _).subset member, visible⟩
  · rintro ⟨character, member, visible⟩
    refine ⟨character, ?_, visible⟩
    rw [← @List.takeWhile_append_dropWhile _ isTrimmedCharacter value.toList] at member
    rcases List.mem_append.mp member with taken | kept
    · rw [List.mem_takeWhile_imp taken] at visible
      cases visible
    · exact kept

theorem boundedText_iff {value : String} {maximum : ℕ} :
    boundedText value maximum = true ↔
      (∃ character ∈ value.toList, isTrimmedCharacter character = false) ∧
        codePointLength value ≤ maximum := by
  simp only [boundedText, Bool.and_eq_true, nonBlank_iff, decide_eq_true_eq]

/-- A text that starts with a letter is not blank. -/
theorem boundedText_append {head tail : String} {maximum : ℕ}
    (visible : ∃ character ∈ head.toList, isTrimmedCharacter character = false)
    (fits : codePointLength head + codePointLength tail ≤ maximum) :
    boundedText (head ++ tail) maximum = true := by
  obtain ⟨character, member, shown⟩ := visible
  rw [boundedText_iff]
  refine ⟨⟨character, ?_, shown⟩, ?_⟩
  · rw [String.toList_append]
    exact List.mem_append_left _ member
  · simpa [codePointLength, String.toList_append] using fits

/-- The digits of a content hash. -/
theorem contentHashIsValid_digits {value : String} (valid : contentHashIsValid value = true) :
    (value.toList.drop 7).length = 64 := by
  simp only [contentHashIsValid, Bool.and_eq_true, beq_iff_eq] at valid
  exact valid.1.2

end Kurobara.Kernel
