import Dilemma.Json.Reader
import Dilemma.Proofs.Number.Range

/-! # Numbers in JSON texts

A number is read as far as it goes: its whole part, the digits after a point and a power
of ten. The notation of a real number always has one of the latter two and that of an
integer has neither, so both are read back as what they were. -/

namespace Dilemma

/-! ## Digits -/

namespace Text

theorem digitValue?_of_isDigit {char : Char} (digit : char.isDigit = true) :
    digitValue? char = some (char.toNat - '0'.toNat) := by
  rw [Char.isDigit, Bool.and_eq_true, decide_eq_true_eq, decide_eq_true_eq] at digit
  exact if_pos digit

theorem digitsFrom?_eq {digits : List Char} (only : ∀ char ∈ digits, char.isDigit = true)
    (value : Nat) : digitsFrom? value digits = some (Nat.ofDigitChars 10 digits value) := by
  induction digits generalizing value with
  | nil => rfl
  | cons char digits induction =>
      rcases List.forall_mem_cons.mp only with ⟨digit, others⟩
      rw [digitsFrom?, digitValue?_of_isDigit digit, Nat.ofDigitChars_cons, Nat.mul_comm 10]
      exact induction others _

/-- Only zero is written with a zero in front. -/
theorem toDigits_ne_padded {value : Nat} (nonzero : value ≠ 0) (later : List Char) :
    Nat.toDigits 10 value ≠ '0' :: later := by
  induction value using Nat.strongRecOn generalizing later with
  | ind value induction =>
      intro padded
      by_cases single : value < 10
      · rw [Nat.toDigits_of_lt_base single, List.cons.injEq, Nat.digitChar_eq_zero] at padded
        exact nonzero padded.1
      · rw [Nat.toDigits_of_base_le (by decide) (by omega)] at padded
        cases front : Nat.toDigits 10 (value / 10) with
        | nil => exact Nat.toDigits_ne_nil front
        | cons first others =>
            rw [front, List.cons_append, List.cons.injEq] at padded
            rw [padded.1] at front
            exact induction (value / 10) (by omega) (by omega) others front

end Text

namespace Json

/-! ## Reading the parts -/

/-- No number goes on here. -/
def Ended (rest : List Char) : Prop :=
  ∀ char ∈ rest.head?, isDigit char = false ∧ char ∉ ['.', 'e', 'E']

/-- There is something, and there are digits only. -/
structure Digits (chars : List Char) : Prop where
  nonempty : chars ≠ []
  only : ∀ char ∈ chars, char.isDigit = true

/-- Digits without a superfluous zero in front. -/
structure Whole (chars : List Char) : Prop extends Digits chars where
  unpadded : ∀ later, chars = '0' :: later → later = []

theorem Digits.natural (value : Nat) : Digits (Text.natural value) :=
  ⟨Nat.toDigits_ne_nil, fun _ member => Nat.isDigit_of_mem_toDigits (by decide) (by decide) member⟩

theorem Whole.natural (value : Nat) : Whole (Text.natural value) := by
  refine ⟨.natural value, fun later padded => ?_⟩
  by_cases zero : value = 0
  · subst zero
    cases padded
    rfl
  · exact absurd padded (Text.toDigits_ne_padded zero later)

variable {digits whole rest : List Char}

theorem readDigits_append (valid : Digits digits)
    (ended : ∀ char ∈ rest.head?, isDigit char = false) :
    readDigits (digits ++ rest) = some (digits, rest) := by
  have only : ∀ char ∈ digits, isDigit char = true := valid.only
  have split : (digits ++ rest).span isDigit = (digits, rest) := by
    rw [List.span_eq_takeWhile_dropWhile, List.takeWhile_append_of_pos only,
      List.dropWhile_append_of_pos only]
    cases rest with
    | nil => simp
    | cons char rest =>
        have other : isDigit char = false := ended char rfl
        simp [other]
  rw [readDigits, split]
  cases digits with
  | nil => exact absurd rfl valid.nonempty
  | cons digit digits => rfl

theorem readWhole_append (valid : Whole whole)
    (ended : ∀ char ∈ rest.head?, isDigit char = false) :
    readWhole (whole ++ rest) = some (whole, rest) := by
  rw [readWhole, readDigits_append valid.toDigits ended]
  dsimp only [bind, Option.bind]
  split
  · rename_i shape
    cases shape
    cases valid.unpadded _ rfl
  · rfl

theorem readFraction_point (valid : Digits digits)
    (ended : ∀ char ∈ rest.head?, isDigit char = false) :
    readFraction ('.' :: (digits ++ rest)) = some (some digits, rest) := by
  rw [readFraction, readDigits_append valid ended]
  rfl

theorem readFraction_none (ended : ∀ char ∈ rest.head?, char ≠ '.') :
    readFraction rest = some (none, rest) := by
  rw [readFraction]
  rintro later rfl
  exact ended '.' rfl rfl

theorem readExponent_none (ended : Ended rest) : readExponent rest = some (none, rest) := by
  rw [readExponent]
  · rintro later rfl
    exact (ended 'e' rfl).2 (by decide)
  · rintro later rfl
    exact (ended 'E' rfl).2 (by decide)

theorem readExponent_signed (exponent : Int)
    (ended : ∀ char ∈ rest.head?, isDigit char = false) :
    readExponent ('e' :: (if exponent < 0 then '-' else '+') ::
      (Text.natural exponent.natAbs ++ rest)) = some (some exponent, rest) := by
  have valid := Digits.natural exponent.natAbs
  have value := Text.digitsFrom?_eq valid.only 0
  have magnitude : Nat.ofDigitChars 10 (Text.natural exponent.natAbs) 0 = exponent.natAbs :=
    Nat.ofDigitChars_ten_toDigits
  rw [magnitude] at value
  split
  · rename_i below
    have signed : -|exponent| = exponent := by rw [abs_of_neg below, Int.neg_neg]
    simp [readExponent, readDigits_append valid ended, value, signed]
  · rename_i above
    have unsigned : |exponent| = exponent := abs_of_nonneg (Int.not_lt.mp above)
    simp [readExponent, readDigits_append valid ended, value, unsigned]

/-! ## Putting the parts together -/

variable {later after : List Char} {fraction : Option (List Char)} {exponent : Option Int}

theorem readNumeral_parts (negative : Bool) (valid : Whole whole)
    (ended : ∀ char ∈ later.head?, isDigit char = false)
    (fractionRead : readFraction later = some (fraction, after))
    (exponentRead : readExponent after = some (exponent, rest)) :
    readNumeral (Binary64.withSign negative whole ++ later) =
      some (⟨negative, whole, fraction, exponent⟩, rest) := by
  have wholeRead := readWhole_append valid ended
  have noSign : ∀ rest, whole ++ later = '-' :: rest → False := by
    intro rest signed
    cases whole with
    | nil => exact valid.nonempty rfl
    | cons first others =>
        rw [List.cons_append, List.cons.injEq] at signed
        have digit := valid.only first (List.mem_cons_self ..)
        rw [signed.1] at digit
        cases digit
  cases negative
  case' true => rw [Binary64.withSign, if_pos rfl, List.cons_append, readNumeral]
  case' false => rw [Binary64.withSign, if_neg Bool.false_ne_true, readNumeral]
  case false.x => exact noSign
  all_goals simp only [wholeRead, fractionRead, exponentRead, bind, Option.bind]

section Numerals

variable (numbers : NumberReader) {numeral : Numeral}

theorem ofNumeral_of_integer? {value : Int} (whole : numeral.integer? = some value) :
    ofNumeral numbers numeral = integer value := by
  unfold ofNumeral
  rw [whole]

theorem ofNumeral_of_none (fractional : numeral.integer? = none) :
    ofNumeral numbers numeral = real (numbers.real numeral) := by
  unfold ofNumeral
  rw [fractional]

theorem readNumber_of_readNumeral {chars : List Char}
    (read : readNumeral chars = some (numeral, rest)) :
    readNumber numbers chars = some (ofNumeral numbers numeral, rest) := by
  rw [readNumber, read]
  rfl

end Numerals

/-! ## Integers -/

/-- The integers of 64 bits, signed or unsigned. -/
def InRange (value : Int) : Prop :=
  Int64.minValue.toInt ≤ value ∧ value < UInt64.size

theorem Ended.digit (ended : Ended rest) : ∀ char ∈ rest.head?, isDigit char = false :=
  fun char member => (ended char member).1

theorem readNumber_integer (numbers : NumberReader) {value : Int} (inRange : InRange value)
    (ended : Ended rest) :
    readNumber numbers (Text.integer value ++ rest) = some (integer value, rest) := by
  have point : ∀ char ∈ rest.head?, char ≠ '.' := by
    rintro char member rfl
    exact (ended '.' member).2 (by decide)
  have read (negative : Bool) := readNumeral_parts negative (Whole.natural value.natAbs)
    ended.digit (readFraction_none point) (readExponent_none ended)
  have magnitude : Nat.ofDigitChars 10 (Text.natural value.natAbs) 0 = value.natAbs :=
    Nat.ofDigitChars_ten_toDigits
  have low : -(UInt64.size / 2 : Nat) ≤ value := inRange.1
  have high := inRange.2
  -- The numeral is the integer, with the sign that it was written with.
  have meant : Numeral.integer? ⟨decide (value < 0), Text.natural value.natAbs, none, none⟩ =
      some value := by
    rw [Numeral.integer?]
    dsimp only
    rw [magnitude]
    by_cases below : value < 0
    · have signed : -(value.natAbs : Int) = value := by omega
      rw [if_pos (decide_eq_true below), if_pos (by omega), signed]
    · have unsigned : (value.natAbs : Int) = value := by omega
      rw [if_neg (Bool.eq_false_iff.mp (decide_eq_false below)), if_pos (by omega), unsigned]
  have text : Text.integer value =
      Binary64.withSign (decide (value < 0)) (Text.natural value.natAbs) := by
    rw [Text.integer, Binary64.withSign]
    simp only [decide_eq_true_eq]
  rw [text, readNumber_of_readNumeral numbers (read _), ofNumeral_of_integer? numbers meant]

/-! ## Real numbers -/

end Json

namespace Decimal

open Json (Digits Whole Ended)

variable {decimal : Decimal}

theorem ne_padded (nonzero : decimal.digits ≠ 0) {rest later : List Char} :
    decimal.digitList ++ rest ≠ '0' :: later := by
  intro padded
  cases front : decimal.digitList with
  | nil => exact Nat.toDigits_ne_nil front
  | cons first others =>
      rw [front, List.cons_append, List.cons.injEq] at padded
      rw [padded.1] at front
      exact Text.toDigits_ne_padded nonzero others front

theorem plain_whole (whole : 0 ≤ decimal.exponent) : Whole decimal.plain := by
  have digits : Whole decimal.digitList := .natural decimal.digits
  rw [plain]
  dsimp only
  rw [if_pos whole]
  split
  · exact digits
  · rename_i nonzero
    refine ⟨⟨List.append_ne_nil_of_left_ne_nil digits.nonempty _, fun char member => ?_⟩,
      fun later padded => absurd padded (ne_padded nonzero)⟩
    rcases List.mem_append.mp member with first | last
    · exact digits.only char first
    · rw [List.eq_of_mem_replicate last]
      rfl

theorem plain_point (below : decimal.exponent < 0) :
    ∃ whole places, decimal.plain = whole ++ '.' :: places ∧ Whole whole ∧ Digits places := by
  have digits : Whole decimal.digitList := .natural decimal.digits
  rw [plain]
  dsimp only
  rw [if_neg (Int.not_le.mpr below)]
  split
  · rename_i within
    -- A single digit is too short to be cut, so the number is not zero.
    have nonzero : decimal.digits ≠ 0 := by
      intro zero
      rw [digitList, zero, Nat.toDigits_zero, List.length_singleton] at within
      omega
    have cut := List.take_append_drop (decimal.digitList.length - (-decimal.exponent).toNat)
      decimal.digitList
    refine ⟨_, _, rfl, ⟨⟨?_, ?_⟩, ?_⟩, ⟨?_, ?_⟩⟩
    · rw [ne_eq, List.take_eq_nil_iff, not_or]
      exact ⟨by omega, digits.nonempty⟩
    · exact fun char member => digits.only char (List.mem_of_mem_take member)
    · intro later padded
      rw [padded] at cut
      have padded : decimal.digitList ++ [] = '0' :: _ := (List.append_nil _).trans cut.symm
      exact absurd padded (ne_padded nonzero)
    · rw [ne_eq, List.drop_eq_nil_iff]
      omega
    · exact fun char member => digits.only char (List.mem_of_mem_drop member)
  · refine ⟨['0'], _, rfl, .natural 0, ⟨List.append_ne_nil_of_right_ne_nil _ digits.nonempty, ?_⟩⟩
    intro char member
    rcases List.mem_append.mp member with first | last
    · rw [List.eq_of_mem_replicate first]
      rfl
    · exact digits.only char last

end Decimal

namespace Json

variable {rest : List Char}

theorem withSign_append (negative : Bool) (text rest : List Char) :
    Binary64.withSign negative (text ++ rest) = Binary64.withSign negative text ++ rest := by
  cases negative <;> rfl

/-- The text is read as the numeral wherever no number goes on, and the numeral is no integer. -/
structure Numeral.Spelled (numeral : Numeral) (text : List Char) : Prop where
  read : ∀ {rest : List Char}, Ended rest → readNumeral (text ++ rest) = some (numeral, rest)
  real : numeral.integer? = none

/-- A numeral with this sign and this value. -/
structure Numeral.Stands (numeral : Numeral) (negative : Bool) (decimal : Decimal) : Prop where
  signed : numeral.negative = negative
  valued : numeral.decimal.value = decimal.value

theorem exists_numeral_whole (negative : Bool) {decimal : Decimal}
    (whole : 0 ≤ decimal.exponent) :
    ∃ numeral : Numeral, numeral.Stands negative decimal ∧
      numeral.Spelled (Binary64.withSign negative (decimal.plain ++ ".0".toList)) := by
  have valid := Decimal.plain_whole whole
  have place : Digits ['0'] := .natural 0
  refine ⟨⟨negative, decimal.plain, some ['0'], none⟩, ⟨rfl, ?_⟩, ⟨fun ended => ?_, rfl⟩⟩
  · rw [← Decimal.value_ofPlain_plain decimal, Decimal.ofPlain_whole valid.only,
      Numeral.decimal, Decimal.value, Decimal.value]
    simp only [Option.getD_some, Option.getD_none, Nat.ofDigitChars_append,
      Nat.ofDigitChars_cons, Nat.ofDigitChars_nil, List.length_singleton]
    push_cast
    ring
  · rw [withSign_append, List.append_assoc]
    exact readNumeral_parts negative valid (fun char member => by cases member; rfl)
      (readFraction_point place ended.digit) (readExponent_none ended)

theorem exists_numeral_places (negative : Bool) {decimal : Decimal}
    (below : decimal.exponent < 0) :
    ∃ numeral : Numeral, numeral.Stands negative decimal ∧
      numeral.Spelled (Binary64.withSign negative decimal.plain) := by
  rcases Decimal.plain_point below with ⟨whole, places, shape, valid, digits⟩
  refine ⟨⟨negative, whole, some places, none⟩, ⟨rfl, ?_⟩, ⟨fun ended => ?_, rfl⟩⟩
  · rw [← Decimal.value_ofPlain_plain decimal, shape, Decimal.ofPlain_point valid.only,
      Numeral.decimal, Option.getD_some, Option.getD_none, Int.zero_sub]
  · rw [shape, withSign_append, List.append_assoc]
    exact readNumeral_parts negative valid (fun char member => by cases member; rfl)
      (readFraction_point digits ended.digit) (readExponent_none ended)

theorem exists_numeral_scientific (negative : Bool) (decimal : Decimal) :
    ∃ numeral : Numeral, numeral.Stands negative decimal ∧
      numeral.Spelled (Binary64.withSign negative decimal.scientific) := by
  have digits : Whole decimal.digitList := .natural decimal.digits
  have number : Nat.ofDigitChars 10 decimal.digitList 0 = decimal.digits :=
    Nat.ofDigitChars_ten_toDigits
  have power {rest : List Char} (ended : Ended rest) :=
    readExponent_signed decimal.leading ended.digit
  rw [Decimal.scientific]
  cases shape : decimal.digitList with
  | nil => exact absurd shape digits.nonempty
  | cons first others =>
      rw [shape] at digits number
      have single : Whole [first] := by
        refine ⟨⟨List.cons_ne_nil _ _, fun char member => ?_⟩, ?_⟩
        · exact digits.only char (List.mem_cons.mpr (.inl (List.mem_singleton.mp member)))
        · rintro later padded
          cases padded
          rfl
      have place : decimal.leading - Int.ofNat others.length = decimal.exponent := by
        rw [Decimal.leading, shape, List.length_cons]
        simp only [Int.ofNat_eq_natCast]
        omega
      have same : (⟨Nat.ofDigitChars 10 ([first] ++ others) 0,
          decimal.leading - Int.ofNat others.length⟩ : Decimal) = decimal := by
        rw [List.singleton_append, number, place]
      cases others with
      | nil =>
          refine ⟨⟨negative, [first], none, some decimal.leading⟩,
            ⟨rfl, congrArg Decimal.value same⟩, ⟨fun ended => ?_, rfl⟩⟩
          have read := readNumeral_parts negative single (fun char member => by cases member; rfl)
            (readFraction_none fun char member => by cases member; decide) (power ended)
          dsimp only
          rw [withSign_append, List.append_assoc]
          exact read
      | cons second others =>
          refine ⟨⟨negative, [first], some (second :: others), some decimal.leading⟩,
            ⟨rfl, congrArg Decimal.value same⟩, ⟨fun ended => ?_, rfl⟩⟩
          have places : Digits (second :: others) :=
            ⟨List.cons_ne_nil _ _, fun char member => digits.only char (.tail _ member)⟩
          have read := readNumeral_parts negative single (fun char member => by cases member; rfl)
            (readFraction_point places fun char member => by cases member; rfl) (power ended)
          have grouped : first :: '.' :: second :: others =
              [first] ++ '.' :: second :: others := rfl
          dsimp only
          rw [grouped, List.append_assoc, withSign_append, List.append_assoc, List.cons_append,
            List.cons_append, List.append_assoc]
          exact read

theorem exists_numeral_jsonNotation (negative : Bool) (decimal : Decimal) :
    ∃ numeral : Numeral, numeral.Stands negative decimal ∧
      numeral.Spelled (Binary64.withSign negative decimal.jsonNotation) := by
  rw [Decimal.jsonNotation]
  split
  · split
    · rename_i whole
      exact exists_numeral_whole negative whole
    · rename_i below
      exact exists_numeral_places negative (Int.not_le.mp below)
  · exact exists_numeral_scientific negative decimal

/-- The notation of a finite number is a numeral, and the number is the one nearest to it, the
sign of a zero included. -/
theorem exists_numeral_jsonText {value : Binary64} (finite : value.isFinite = true) :
    ∃ numeral : Numeral, numeral.Spelled value.jsonText ∧
      NumberReader.nearest.real numeral = value := by
  cases value with
  | finite negative rank =>
      rcases exists_numeral_jsonNotation negative (Decimal.shortest .toEven rank) with
        ⟨numeral, stands, spelled⟩
      refine ⟨numeral, spelled, ?_⟩
      rw [NumberReader.nearest]
      dsimp only
      rw [Binary64.ofDecimal_congr stands.valued, stands.signed, Binary64.ofDecimal_shortest]
  | infinite negative => cases finite
  | notANumber => cases finite

/-! ## Numbers that come back -/

namespace NumberReader

/-- The reader takes the notation of a number for the number. -/
def Denotes (numbers : NumberReader) (value : Binary64) : Prop :=
  readNumber numbers value.jsonText = some (.real value, [])

variable {numbers : NumberReader} {value : Binary64}

/-- There is no notation for what is not finite. -/
theorem Denotes.isFinite (denotes : numbers.Denotes value) : value.isFinite = true := by
  cases value with
  | finite negative rank => rfl
  | infinite negative => cases denotes
  | notANumber => cases denotes

theorem Denotes.readNumber (denotes : numbers.Denotes value) (ended : Ended rest) :
    readNumber numbers (value.jsonText ++ rest) = some (.real value, rest) := by
  rcases exists_numeral_jsonText denotes.isFinite with ⟨numeral, spelled, -⟩
  have nothing : Ended [] := fun char member => by cases member
  have alone := spelled.read nothing
  rw [List.append_nil] at alone
  rw [Denotes, readNumber_of_readNumeral numbers alone, Option.some.injEq, Prod.mk.injEq]
    at denotes
  rw [readNumber_of_readNumeral numbers (spelled.read ended), denotes.1]

/-- A reader that rounds to the nearest number takes every notation for its number. -/
theorem nearest_denotes (finite : value.isFinite = true) : nearest.Denotes value := by
  rcases exists_numeral_jsonText finite with ⟨numeral, spelled, same⟩
  have nothing : Ended [] := fun char member => by cases member
  have alone := spelled.read nothing
  rw [List.append_nil] at alone
  rw [Denotes, readNumber_of_readNumeral nearest alone, ofNumeral_of_none nearest spelled.real,
    same]

end NumberReader

end Json

end Dilemma
