import Mathlib.Algebra.Field.Rat
import Mathlib.Algebra.Order.Field.Basic
import Mathlib.Algebra.Ring.Nat
import Mathlib.Data.List.TakeWhile
import Mathlib.Data.Nat.Cast.Field
import Mathlib.Tactic.FieldSimp
import Mathlib.Tactic.Ring
import Dilemma.Number.Decimal

/-! # Numbers and their texts

Rounding looks at a ratio only, and a magnitude is rounded to itself. A decimal that is
written for a number therefore leads back to it, whichever of its notations is read. So
no two numbers share a text. -/

namespace Dilemma

namespace Binary64

/-! ## Rounding a ratio -/

theorem roundQuotient_mul_right (numerator denominator : Nat) {factor : Nat}
    (positive : 0 < factor) :
    roundQuotient (numerator * factor) (denominator * factor) =
      roundQuotient numerator denominator := by
  have quotient := Nat.mul_div_mul_right numerator denominator positive
  have rest := Nat.mul_mod_mul_right factor numerator denominator
  simp only [roundQuotient, quotient, rest, ← Nat.mul_assoc, Nat.mul_lt_mul_right positive]

theorem nearestRank_mul_right (numerator denominator : Nat) {factor : Nat}
    (positive : 0 < factor) :
    nearestRank (numerator * factor) (denominator * factor) =
      nearestRank numerator denominator := by
  have quotient := Nat.mul_div_mul_right numerator denominator positive
  simp only [nearestRank, quotient, Nat.mul_right_comm denominator factor,
    roundQuotient_mul_right _ _ positive]

theorem nearestRank_congr {numerator denominator numerator' denominator' : Nat}
    (positive : 0 < denominator) (positive' : 0 < denominator')
    (same : numerator * denominator' = numerator' * denominator) :
    nearestRank numerator denominator = nearestRank numerator' denominator' := by
  rw [← nearestRank_mul_right numerator denominator positive', same,
    Nat.mul_comm denominator denominator', nearestRank_mul_right _ _ positive]

theorem roundQuotient_one (value : Nat) : roundQuotient value 1 = value := by
  simp [roundQuotient, Nat.mod_one]

/-- A magnitude is nearest to itself. -/
theorem nearestRank_units (rank : Nat) : nearestRank (units rank) 1 = rank := by
  rw [nearestRank, Nat.div_one, units]
  split
  · rename_i small
    have few : rank.log2 ≤ 52 := by
      by_cases zero : rank = 0
      · simp [zero]
      · have bound := (Nat.log2_lt zero).mpr
          (show rank < 2 ^ 53 by simpa [fractionCount] using small)
        omega
    have unshifted : rank.log2 - 52 = 0 := by omega
    rw [unshifted, Nat.zero_mul, Nat.zero_add]
    exact roundQuotient_one rank
  · rename_i large
    -- The significand has 53 bits, so all the others come from the exponent.
    have parts := Nat.div_add_mod rank fractionCount
    have fraction := Nat.mod_lt rank (show 0 < fractionCount by decide)
    have exponent : 2 ≤ rank / fractionCount := by
      rw [Nat.le_div_iff_mul_le (by decide)]
      omega
    generalize rank / fractionCount = quotient at parts exponent ⊢
    generalize rank % fractionCount = rest at parts fraction ⊢
    have bits : ((fractionCount + rest) * twoTo (quotient - 1)).log2 = 52 + (quotient - 1) := by
      have positive := twoTo_pos (quotient - 1)
      have nonzero : (fractionCount + rest) * twoTo (quotient - 1) ≠ 0 :=
        Nat.mul_ne_zero (by simp [fractionCount]) (Nat.ne_of_gt positive)
      rw [Nat.log2_eq_iff nonzero, Nat.add_right_comm, Nat.pow_add, Nat.pow_add]
      constructor
      · exact Nat.mul_le_mul_right _ (by simp [fractionCount])
      · refine Nat.mul_lt_mul_of_pos_right ?_ positive
        simp only [fractionCount] at fraction ⊢
        omega
    rw [bits, Nat.add_sub_cancel_left, roundQuotient_mul_right _ 1 (twoTo_pos _), roundQuotient_one]
    simp only [fractionCount] at parts ⊢
    omega

end Binary64

namespace Decimal

/-! ## Values -/

/-- `digits * 10 ^ exponent` as a fraction. -/
def value (decimal : Decimal) : Rat := decimal.digits * 10 ^ decimal.exponent

theorem fraction_pos (decimal : Decimal) : 0 < decimal.fraction.2 := by
  rw [fraction]
  split
  · exact Nat.one_pos
  · exact tenTo_pos _

theorem fraction_eq (decimal : Decimal) :
    (decimal.fraction.1 : Rat) = decimal.value * Binary64.oneUnits * decimal.fraction.2 := by
  have tens (places : Nat) : (tenTo places : Rat) = 10 ^ places := by
    rw [tenTo]
    exact Nat.cast_pow 10 places
  rw [fraction, value]
  split
  · rename_i whole
    have exponent : (decimal.exponent.toNat : Int) = decimal.exponent := Int.toNat_of_nonneg whole
    push_cast
    rw [tens, ← zpow_natCast, exponent]
    ring
  · rename_i below
    have exponent : ((-decimal.exponent).toNat : Int) = -decimal.exponent := by omega
    have nonzero : (10 : Rat) ^ decimal.exponent ≠ 0 := zpow_ne_zero _ (by decide)
    generalize Binary64.oneUnits = scale
    push_cast
    rw [tens, ← zpow_natCast, exponent, zpow_neg]
    field_simp

/-- Decimals with one value read back to the same numbers. -/
theorem readsBack_congr {left right : Decimal} (same : left.value = right.value) (rank : Nat) :
    left.readsBack rank = right.readsBack rank := by
  have cross : left.fraction.1 * right.fraction.2 = right.fraction.1 * left.fraction.2 := by
    have casted : ((left.fraction.1 * right.fraction.2 : Nat) : Rat) =
        (right.fraction.1 * left.fraction.2 : Nat) := by
      push_cast
      rw [fraction_eq left, fraction_eq right, same]
      ring
    exact_mod_cast casted
  rw [readsBack, readsBack, Binary64.nearestRank_congr left.fraction_pos right.fraction_pos cross]

theorem value_stripZeros (fuel : Nat) (decimal : Decimal) :
    (stripZeros fuel decimal).value = decimal.value := by
  induction fuel generalizing decimal with
  | zero => rfl
  | succ fuel induction =>
      rw [stripZeros]
      split
      · rename_i divisible
        have tenfold : decimal.digits = decimal.digits / 10 * 10 := by omega
        have casted : (decimal.digits : Rat) = (decimal.digits / 10 : Nat) * 10 := by
          exact_mod_cast congrArg Nat.cast tenfold
        rw [induction, value, value, casted, zpow_add_one₀ (by decide)]
        ring
      · rfl

/-! ## The shortest decimal -/

theorem readsBack_of_onGrid? {tie : Tie} {rank : Nat} {exponent : Int} {found : Decimal}
    (grid : onGrid? tie rank exponent = some found) : found.readsBack rank = true := by
  -- Opened as a function, since an opened call would be computed in order to compare it.
  have opened : @onGrid? = @onGrid? := rfl
  conv at opened =>
    rhs
    delta onGrid?
  rw [opened] at grid
  dsimp only at grid
  generalize Binary64.units rank = units at grid
  generalize fraction ⟨1, exponent⟩ = step at grid
  generalize readsBack rank = reads at grid ⊢
  cases below : reads ⟨units * step.2 / step.1, exponent⟩ with
  | true =>
      cases above : reads ⟨units * step.2 / step.1 + 1, exponent⟩ with
      | true =>
          simp only [below, above, Option.some.injEq] at grid
          rcases ite_eq_iff.mp grid with ⟨_, rfl⟩ | ⟨_, rfl⟩
          · exact above
          · exact below
      | false =>
          simp only [below, above, Option.some.injEq] at grid
          rw [← grid]
          exact below
  | false =>
      cases above : reads ⟨units * step.2 / step.1 + 1, exponent⟩ with
      | true =>
          simp only [below, above, Option.some.injEq] at grid
          rw [← grid]
          exact above
      | false => simp only [below, above, reduceCtorEq] at grid

theorem readsBack_of_value {decimal : Decimal} {rank : Nat}
    (same : decimal.value * Binary64.oneUnits = Binary64.units rank) :
    decimal.readsBack rank = true := by
  have cross : decimal.fraction.1 * 1 = Binary64.units rank * decimal.fraction.2 := by
    have casted : (decimal.fraction.1 : Rat) = Binary64.units rank * decimal.fraction.2 := by
      rw [fraction_eq, same]
    rw [Nat.mul_one]
    exact_mod_cast casted
  rw [readsBack, decide_eq_true_eq,
    Binary64.nearestRank_congr decimal.fraction_pos Nat.one_pos cross, Binary64.nearestRank_units]

theorem value_fives (units places : Nat) {exponent : Int} (opposite : exponent = -places) :
    (⟨units * Nat.pow 5 places, exponent⟩ : Decimal).value * twoTo places = units := by
  have tens : (10 : Rat) ^ places = 5 ^ places * 2 ^ places := by
    rw [← mul_pow]
    norm_num
  have fives : ((Nat.pow 5 places : Nat) : Rat) = 5 ^ places := Nat.cast_pow 5 places
  have twos : ((Nat.pow 2 places : Nat) : Rat) = 2 ^ places := Nat.cast_pow 2 places
  have positive : (5 : Rat) ^ places * 2 ^ places ≠ 0 :=
    mul_ne_zero (pow_ne_zero _ (by decide)) (pow_ne_zero _ (by decide))
  rw [value, twoTo, opposite, zpow_neg, zpow_natCast, tens, Nat.cast_mul, fives, twos]
  field_simp

theorem readsBack_exact (rank : Nat) : (exact rank).readsBack rank = true := by
  apply readsBack_of_value
  obtain ⟨places, known⟩ : ∃ places : Nat, places = 1074 := ⟨_, rfl⟩
  rw [exact, Binary64.oneUnits, ← known]
  exact value_fives (Binary64.units rank) places (by rw [known]; rfl)

theorem readsBack_shortest (tie : Tie) (rank : Nat) :
    (shortest tie rank).readsBack rank = true := by
  rw [shortest]
  split
  · rename_i zero
    subst zero
    decide +kernel
  · dsimp only
    rw [readsBack_congr (value_stripZeros 1100 _)]
    generalize leadingExponent (Binary64.units rank) = leading
    cases found : (List.range 17).findSome? fun places =>
        onGrid? tie rank (leading - Int.ofNat places) with
    | none => exact readsBack_exact rank
    | some decimal =>
        rcases List.exists_of_findSome?_eq_some found with ⟨places, _, grid⟩
        exact readsBack_of_onGrid? grid

/-! ## Reading a text -/

/-- The decimal that plain notation shows. -/
def ofPlain (text : List Char) : Decimal :=
  let places := (text.dropWhile (· ≠ '.')).drop 1
  ⟨Nat.ofDigitChars 10 (text.takeWhile (· ≠ '.') ++ places) 0, -places.length⟩

theorem isDigit_of_mem_digitList {decimal : Decimal} {char : Char}
    (member : char ∈ decimal.digitList) : char.isDigit = true :=
  Nat.isDigit_of_mem_toDigits (by decide) (by decide) member

theorem ne_point_of_isDigit {char : Char} (digit : char.isDigit = true) : char ≠ '.' := by
  rintro rfl
  cases digit

theorem ofPlain_whole {digits : List Char} (only : ∀ char ∈ digits, char.isDigit = true) :
    ofPlain digits = ⟨Nat.ofDigitChars 10 digits 0, 0⟩ := by
  have pointless : ∀ char ∈ digits, decide (char ≠ '.') = true := fun char member =>
    decide_eq_true (ne_point_of_isDigit (only char member))
  rw [ofPlain, List.takeWhile_eq_self_iff.mpr pointless, List.dropWhile_eq_nil_iff.mpr pointless]
  simp

theorem ofPlain_point {digits places : List Char} (only : ∀ char ∈ digits, char.isDigit = true) :
    ofPlain (digits ++ '.' :: places) =
      ⟨Nat.ofDigitChars 10 (digits ++ places) 0, -places.length⟩ := by
  have pointless : ∀ char ∈ digits, decide (char ≠ '.') = true := fun char member =>
    decide_eq_true (ne_point_of_isDigit (only char member))
  rw [ofPlain, List.takeWhile_append_of_pos pointless, List.dropWhile_append_of_pos pointless]
  simp

theorem value_ofPlain_plain (decimal : Decimal) :
    (ofPlain decimal.plain).value = decimal.value := by
  have digits : ∀ char ∈ decimal.digitList, char.isDigit = true :=
    fun _ member => isDigit_of_mem_digitList member
  have number : Nat.ofDigitChars 10 decimal.digitList 0 = decimal.digits :=
    Nat.ofDigitChars_ten_toDigits
  rw [plain]
  dsimp only
  split
  · rename_i whole
    split
    · rename_i zero
      rw [ofPlain_whole digits, number, value, value, zero]
      simp
    · have zeros : ∀ char ∈ decimal.digitList ++ List.replicate decimal.exponent.toNat '0',
          char.isDigit = true := by
        intro char member
        rcases List.mem_append.mp member with first | last
        · exact digits char first
        · rw [List.eq_of_mem_replicate last]
          rfl
      have exponent : (decimal.exponent.toNat : Int) = decimal.exponent := Int.toNat_of_nonneg whole
      rw [ofPlain_whole zeros, Nat.ofDigitChars_append, number, Nat.ofDigitChars_replicate_zero,
        value, value, zpow_zero]
      push_cast
      rw [← zpow_natCast, exponent]
      ring
  · rename_i below
    have exponent : -((-decimal.exponent).toNat : Int) = decimal.exponent := by omega
    split
    · rename_i within
      have places : decimal.digitList.length -
          (decimal.digitList.length - (-decimal.exponent).toNat) = (-decimal.exponent).toNat := by
        omega
      rw [ofPlain_point (fun char member => digits char (List.mem_of_mem_take member)),
        List.take_append_drop, number, List.length_drop, places, exponent]
    · rename_i beyond
      have places :
          (-decimal.exponent).toNat - decimal.digitList.length + decimal.digitList.length =
            (-decimal.exponent).toNat := by
        omega
      have read := @ofPlain_point ['0']
        (List.replicate ((-decimal.exponent).toNat - decimal.digitList.length) '0' ++
          decimal.digitList) (List.forall_mem_singleton.mpr rfl)
      rw [List.length_append, List.length_replicate, places, exponent, Nat.ofDigitChars_append,
        Nat.ofDigitChars_append, Nat.ofDigitChars_replicate_zero] at read
      exact congrArg value (read.trans (congrArg (Decimal.mk · decimal.exponent) number))

/-- A text in plain notation is written for one number only. -/
theorem rank_eq_of_plain_eq {tie : Tie} {rank other : Nat}
    (same : (shortest tie rank).plain = (shortest tie other).plain) : rank = other := by
  have values : (shortest tie rank).value = (shortest tie other).value := by
    rw [← value_ofPlain_plain, same, value_ofPlain_plain]
  have reads := readsBack_shortest tie rank
  have readsToo := readsBack_shortest tie other
  rw [readsBack_congr values] at reads
  rw [readsBack, decide_eq_true_eq] at reads readsToo
  exact reads.symm.trans readsToo

theorem mem_plain {decimal : Decimal} {char : Char} (member : char ∈ decimal.plain) :
    char.isDigit = true ∨ char = '.' := by
  have zeros {count : Nat} (zero : char ∈ List.replicate count '0') : char.isDigit = true := by
    rw [List.eq_of_mem_replicate zero]
    rfl
  rw [plain] at member
  dsimp only at member
  split at member
  · split at member
    · exact .inl (isDigit_of_mem_digitList member)
    · rcases List.mem_append.mp member with first | last
      · exact .inl (isDigit_of_mem_digitList first)
      · exact .inl (zeros last)
  · split at member
    · rcases List.mem_append.mp member with before | after
      · exact .inl (isDigit_of_mem_digitList (List.mem_of_mem_take before))
      · rcases List.mem_cons.mp after with rfl | later
        · exact .inr rfl
        · exact .inl (isDigit_of_mem_digitList (List.mem_of_mem_drop later))
    · rcases List.mem_cons.mp member with rfl | rest
      · exact .inl rfl
      · rcases List.mem_cons.mp rest with rfl | later
        · exact .inr rfl
        · rcases List.mem_append.mp later with first | last
          · exact .inl (zeros first)
          · exact .inl (isDigit_of_mem_digitList last)

theorem plain_ne_nil (decimal : Decimal) : decimal.plain ≠ [] := by
  have digits : decimal.digitList ≠ [] := Nat.toDigits_ne_nil
  rw [plain]
  dsimp only
  split
  · split
    · exact digits
    · exact List.append_ne_nil_of_left_ne_nil digits _
  · split
    · exact List.append_ne_nil_of_right_ne_nil _ (List.cons_ne_nil _ _)
    · exact List.cons_ne_nil _ _

end Decimal

namespace Binary64

theorem withSign_inj {negative negative' : Bool} {text text' : List Char} (unsigned : '-' ∉ text)
    (unsigned' : '-' ∉ text') (same : withSign negative text = withSign negative' text') :
    negative = negative' ∧ text = text' := by
  cases negative <;> cases negative'
  · exact ⟨rfl, same⟩
  · have signed : text = '-' :: text' := same
    rw [signed] at unsigned
    exact absurd (List.mem_cons_self ..) unsigned
  · have signed : '-' :: text = text' := same
    rw [← signed] at unsigned'
    exact absurd (List.mem_cons_self ..) unsigned'
  · exact ⟨rfl, List.tail_eq_of_cons_eq same⟩

theorem unsigned_plain (decimal : Decimal) : '-' ∉ decimal.plain := by
  intro member
  rcases Decimal.mem_plain member with digit | point
  · cases digit
  · cases point

theorem plain_ne_word (decimal : Decimal) {word : List Char} {letter : Char}
    (member : letter ∈ word) (unlike : letter.isDigit = false ∧ letter ≠ '.') :
    decimal.plain ≠ word := by
  rintro rfl
  rcases Decimal.mem_plain member with digit | point
  · rw [unlike.1] at digit
    cases digit
  · exact unlike.2 point

theorem eq_finite_of_plainText_eq {negative : Bool} {rank : Fin rankCount} {other : Binary64}
    (same : (finite negative rank).plainText = other.plainText) : finite negative rank = other := by
  cases other with
  | finite negative' rank' =>
      rcases withSign_inj (unsigned_plain _) (unsigned_plain _) same with ⟨rfl, digits⟩
      exact congrArg (finite negative) (Fin.ext (Decimal.rank_eq_of_plain_eq digits))
  | infinite negative' =>
      have digits := (withSign_inj (unsigned_plain _) (by decide) same).2
      exact absurd digits (plain_ne_word _ (List.mem_cons_self ..) (by decide))
  | notANumber =>
      have word : notANumber.plainText = withSign false "NaN".toList := rfl
      rw [word] at same
      have digits := (withSign_inj (unsigned_plain _) (by decide) same).2
      exact absurd digits (plain_ne_word _ (List.mem_cons_self ..) (by decide))

/-- No two numbers share a text, not even the two zeros. -/
theorem plainText_injective {left right : Binary64} (same : left.plainText = right.plainText) :
    left = right := by
  cases left with
  | finite negative rank => exact eq_finite_of_plainText_eq same
  | infinite negative =>
      cases right with
      | finite negative' rank' => exact (eq_finite_of_plainText_eq same.symm).symm
      | infinite negative' => exact congrArg infinite (withSign_inj (by decide) (by decide) same).1
      | notANumber => cases negative <;> exact absurd same (by decide)
  | notANumber =>
      cases right with
      | finite negative' rank' => exact (eq_finite_of_plainText_eq same.symm).symm
      | infinite negative' => cases negative' <;> exact absurd same (by decide)
      | notANumber => rfl

theorem plainText_ne_nil (value : Binary64) : value.plainText ≠ [] := by
  cases value with
  | finite negative rank =>
      cases negative with
      | true => exact List.cons_ne_nil _ _
      | false => exact Decimal.plain_ne_nil _
  | infinite negative => cases negative <;> decide
  | notANumber => decide

theorem mem_plainText {value : Binary64} {char : Char} (member : char ∈ value.plainText) :
    char.isDigit = true ∨ char ∈ "-.infNa".toList := by
  cases value with
  | finite negative rank =>
      have digits (inside : char ∈ (Decimal.shortest .upward rank).plain) :
          char.isDigit = true ∨ char ∈ "-.infNa".toList := by
        rcases Decimal.mem_plain inside with digit | rfl
        · exact .inl digit
        · exact .inr (by decide)
      cases negative with
      | true =>
          rcases List.mem_cons.mp member with rfl | inside
          · exact .inr (by decide)
          · exact digits inside
      | false => exact digits member
  | infinite negative =>
      have word : (infinite negative).plainText.all (· ∈ "-.infNa".toList) = true := by
        cases negative <;> decide
      exact .inr (of_decide_eq_true (List.all_eq_true.mp word char member))
  | notANumber =>
      have word : notANumber.plainText.all (· ∈ "-.infNa".toList) = true := by decide
      exact .inr (of_decide_eq_true (List.all_eq_true.mp word char member))

end Binary64

end Dilemma
