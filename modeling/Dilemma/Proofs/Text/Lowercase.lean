import Dilemma.Text.Blank
import Dilemma.Text.Lowercase

/-! # Text in lowercase

A character that has been put into lowercase stays as it is when this is done again, and blanks
are left alone by it. A blank also keeps the two sides of a text apart: whether a capital sigma
ends a word is decided without a look past it. -/

namespace Dilemma.Text

/-! ## Ranges that do not meet -/

theorem inTable_eq_false {left right : List CodeRange}
    (apart : ∀ range ∈ left, ∀ other ∈ right, range.2 < other.1 ∨ other.2 < range.1)
    {char : Char} (member : inTable left char = true) : inTable right char = false := by
  rcases List.any_eq_true.mp member with ⟨range, known, within⟩
  rw [inTable, List.any_eq_false]
  intro other also contained
  simp only [CodeRange.contains, Bool.and_eq_true, decide_eq_true_eq] at within contained
  rcases apart range known other also with before | behind
  · omega
  · omega

theorem not_cased_of_isBlank {char : Char} (blank : isBlank char = true) :
    inTable casedTable char = false :=
  inTable_eq_false (by decide +kernel) blank

theorem not_ignorable_of_isBlank {char : Char} (blank : isBlank char = true) :
    inTable caseIgnorableTable char = false :=
  inTable_eq_false (by decide +kernel) blank

/-! ## Runs of counterparts -/

namespace CaseRun

variable {run other : CaseRun} {code target : Nat}

/-- The last code point that can be a counterpart. -/
def lastTarget (run : CaseRun) : Nat := run.target + (run.last - run.first)

theorem counterpart?_eq_some (found : run.counterpart? code = some target) :
    run.first ≤ code ∧ code ≤ run.last ∧ (code - run.first) % run.stride = 0 ∧
      run.target + (code - run.first) = target := by
  rw [counterpart?] at found
  split at found
  · rename_i listed
    exact ⟨listed.1, listed.2.1, listed.2.2, Option.some.inj found⟩
  · cases found

theorem target_within (found : run.counterpart? code = some target) :
    run.target ≤ target ∧ target ≤ run.lastTarget := by
  rcases counterpart?_eq_some found with ⟨_, _, _, rfl⟩
  rw [lastTarget]
  omega

/-- Nothing that is a counterpart in the one run has a counterpart in the other. -/
def spares (other run : CaseRun) : Bool :=
  Nat.blt run.lastTarget other.first || Nat.blt other.last run.target ||
    (List.range (run.last - run.first + 1)).all fun offset =>
      offset % run.stride != 0 || (other.counterpart? (run.target + offset)).isNone

theorem counterpart?_of_spares (spared : other.spares run = true)
    (found : run.counterpart? code = some target) : other.counterpart? target = none := by
  rcases counterpart?_eq_some found with ⟨from_first, to_last, listed, rfl⟩
  rcases target_within found with ⟨lower, upper⟩
  rw [← Option.not_isSome_iff_eq_none, Option.isSome_iff_exists]
  rintro ⟨next, again⟩
  rcases counterpart?_eq_some again with ⟨after, before, _⟩
  simp only [spares, Bool.or_eq_true, Nat.blt_eq, List.all_eq_true] at spared
  rcases spared with (below | above) | checked
  · omega
  · omega
  · rcases checked (code - run.first) (List.mem_range.mpr (by omega)) with skipped | missing
    · rw [listed] at skipped
      cases skipped
    · rw [again] at missing
      cases missing

end CaseRun

theorem lowercaseTable_spared :
    (lowercaseTable.all fun run => lowercaseTable.all (·.spares run)) = true := by
  decide +kernel

/-- Neither the listed code points nor their counterparts are blank. -/
theorem lowercaseTable_filled : ∀ run ∈ lowercaseTable, ∀ range ∈ blankTable,
    (run.last < range.1 ∨ range.2 < run.first) ∧
      (run.lastTarget < range.1 ∨ range.2 < run.target) := by
  decide +kernel

/-- Counterparts are characters, and they are neither among the capitals of ASCII nor the dotted
capital I. -/
theorem lowercaseTable_valid : ∀ run ∈ lowercaseTable,
    (run.lastTarget < 0xD800 ∨ 0xDFFF < run.target ∧ run.lastTarget < 0x110000) ∧
      (run.lastTarget < 0x41 ∨ 0x5A < run.target) ∧
      (run.lastTarget < 0x130 ∨ 0x130 < run.target) := by
  decide +kernel

/-! ## Single characters -/

theorem isBlank_eq_false_iff {char : Char} :
    isBlank char = false ↔ ∀ range ∈ blankTable, char.toNat < range.1 ∨ range.2 < char.toNat := by
  rw [isBlank, inTable, List.any_eq_false]
  refine forall₂_congr fun range _ => ?_
  simp only [CodeRange.contains, Bool.and_eq_true, decide_eq_true_eq]
  omega

theorem toNat_ofNat {code : Nat} (valid : code < 0xD800 ∨ 0xDFFF < code ∧ code < 0x110000) :
    (Char.ofNat code).toNat = code := by
  rw [Char.ofNat, dif_pos valid]
  rfl

theorem toLower_eq_self {char : Char} (small : char.toNat < 0x41 ∨ 0x5A < char.toNat) :
    char.toLower = char := by
  refine dif_neg ?_
  rintro ⟨from_first, to_last⟩
  have lower : 0x41 ≤ char.toNat := UInt32.le_iff_toNat_le.mp from_first
  have upper : char.toNat ≤ 0x5A := UInt32.le_iff_toNat_le.mp to_last
  omega

/-- A counterpart is its own lowercase. -/
theorem lowercaseChar_counterpart {run : CaseRun} {code target : Nat}
    (known : run ∈ lowercaseTable) (found : run.counterpart? code = some target) :
    lowercaseChar (Char.ofNat target) = [Char.ofNat target] := by
  rcases lowercaseTable_valid run known with ⟨valid, small, undotted⟩
  rcases CaseRun.target_within found with ⟨lower, upper⟩
  have same : (Char.ofNat target).toNat = target := toNat_ofNat (by omega)
  by_cases ascii : target < 0x80
  · rw [lowercaseChar, same, if_pos ascii, toLower_eq_self]
    omega
  · have dotless : Char.ofNat target ≠ '\u0130' := by
      intro equal
      have code : target = 0x130 := same.symm.trans (congrArg Char.toNat equal)
      omega
    have unlisted : lowercaseTable.findSome? (·.counterpart? target) = none := by
      refine List.findSome?_eq_none_iff.mpr fun other also => ?_
      have spared := List.all_eq_true.mp lowercaseTable_spared run known
      exact CaseRun.counterpart?_of_spares (List.all_eq_true.mp spared other also) found
    rw [lowercaseChar, same, if_neg ascii, if_neg dotless, unlisted]

theorem isBlank_of_counterpart {run : CaseRun} {char : Char} {target : Nat}
    (known : run ∈ lowercaseTable) (found : run.counterpart? char.toNat = some target) :
    isBlank char = false ∧ isBlank (Char.ofNat target) = false := by
  rcases CaseRun.counterpart?_eq_some found with ⟨from_first, to_last, _⟩
  rcases CaseRun.target_within found with ⟨lower, upper⟩
  have same : (Char.ofNat target).toNat = target :=
    toNat_ofNat (by have := (lowercaseTable_valid run known).1; omega)
  simp only [isBlank_eq_false_iff, same]
  constructor <;> intro range blank <;>
    rcases lowercaseTable_filled run known range blank with ⟨source, goal⟩ <;> omega

theorem lowercaseChar_ascii : ∀ code < 0x80,
    lowercaseChar (Char.ofNat code).toLower = [(Char.ofNat code).toLower] ∧
      isBlank (Char.ofNat code).toLower = isBlank (Char.ofNat code) ∧
      (isBlank (Char.ofNat code) = true → (Char.ofNat code).toLower = Char.ofNat code) := by
  decide +kernel

/-- Every character goes into lowercase that is its own lowercase, and blank only if the
character is blank. Then it is the same one. -/
structure Lowered (char : Char) (lower : List Char) : Prop where
  ne_nil : lower ≠ []
  stays : ∀ other ∈ lower, lowercaseChar other = [other]
  isBlank : ∀ other ∈ lower, Text.isBlank other = Text.isBlank char
  blank : Text.isBlank char = true → lower = [char]

theorem lowered_single {char lower : Char} (stays : lowercaseChar lower = [lower])
    (same : isBlank lower = isBlank char) (blank : isBlank char = true → lower = char) :
    Lowered char [lower] where
  ne_nil := List.cons_ne_nil lower []
  stays := List.forall_mem_singleton.mpr stays
  isBlank := List.forall_mem_singleton.mpr same
  blank gap := congrArg (fun char => [char]) (blank gap)

theorem lowered (char : Char) : Lowered char (lowercaseChar char) := by
  by_cases ascii : char.toNat < 0x80
  · have facts := lowercaseChar_ascii char.toNat ascii
    rw [Char.ofNat_toNat] at facts
    rcases facts with ⟨stays, same, blank⟩
    rw [lowercaseChar, if_pos ascii]
    exact lowered_single stays same blank
  · by_cases dotted : char = '\u0130'
    · subst dotted
      have pair : lowercaseChar '\u0130' = ['i', '\u0307'] := by decide +kernel
      rw [pair]
      refine ⟨List.cons_ne_nil _ _, ?_, ?_, ?_⟩
      · rw [List.forall_mem_cons, List.forall_mem_singleton]
        decide +kernel
      · rw [List.forall_mem_cons, List.forall_mem_singleton]
        decide +kernel
      · decide +kernel
    · cases found : lowercaseTable.findSome? (·.counterpart? char.toNat) with
      | none =>
          have same : lowercaseChar char = [char] := by
            rw [lowercaseChar, if_neg ascii, if_neg dotted, found]
          rw [same]
          exact lowered_single same rfl fun _ => rfl
      | some target =>
          rcases List.exists_of_findSome?_eq_some found with ⟨run, known, here⟩
          rcases isBlank_of_counterpart known here with ⟨source, goal⟩
          rw [lowercaseChar, if_neg ascii, if_neg dotted, found]
          refine lowered_single (lowercaseChar_counterpart known here) (goal.trans source.symm) ?_
          intro blank
          cases source.symm.trans blank

/-! ## Texts -/

/-- What becomes of a character between these two sides of the text. -/
def lowercaseAt (before : List Char) (char : Char) (after : List Char) : List Char :=
  if char = 'Σ' then [lowercaseSigma before after] else lowercaseChar char

theorem lowercaseAfter_cons (before : List Char) (char : Char) (rest : List Char) :
    lowercaseAfter before (char :: rest) =
      lowercaseAt before char rest ++ lowercaseAfter (char :: before) rest := rfl

theorem lowered_at (before : List Char) (char : Char) (after : List Char) :
    Lowered char (lowercaseAt before char after) := by
  by_cases sigma : char = 'Σ'
  · subst sigma
    rw [lowercaseAt, if_pos rfl, lowercaseSigma]
    split
    · exact lowered_single (by decide +kernel) (by decide +kernel) (by decide +kernel)
    · exact lowered_single (by decide +kernel) (by decide +kernel) (by decide +kernel)
  · rw [lowercaseAt, if_neg sigma]
    exact lowered char

theorem ne_sigma_of_stays {char : Char} (stays : lowercaseChar char = [char]) : char ≠ 'Σ' := by
  rintro rfl
  revert stays
  decide +kernel

variable {char : Char} {text : List Char}

theorem lowercaseAfter_eq_nil_iff (before : List Char) :
    lowercaseAfter before text = [] ↔ text = [] := by
  cases text with
  | nil => exact iff_of_true rfl rfl
  | cons char rest =>
      refine iff_of_false ?_ (List.cons_ne_nil _ _)
      rw [lowercaseAfter_cons]
      exact List.append_ne_nil_of_left_ne_nil (lowered_at before char rest).ne_nil _

theorem mem_lowercaseAfter {lower : Char} {before : List Char}
    (member : lower ∈ lowercaseAfter before text) :
    lowercaseChar lower = [lower] ∧ ∃ char ∈ text, isBlank lower = isBlank char := by
  induction text generalizing before with
  | nil => cases member
  | cons char rest induction =>
      rw [lowercaseAfter_cons] at member
      rcases List.mem_append.mp member with here | later
      · have facts := lowered_at before char rest
        exact ⟨facts.stays lower here, char, List.mem_cons_self, facts.isBlank lower here⟩
      · rcases induction later with ⟨stays, other, known, same⟩
        exact ⟨stays, other, List.mem_cons_of_mem _ known, same⟩

/-- Text that is in lowercase stays as it is. -/
theorem lowercaseAfter_eq_self (before : List Char)
    (stay : ∀ char ∈ text, lowercaseChar char = [char]) : lowercaseAfter before text = text := by
  induction text generalizing before with
  | nil => rfl
  | cons char rest induction =>
      rcases List.forall_mem_cons.mp stay with ⟨here, later⟩
      rw [lowercaseAfter_cons, lowercaseAt, if_neg (ne_sigma_of_stays here), here,
        induction _ later]
      rfl

/-! ## Blanks between two sides -/

theorem meetsCased_cons (char : Char) (rest : List Char) :
    meetsCased (char :: rest) =
      if inTable caseIgnorableTable char then meetsCased rest else inTable casedTable char := by
  rw [meetsCased, List.dropWhile_cons]
  cases inTable caseIgnorableTable char with
  | false => rfl
  | true => rfl

theorem meetsCased_append (blank : isBlank char = true) (text rest : List Char) :
    meetsCased (text ++ char :: rest) = meetsCased text := by
  induction text with
  | nil =>
      rw [List.nil_append, meetsCased_cons, not_ignorable_of_isBlank blank]
      exact not_cased_of_isBlank blank
  | cons other text induction =>
      rw [List.cons_append, meetsCased_cons, meetsCased_cons, induction]

theorem lowercaseAfter_behind (blank : isBlank char = true) (passed before text : List Char) :
    lowercaseAfter (passed ++ char :: before) text = lowercaseAfter passed text := by
  induction text generalizing passed with
  | nil => rfl
  | cons other rest induction =>
      rw [lowercaseAfter_cons, lowercaseAfter_cons, ← induction (other :: passed), lowercaseAt,
        lowercaseAt, lowercaseSigma, lowercaseSigma, meetsCased_append blank]
      rfl

theorem lowercaseAfter_append (blank : isBlank char = true) (before text rest : List Char) :
    lowercaseAfter before (text ++ char :: rest) =
      lowercaseAfter before text ++ lowercaseAfter (text.reverse ++ before) (char :: rest) := by
  induction text generalizing before with
  | nil => rfl
  | cons other text induction =>
      rw [List.cons_append, lowercaseAfter_cons, lowercaseAfter_cons, induction, lowercaseAt,
        lowercaseAt, lowercaseSigma, lowercaseSigma, meetsCased_append blank, List.reverse_cons,
        List.append_assoc, List.append_assoc]
      rfl

/-- On both sides of a blank, a text goes into lowercase by itself. -/
theorem lowercase_append (blank : isBlank char = true) (text rest : List Char) :
    lowercase (text ++ char :: rest) = lowercase text ++ char :: lowercase rest := by
  have same := (lowered_at (text.reverse ++ []) char rest).blank blank
  have cut := lowercaseAfter_behind blank [] (text.reverse ++ []) rest
  rw [lowercase, lowercaseAfter_append blank, lowercaseAfter_cons, same]
  exact congrArg (lowercase text ++ char :: ·) cut

end Dilemma.Text
