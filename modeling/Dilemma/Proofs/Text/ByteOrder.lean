import Mathlib.Data.List.Lex

/-! # The order of bytes

Texts are ordered by their code points. The bytes of a character grow with its code point, first
in the leading byte and then in the ones behind it, so the bytes of texts are ordered in the same
way. -/

namespace Dilemma.Text

/-- The bytes of a text in UTF-8. -/
def bytes (text : String) : List UInt8 := text.toUTF8.data.toList

theorem bytes_eq (text : String) : bytes text = text.toList.flatMap String.utf8EncodeChar := by
  rw [← String.ofList_toList (s := text), bytes, String.toUTF8_eq_toByteArray,
    String.toByteArray_ofList, List.utf8Encode, List.toList_data_toByteArray, String.toList_ofList]

/-- Byte strings are compared at the first place where they differ, or by their lengths. -/
def BytesLess : List UInt8 → List UInt8 → Prop :=
  List.Lex fun byte other => byte.toNat < other.toNat

theorem BytesLess.irrefl (row : List UInt8) : ¬BytesLess row row :=
  List.lex_irrefl (fun byte => Nat.lt_irrefl byte.toNat) row

theorem BytesLess.asymm {row other : List UInt8} (less : BytesLess row other) :
    ¬BytesLess other row :=
  List.lex_asymm (fun less => Nat.lt_asymm less) less

/-! ## Bytes of a number -/

/-- Numbers below the bound have leading bytes in a range, and of two of them the smaller one has
the smaller bytes, whatever follows. -/
structure Grows (bound low high : Nat) (encode : Nat → List UInt8) : Prop where
  leads : ∀ code < bound, ∃ lead tail, encode code = lead :: tail ∧
    low ≤ lead.toNat ∧ lead.toNat < high
  grows : ∀ code next, code < next → next < bound → ∀ rest others,
    BytesLess (encode code ++ rest) (encode next ++ others)

namespace Grows

variable {bound low high : Nat}

/-- A single byte. -/
theorem leading {byte : Nat → Nat} (small : high ≤ 256)
    (within : ∀ code < bound, low ≤ byte code ∧ byte code < high)
    (strict : ∀ code next, code < next → next < bound → byte code < byte next) :
    Grows bound low high fun code => [UInt8.ofNat (byte code)] := by
  have known : ∀ code < bound, (UInt8.ofNat (byte code)).toNat = byte code := fun code below =>
    UInt8.toNat_ofNat_of_lt' (Nat.lt_of_lt_of_le (within code below).2 small)
  constructor
  · intro code below
    refine ⟨_, _, rfl, ?_⟩
    rw [known code below]
    exact within code below
  · intro code next less below rest others
    refine .rel ?_
    rw [known code (Nat.lt_trans less below), known next below]
    exact strict code next less below

/-- One more byte, which holds the last six bits. -/
theorem continued {encode : Nat → List UInt8} (earlier : Grows bound low high encode) :
    Grows (bound * 64) low high
      fun code => encode (code / 64) ++ [UInt8.ofNat (code % 64 + 0x80)] := by
  have known : ∀ code : Nat, (UInt8.ofNat (code % 64 + 0x80)).toNat = code % 64 + 0x80 :=
    fun code => UInt8.toNat_ofNat_of_lt' (show code % 64 + 0x80 < 256 by omega)
  constructor
  · intro code below
    rcases earlier.leads (code / 64) (by omega) with ⟨lead, tail, same, range⟩
    rw [same]
    exact ⟨lead, _, rfl, range⟩
  · intro code next less below rest others
    rw [List.append_assoc, List.append_assoc]
    rcases Nat.lt_or_eq_of_le (Nat.div_le_div_right (c := 64) (Nat.le_of_lt less)) with
      before | same
    · exact earlier.grows _ _ before (by omega) _ _
    · rw [same]
      refine List.Lex.append_left _ (.rel ?_) _
      rw [known, known]
      omega

/-- Greater numbers have other bytes, with greater ones to lead them. -/
theorem either {limit middle least : Nat} {short long : Nat → List UInt8}
    (below : Grows (limit + 1) low middle short) (above : Grows bound least high long)
    (lowest : low ≤ least) (apart : middle ≤ least) (highest : middle ≤ high) :
    Grows bound low high fun code => if code ≤ limit then short code else long code := by
  constructor
  · intro code within
    split
    · rename_i small
      rcases below.leads code (Nat.lt_succ_of_le small) with ⟨lead, tail, same, range⟩
      exact ⟨lead, tail, same, range.1, Nat.lt_of_lt_of_le range.2 highest⟩
    · rcases above.leads code within with ⟨lead, tail, same, range⟩
      exact ⟨lead, tail, same, Nat.le_trans lowest range.1, range.2⟩
  · intro code next less within rest others
    by_cases small : code ≤ limit
    · rw [if_pos small]
      split
      · rename_i alike
        exact below.grows code next less (Nat.lt_succ_of_le alike) rest others
      · rcases below.leads code (Nat.lt_succ_of_le small) with ⟨lead, tail, same, range⟩
        rcases above.leads next within with ⟨greater, later, known, range⟩
        rw [same, known]
        exact .rel (by omega)
    · rw [if_neg small, if_neg (by omega)]
      exact above.grows code next less within rest others

end Grows

/-! ## Characters and texts -/

/-- The bytes of a code point: the more it needs, the greater is the first. -/
theorem grows_utf8 : ∃ encode, Grows 0x200000 0 0xf8 encode ∧
    ∀ char : Char, String.utf8EncodeChar char = encode char.val.toNat := by
  have one : Grows 0x80 0 0x80 fun code => [UInt8.ofNat code] :=
    .leading (by decide) (by omega) (by omega)
  have two : Grows 0x20 0xc0 0xe0 fun code => [UInt8.ofNat (code % 0x20 + 0xc0)] :=
    .leading (by decide) (by omega) (by omega)
  have three : Grows 0x10 0xe0 0xf0 fun code => [UInt8.ofNat (code % 0x10 + 0xe0)] :=
    .leading (by decide) (by omega) (by omega)
  have four : Grows 0x08 0xf0 0xf8 fun code => [UInt8.ofNat (code % 0x08 + 0xf0)] :=
    .leading (by decide) (by omega) (by omega)
  have second := two.continued
  have third := three.continued.continued
  have fourth := four.continued.continued.continued
  simp only [Nat.div_div_eq_div_mul] at third fourth
  have longest := third.either fourth (by decide) (by decide) (by decide)
  have longer := second.either longest (by decide) (by decide) (by decide)
  exact ⟨_, one.either longer (by decide) (by decide) (by decide), fun char => rfl⟩

/-- The bytes of a character settle the order. -/
theorem bytesLess_encoded {char other : Char} (less : char < other) (rest others : List UInt8) :
    BytesLess (String.utf8EncodeChar char ++ rest) (String.utf8EncodeChar other ++ others) := by
  have valid : other.val.toNat < 0x200000 := by
    rcases other.valid with low | ⟨_, high⟩
    · exact Nat.lt_trans low (by decide)
    · exact Nat.lt_trans high (by decide)
  rcases grows_utf8 with ⟨encode, grows, known⟩
  rw [known, known]
  exact grows.grows _ _ less valid rest others

theorem bytesLess_flatMap {left right : List Char} (less : List.Lex (· < ·) left right) :
    BytesLess (left.flatMap String.utf8EncodeChar) (right.flatMap String.utf8EncodeChar) := by
  induction less with
  | @nil char rest =>
      rw [List.flatMap_nil, List.flatMap_cons]
      cases known : String.utf8EncodeChar char with
      | nil => exact absurd known String.utf8EncodeChar_ne_nil
      | cons lead tail => exact .nil
  | rel less => exact bytesLess_encoded less _ _
  | cons _ induction => exact List.Lex.append_left _ induction _

/-- Texts are in the order of their bytes. -/
theorem bytesLess_iff {left right : String} :
    BytesLess (bytes left) (bytes right) ↔ left < right := by
  have forward {left right : String} (less : left < right) :
      BytesLess (bytes left) (bytes right) := by
    rw [bytes_eq, bytes_eq]
    exact bytesLess_flatMap less
  refine ⟨fun bytesLess => Decidable.byContradiction fun notLess => ?_, forward⟩
  rcases Decidable.em (left = right) with rfl | different
  · exact BytesLess.irrefl _ bytesLess
  · have greater := Std.lt_of_le_of_ne (String.not_lt.mp notLess) (Ne.symm different)
    exact bytesLess.asymm (forward greater)

end Dilemma.Text
