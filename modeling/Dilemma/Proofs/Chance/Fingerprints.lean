import Mathlib.Logic.Function.Basic
import Dilemma.Interpretation.Interpreter
import Dilemma.Proofs.Chance.Streams
import Dilemma.Proofs.Rule.Acceptance

/-! # Fingerprints of near texts

No step of a fingerprint loses anything: from the state after a byte, the state before it can be
told, and the byte if that state is known. So two states are kept apart by whatever bytes follow
them, and texts that differ in a single byte have different fingerprints. -/

namespace Dilemma

/-! ## One difference -/

/-- The byte strings have the same length, and their bytes are the same at all places but one. -/
def DifferOnce (left right : List UInt8) : Prop :=
  left.length = right.length ∧ ∃ place : Nat, left[place]? ≠ right[place]? ∧
    ∀ other, other ≠ place → left[other]? = right[other]?

theorem differOnce_exchange (earlier later : List UInt8) {byte other : UInt8}
    (different : byte ≠ other) :
    DifferOnce (earlier ++ [byte] ++ later) (earlier ++ [other] ++ later) := by
  refine ⟨by simp only [List.length_append, List.length_singleton], earlier.length, ?_, ?_⟩
  · simp [different]
  · intro place elsewhere
    rw [List.append_assoc, List.append_assoc]
    rcases Nat.lt_or_gt_of_ne elsewhere with before | behind
    · rw [List.getElem?_append_left before, List.getElem?_append_left before]
    · have distance : place - earlier.length = place - (earlier.length + 1) + 1 := by omega
      rw [List.getElem?_append_right (Nat.le_of_lt behind),
        List.getElem?_append_right (Nat.le_of_lt behind), distance]
      rfl

theorem DifferOnce.exists_parts {left right : List UInt8} (once : DifferOnce left right) :
    ∃ earlier byte other later, left = earlier ++ [byte] ++ later ∧
      right = earlier ++ [other] ++ later ∧ byte ≠ other := by
  rcases once with ⟨lengths, place, different, elsewhere⟩
  have within : place < left.length := by
    refine Nat.lt_of_not_le fun beyond => different ?_
    rw [List.getElem?_eq_none beyond, List.getElem?_eq_none (lengths ▸ beyond)]
  have rightWithin : place < right.length := lengths ▸ within
  have earlier : left.take place = right.take place := by
    refine List.ext_getElem? fun smaller => ?_
    rw [List.getElem?_take, List.getElem?_take]
    split
    · rename_i less
      exact elsewhere smaller (Nat.ne_of_lt less)
    · rfl
  have later : left.drop (place + 1) = right.drop (place + 1) := by
    refine List.ext_getElem? fun further => ?_
    rw [List.getElem?_drop, List.getElem?_drop]
    exact elsewhere _ (by omega)
  refine ⟨left.take place, left[place], right[place], left.drop (place + 1), ?_, ?_, ?_⟩
  · rw [List.append_assoc, List.singleton_append, List.getElem_cons_drop, List.take_append_drop]
  · rw [earlier, later, List.append_assoc, List.singleton_append, List.getElem_cons_drop,
      List.take_append_drop]
  · intro same
    apply different
    rw [List.getElem?_eq_getElem within, List.getElem?_eq_getElem rightWithin, same]

namespace Fingerprint

/-! ## Steps -/

/-- The factor of every step can be undone. -/
theorem eq_of_multiplied {left right : UInt64}
    (same : left * 0x100000001b3 = right * 0x100000001b3) : left = right := by
  have unit : (0x100000001b3 : UInt64) * 0xce965057aff6957b = 1 := by decide
  exact eq_of_mul_eq unit same

theorem absorb_eq_iff_state {left right : UInt64} (byte : UInt8) :
    absorb left byte = absorb right byte ↔ left = right := by
  refine ⟨fun same => ?_, fun same => by rw [same]⟩
  exact (UInt64.xor_left_inj byte.toUInt64).mp (eq_of_multiplied same)

theorem absorb_eq_iff_byte {byte other : UInt8} (state : UInt64) :
    absorb state byte = absorb state other ↔ byte = other := by
  refine ⟨fun same => ?_, fun same => by rw [same]⟩
  have words := (UInt64.xor_right_inj state).mp (eq_of_multiplied same)
  have numbers := congrArg UInt64.toNat words
  rw [UInt8.toNat_toUInt64, UInt8.toNat_toUInt64] at numbers
  exact UInt8.toNat_inj.mp numbers

/-- Whatever bytes follow, they keep two states apart. -/
theorem foldl_absorb_eq_iff (later : List UInt8) {left right : UInt64} :
    later.foldl absorb left = later.foldl absorb right ↔ left = right := by
  induction later generalizing left right with
  | nil => exact Iff.rfl
  | cons byte rest induction =>
      rw [List.foldl_cons, List.foldl_cons, induction, absorb_eq_iff_state]

/-! ## Byte strings -/

theorem fingerprint_exchange (earlier later : List UInt8) (byte other : UInt8) :
    fingerprint (earlier ++ [byte] ++ later) = fingerprint (earlier ++ [other] ++ later) ↔
      byte = other := by
  simp only [fingerprint, List.foldl_append, foldl_absorb_eq_iff]
  exact absorb_eq_iff_byte _

theorem fingerprint_ne {left right : List UInt8} (once : DifferOnce left right) :
    fingerprint left ≠ fingerprint right := by
  rcases once.exists_parts with ⟨earlier, byte, other, later, rfl, rfl, different⟩
  exact fun same => different ((fingerprint_exchange earlier later byte other).mp same)

/-! ## Seeds -/

/-- Whatever a text is interpreted to has the fingerprint of its key for a seed. -/
theorem seed_logicOf {key : StrategyKey} {answer : Answer} {logic : Logic}
    (meant : Interpreter.logicOf key answer = .ok logic) : logic.seed? = some key.fingerprint := by
  rcases Interpreter.logicOf_cases meant with
    ⟨draft, rule, -, accepted, rfl⟩ | ⟨name, template, -, -, rfl⟩
  · exact congrArg some (RuleDraft.check_eq_ok.mp accepted).2.2.2
  · rfl

/-- The state before any bytes can be told from the fingerprint after them. So two byte strings
part for good where they differ in one byte, and texts whose keys differ so have different
fingerprints and different seeds for their random moves. -/
theorem near_texts_apart :
    (∀ later : List UInt8, Function.Injective fun state => later.foldl absorb state) ∧
    (∀ (earlier later : List UInt8) (byte other : UInt8), byte ≠ other →
      fingerprint (earlier ++ [byte] ++ later) ≠ fingerprint (earlier ++ [other] ++ later)) ∧
    ∀ left right : String,
      let key := StrategyKey.ofText left
      let other := StrategyKey.ofText right
      DifferOnce key.text.toUTF8.toList other.text.toUTF8.toList →
        key.fingerprint ≠ other.fingerprint ∧
        ∀ answer another logic otherLogic, Interpreter.logicOf key answer = .ok logic →
          Interpreter.logicOf other another = .ok otherLogic →
          logic.seed? ≠ otherLogic.seed? := by
  refine ⟨fun later left right same => (foldl_absorb_eq_iff later).mp same,
    fun earlier later byte other different same => ?_, fun left right => ?_⟩
  · exact different ((fingerprint_exchange earlier later byte other).mp same)
  · intro key other once
    have apart : key.fingerprint ≠ other.fingerprint := fingerprint_ne once
    refine ⟨apart, fun answer another logic otherLogic meant otherMeant same => apart ?_⟩
    rw [seed_logicOf meant, seed_logicOf otherMeant] at same
    exact Option.some.inj same

/-- Two coins that differ in one digit are not thrown alike. -/
theorem near_texts_apart_coins :
    let key := StrategyKey.ofText "Coin  1"
    let other := StrategyKey.ofText "coin 2 "
    DifferOnce key.text.toUTF8.toList other.text.toUTF8.toList ∧
      key.fingerprint ≠ other.fingerprint ∧
      ∃ logic otherLogic, Interpreter.logicOf key (.template "random") = .ok logic ∧
        Interpreter.logicOf other (.template "random") = .ok otherLogic ∧
        logic.seed? ≠ otherLogic.seed? ∧ fingerprint [0, 1, 0] ≠ fingerprint [0, 2, 0] := by
  intro key other
  have once : DifferOnce key.text.toUTF8.toList other.text.toUTF8.toList := by
    have first : key.text.toUTF8.toList = [99, 111, 105, 110, 32, 49] := by decide +kernel
    have second : other.text.toUTF8.toList = [99, 111, 105, 110, 32, 50] := by decide +kernel
    rw [first, second]
    exact differOnce_exchange [99, 111, 105, 110, 32] [] (by decide)
  have apart := near_texts_apart.2.2 "Coin  1" "coin 2 " once
  exact ⟨once, apart.1, _, _, rfl, rfl,
    apart.2 (.template "random") (.template "random") _ _ rfl rfl,
    near_texts_apart.2.1 [0] [0] 1 2 (by decide)⟩

end Fingerprint

end Dilemma
