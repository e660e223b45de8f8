import Mathlib.Data.List.Forall2
import Dilemma.Proofs.Interpretation.Backing
import Dilemma.Proofs.Interpretation.Normalization

/-! # Other spellings of a text

Texts that differ in nothing but case and spacing are meant to share a key. They do, but for one
letter: a capital sigma at the end of a word goes into another lowercase letter than a small
sigma is. Two such texts share their key exactly if they have these capital sigmas at the same
places. -/

namespace Dilemma

namespace Text

/-- The characters have the same lowercase mapping, regardless of their places. -/
def SameLetter (left right : Char) : Prop := lowercaseChar left = lowercaseChar right

/-- Word by word and character by character, the texts differ only in case. -/
def Respelled (left right : List Char) : Prop :=
  List.Forall₂ (List.Forall₂ SameLetter) (words left) (words right)

instance : DecidableRel SameLetter :=
  fun left right => inferInstanceAs (Decidable (lowercaseChar left = lowercaseChar right))

instance (left right : List Char) : Decidable (Respelled left right) :=
  inferInstanceAs (Decidable (List.Forall₂ _ _ _))

/-- There is a capital sigma at this position, and it ends a word: there is a cased character
before it and none after it, not counting characters that case ignores. `before` is what lies in
front of the text, nearest first. -/
def EndingSigma (before text : List Char) (position : Nat) : Prop :=
  text[position]? = some 'Σ' ∧ meetsCased ((text.take position).reverse ++ before) = true ∧
    meetsCased (text.drop (position + 1)) = false

/-- The same positions hold a capital sigma that ends the word. -/
def SameEnding (word other : List Char) : Prop :=
  ∀ position, EndingSigma [] word position ↔ EndingSigma [] other position

/-- Every two corresponding words end alike. -/
def SameEndings (left right : List Char) : Prop :=
  List.Forall₂ SameEnding (words left) (words right)

/-! ## One letter -/

theorem endingSigma_zero (before : List Char) (char : Char) (rest : List Char) :
    EndingSigma before (char :: rest) 0 ↔
      char = 'Σ' ∧ meetsCased before = true ∧ meetsCased rest = false := by
  simp [EndingSigma]

theorem endingSigma_succ (before : List Char) (char : Char) (rest : List Char) (position : Nat) :
    EndingSigma before (char :: rest) (position + 1) ↔
      EndingSigma (char :: before) rest position := by
  simp [EndingSigma]

theorem lowercaseChar_sigma : lowercaseChar 'Σ' = ['σ'] := by decide +kernel

theorem lowercaseAt_of_ending {before rest : List Char} {char : Char}
    (ending : EndingSigma before (char :: rest) 0) : lowercaseAt before char rest = ['ς'] := by
  rcases (endingSigma_zero before char rest).mp ending with ⟨sigma, cased, closed⟩
  rw [lowercaseAt, if_pos sigma, lowercaseSigma, cased, closed]
  rfl

theorem lowercaseAt_of_not_ending {before rest : List Char} {char : Char}
    (inner : ¬ EndingSigma before (char :: rest) 0) :
    lowercaseAt before char rest = lowercaseChar char := by
  rw [endingSigma_zero] at inner
  by_cases sigma : char = 'Σ'
  · rw [lowercaseAt, if_pos sigma, sigma, lowercaseChar_sigma, lowercaseSigma, if_neg]
    simpa [sigma] using inner
  · exact if_neg sigma

theorem length_lowercaseAt (before : List Char) (char : Char) (rest : List Char) :
    (lowercaseAt before char rest).length = (lowercaseChar char).length := by
  by_cases ending : EndingSigma before (char :: rest) 0
  · rcases (endingSigma_zero before char rest).mp ending with ⟨rfl, _⟩
    rw [lowercaseAt_of_ending ending, lowercaseChar_sigma]
    rfl
  · rw [lowercaseAt_of_not_ending ending]

/-- The same letter looks the same in lowercase, unless it ends a word on one side only. -/
theorem lowercaseAt_eq_iff {before other rest remaining : List Char} {left right : Char}
    (same : SameLetter left right) :
    lowercaseAt before left rest = lowercaseAt other right remaining ↔
      (EndingSigma before (left :: rest) 0 ↔ EndingSigma other (right :: remaining) 0) := by
  by_cases leftEnds : EndingSigma before (left :: rest) 0 <;>
    by_cases rightEnds : EndingSigma other (right :: remaining) 0
  · simp [lowercaseAt_of_ending leftEnds, lowercaseAt_of_ending rightEnds, leftEnds, rightEnds]
  · rcases (endingSigma_zero before left rest).mp leftEnds with ⟨rfl, _⟩
    rw [lowercaseAt_of_ending leftEnds, lowercaseAt_of_not_ending rightEnds, ← same,
      lowercaseChar_sigma]
    simp [leftEnds, rightEnds]
  · rcases (endingSigma_zero other right remaining).mp rightEnds with ⟨rfl, _⟩
    rw [lowercaseAt_of_not_ending leftEnds, lowercaseAt_of_ending rightEnds, same,
      lowercaseChar_sigma]
    simp [leftEnds, rightEnds]
  · rw [lowercaseAt_of_not_ending leftEnds, lowercaseAt_of_not_ending rightEnds]
    exact iff_of_true same (iff_of_false leftEnds rightEnds)

/-! ## Words and texts -/

theorem lowercaseAfter_eq_iff {left right : List Char}
    (same : List.Forall₂ SameLetter left right) (before other : List Char) :
    lowercaseAfter before left = lowercaseAfter other right ↔
      ∀ position, EndingSigma before left position ↔ EndingSigma other right position := by
  induction same generalizing before other with
  | nil => simp [EndingSigma, lowercaseAfter]
  | @cons left right rest remaining same _ induction =>
      have lengths : (lowercaseAt before left rest).length =
          (lowercaseAt other right remaining).length := by
        rw [length_lowercaseAt, length_lowercaseAt, same]
      rw [lowercaseAfter_cons, lowercaseAfter_cons,
        List.append_eq_append_iff_of_size_eq_left lengths, lowercaseAt_eq_iff same, induction]
      refine Iff.trans ?_ Nat.and_forall_add_one
      simp only [endingSigma_succ]

theorem map_lowercase_eq_iff {left right : List (List Char)}
    (respelled : List.Forall₂ (List.Forall₂ SameLetter) left right) :
    left.map lowercase = right.map lowercase ↔ List.Forall₂ SameEnding left right := by
  induction respelled with
  | nil => simp
  | cons same _ induction =>
      rw [List.map_cons, List.map_cons, List.cons.injEq, List.forall₂_cons, induction, lowercase,
        lowercase, lowercaseAfter_eq_iff same, SameEnding]

theorem sameEndings_of_no_sigma {left right : List Char} (respelled : Respelled left right)
    (none : 'Σ' ∉ left) (noneToo : 'Σ' ∉ right) : SameEndings left right := by
  have absent {text word : List Char} (free : 'Σ' ∉ text) (member : word ∈ words text)
      (position : Nat) : ¬ EndingSigma [] word position := fun ending =>
    free ((words_sound member).2 _ (List.mem_of_getElem? ending.1))
  refine List.forall₂_iff_zip.mpr ⟨respelled.length_eq, fun paired position => ?_⟩
  rcases List.of_mem_zip paired with ⟨word, other⟩
  exact iff_of_false (absent none word position) (absent noneToo other position)

end Text

namespace StrategyKey

theorem ofText_eq_iff (first second : String) :
    ofText first = ofText second ↔
      (Text.words first.toList).map Text.lowercase =
        (Text.words second.toList).map Text.lowercase := by
  rw [← words_normalize, ← words_normalize]
  constructor
  · intro same
    rw [← toList_text_ofText, same, toList_text_ofText]
  · intro same
    rw [ofText, ofText, normalize_eq, normalize_eq, ← words_normalize, same, words_normalize]

/-- Texts that differ in nothing but case and spacing share their key exactly if the same words
end in capital sigmas, so they do if there are none. With a shared key, the second text is served
from the cache behind the first one, whatever happens in between: it plays the same logic, with
the same seed, and nobody is asked. -/
theorem respelled_shares_key (first second : String)
    (respelled : Text.Respelled first.toList second.toList) :
    (ofText first = ofText second ↔ Text.SameEndings first.toList second.toList) ∧
    ('Σ' ∉ first.toList → 'Σ' ∉ second.toList → ofText first = ofText second) ∧
    (ofText first = ofText second →
      (ofText first).fingerprint = (ofText second).fingerprint ∧
      ∀ (State : Type) (interpreter : Interpreter State) (progress : Interpreter.Progress State)
        (name other : String) (calls : List Interpreter.Call),
        let earlier := interpreter.interpret ⟨name, first⟩ progress
        let meanwhile := interpreter.run calls earlier.2
        let later := interpreter.interpret ⟨other, second⟩ meanwhile
        later.1 = earlier.1.rebind ⟨other, second⟩ .cached ∧ later.2 = meanwhile) := by
  have shared : ofText first = ofText second ↔ Text.SameEndings first.toList second.toList := by
    rw [ofText_eq_iff]
    exact Text.map_lowercase_eq_iff respelled
  refine ⟨shared, fun none noneToo =>
      shared.mpr (Text.sameEndings_of_no_sigma respelled none noneToo),
    fun same => ⟨congrArg fingerprint same, ?_⟩⟩
  intro State interpreter progress name other calls earlier meanwhile later
  have course := interpreter.interpret_course ⟨name, first⟩ progress
  rcases course.justified with ⟨entry, stored, found, logic, reason⟩
  have held : meanwhile.cache.get? (ofText second) = some stored := by
    rw [← same]
    rw [entry] at found
    exact interpreter.run_keeps calls found
  have served : later = (stored.rebind ⟨other, second⟩ .cached, meanwhile) :=
    interpreter.interpret_of_hit held
  rw [served]
  refine ⟨?_, rfl⟩
  rw [Competitor.rebind, Competitor.rebind, logic, reason]

/-- Two spellings of one text with the same capital sigma at the end of a word. -/
theorem respelled_shares_key_with_sigma :
    let first := " ΣΑΣ  plays"
    let second := "σαΣ\tPlays"
    Text.Respelled first.toList second.toList ∧
      Text.SameEndings first.toList second.toList ∧
      (ofText first).fingerprint = (ofText second).fingerprint := by
  intro first second
  have respelled : Text.Respelled first.toList second.toList := by decide +kernel
  have same : ofText first = ofText second := by decide +kernel
  rcases respelled_shares_key first second respelled with ⟨shared, _, served⟩
  exact ⟨respelled, shared.mp same, (served same).1⟩

/-- At the end of a word, a small sigma and a capital one do not share a key. -/
theorem respelled_sigma_parts_keys :
    Text.Respelled "ασ".toList "ΑΣ".toList ∧ ofText "ασ" ≠ ofText "ΑΣ" := by
  decide +kernel

end StrategyKey

end Dilemma
