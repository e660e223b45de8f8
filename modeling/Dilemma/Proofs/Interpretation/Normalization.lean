import Dilemma.Interpretation.Script
import Dilemma.Proofs.Text.Words

/-! # Normalised texts

A key is the spaced form of the lowercase words of its text. Nothing in it is left to be
normalised, so whoever normalises a request again comes to the key that it was made for. -/

namespace Dilemma.StrategyKey

open Text (words spaced lowercase)

theorem normalize_eq (text : List Char) : normalize text = spaced ((words text).map lowercase) := by
  rw [normalize, Text.words_lowercase]

theorem isWord_of_mem_lowercase {text word : List Char}
    (member : word ∈ (words text).map lowercase) : Text.IsWord word := by
  rcases List.mem_map.mp member with ⟨_, known, rfl⟩
  exact Text.isWord_lowercase (Text.words_sound known).1

theorem words_normalize (text : List Char) :
    words (normalize text) = (words text).map lowercase := by
  rw [normalize_eq]
  exact Text.words_spaced fun word => isWord_of_mem_lowercase

theorem lowercase_normalize (text : List Char) : lowercase (normalize text) = normalize text := by
  refine Text.lowercaseAfter_eq_self [] fun char member => ?_
  rw [normalize_eq] at member
  rcases Text.mem_spaced member with rfl | ⟨word, known, inside⟩
  · rfl
  · rcases List.mem_map.mp known with ⟨_, _, rfl⟩
    exact (Text.mem_lowercaseAfter inside).1

theorem normalize_normalize (text : List Char) : normalize (normalize text) = normalize text := by
  rw [normalize, lowercase_normalize, words_normalize, ← normalize_eq]

theorem normalize_eq_nil_iff (text : List Char) :
    normalize text = [] ↔ ∀ char ∈ text, Text.isBlank char = true := by
  rw [← Text.words_eq_nil_iff]
  constructor
  · intro empty
    have none := words_normalize text
    rw [empty] at none
    exact List.map_eq_nil_iff.mp none.symm
  · intro none
    rw [normalize_eq, none]
    rfl

@[simp] theorem toList_text_ofText (text : String) :
    (ofText text).text.toList = normalize text.toList :=
  String.toList_ofList

theorem ofText_text (text : String) : ofText (ofText text).text = ofText text := by
  rw [ofText, toList_text_ofText, normalize_normalize, ofText]

/-- A key is in normal form: it is its own key, it has the words of its text with nothing but a
space between two of them, and a script that normalises the request for it looks up this key. -/
theorem canonical_ofText (text : String) :
    let key := ofText text
    ofText key.text = key ∧
      Text.SinglySpaced key.text.toList ∧
      (key.text = "" ↔ ∀ char ∈ text.toList, Text.isBlank char = true) ∧
      (words key.text.toList).length = (words text.toList).length ∧
      ∀ (script : Script) (delay : Duration),
        let taken := { script with calls := script.calls + 1 }.take key
        (Script.translator delay).translate (.ofKey key) script =
          (⟨.returns taken.1, delay, []⟩, taken.2) := by
  intro key
  refine ⟨ofText_text text, ?_, ?_, ?_, ?_⟩
  · rw [toList_text_ofText, normalize_eq]
    exact Text.singlySpaced_spaced fun word => isWord_of_mem_lowercase
  · rw [← String.toList_eq_nil_iff, toList_text_ofText, normalize_eq_nil_iff]
  · rw [toList_text_ofText, words_normalize, List.length_map]
  · intro script delay taken
    have same : ofText (Request.ofKey key).text = key := ofText_text text
    simp only [Script.translator, Script.answer, same, taken]

end Dilemma.StrategyKey
