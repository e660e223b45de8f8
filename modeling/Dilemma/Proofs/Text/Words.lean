import Dilemma.Proofs.Text.Lowercase

/-! # Texts and their words

A text falls apart at its blanks, and what lies between them are its words. Spaced words are
read back as they were, so there is one spaced text for all the ways to write some words down.
It does not matter whether a text is put into lowercase before it falls apart or word by word
behind that. -/

namespace Dilemma.Text

/-- Something in it, and nothing blank. -/
structure IsWord (word : List Char) : Prop where
  ne_nil : word ≠ []
  filled : ∀ char ∈ word, isBlank char = false

/-! ## Falling apart -/

variable {char : Char} {text rest : List Char}

theorem words_cons_blank (blank : isBlank char = true) (rest : List Char) :
    words (char :: rest) = words rest := by
  cases rest with
  | nil => exact if_pos blank
  | cons next rest => exact if_pos blank

theorem words_ne_nil (filled : isBlank char = false) (rest : List Char) :
    words (char :: rest) ≠ [] := by
  cases rest with
  | nil => simp [words, filled]
  | cons next rest =>
      rw [words, filled]
      cases isBlank next with
      | true => exact List.cons_ne_nil _ _
      | false =>
          cases words (next :: rest) with
          | nil => exact List.cons_ne_nil _ _
          | cons word others => exact List.cons_ne_nil _ _

/-- Words never reach over a blank. -/
theorem words_append (blank : isBlank char = true) (text rest : List Char) :
    words (text ++ char :: rest) = words text ++ words rest := by
  fun_induction words text with
  | case1 => exact words_cons_blank blank rest
  | case2 other gap =>
      rw [List.singleton_append, words_cons_blank gap, words_cons_blank blank, List.nil_append]
  | case3 other letter =>
      rw [Bool.not_eq_true] at letter
      simp [words, letter, blank, words_cons_blank]
  | case4 other next text gap induction =>
      rw [List.cons_append, words_cons_blank gap]
      exact induction
  | case5 other next text letter gap induction =>
      rw [List.cons_append, List.cons_append, words, if_neg letter, if_pos gap, List.cons_append]
      exact congrArg ([other] :: ·) induction
  | case6 other next text letter following alone induction =>
      exact absurd alone (words_ne_nil ((Bool.not_eq_true _).mp following) text)
  | case7 other next text letter following word others known induction =>
      rw [List.cons_append, List.cons_append, words, if_neg letter, if_neg following,
        ← List.cons_append, induction, known]
      rfl

theorem words_of_isWord (word : IsWord text) : words text = [text] := by
  rcases word with ⟨some, filled⟩
  induction text with
  | nil => exact absurd rfl some
  | cons char rest induction =>
      rcases List.forall_mem_cons.mp filled with ⟨here, later⟩
      cases rest with
      | nil => simp [words, here]
      | cons next rest =>
          have following := later next List.mem_cons_self
          simp [words, here, following, induction (List.cons_ne_nil _ _) later]

/-- A text has no blank, or it has a first one and goes on behind it. -/
theorem inductionByBlanks {motive : List Char → Prop}
    (unbroken : ∀ text, (∀ char ∈ text, isBlank char = false) → motive text)
    (broken : ∀ text char rest, (∀ other ∈ text, isBlank other = false) →
      isBlank char = true → motive rest → motive (text ++ char :: rest))
    (text : List Char) : motive text := by
  have whole := List.takeWhile_append_dropWhile (p := fun char => !isBlank char) (l := text)
  have filled : ∀ char ∈ text.takeWhile fun char => !isBlank char, isBlank char = false :=
    fun char member => by simpa using List.all_eq_true.mp List.all_takeWhile char member
  cases remains : text.dropWhile fun char => !isBlank char with
  | nil =>
      rw [remains, List.append_nil] at whole
      exact unbroken text (whole ▸ filled)
  | cons char rest =>
      have blank : isBlank char = true := by
        have kept := List.head?_dropWhile_not (fun char => !isBlank char) text
        rw [remains] at kept
        simpa using kept
      rw [remains] at whole
      have shorter : rest.length < text.length := by
        rw [← whole, List.length_append, List.length_cons]
        omega
      rw [← whole]
      exact broken _ char rest filled blank (inductionByBlanks unbroken broken rest)
termination_by text.length

/-- Without a blank, a text is one word if it is anything. -/
theorem words_of_filled (filled : ∀ char ∈ text, isBlank char = false) :
    words text = if text = [] then [] else [text] := by
  by_cases empty : text = []
  · rw [if_pos empty, empty, words]
  · rw [if_neg empty]
    exact words_of_isWord ⟨empty, filled⟩

theorem eq_of_mem_words {word : List Char} (filled : ∀ char ∈ text, isBlank char = false)
    (member : word ∈ words text) : text ≠ [] ∧ word = text := by
  rw [words_of_filled filled] at member
  split at member
  · cases member
  · rename_i some
    exact ⟨some, List.mem_singleton.mp member⟩

/-- The words of a text are words, and all that is in them is in the text. -/
theorem words_sound {word : List Char} (member : word ∈ words text) :
    IsWord word ∧ ∀ letter ∈ word, letter ∈ text := by
  induction text using inductionByBlanks with
  | unbroken text filled =>
      rcases eq_of_mem_words filled member with ⟨some, rfl⟩
      exact ⟨⟨some, filled⟩, fun _ inside => inside⟩
  | broken text char rest filled blank induction =>
      rw [words_append blank, List.mem_append] at member
      rcases member with here | later
      · rcases eq_of_mem_words filled here with ⟨some, rfl⟩
        exact ⟨⟨some, filled⟩, fun _ inside => List.mem_append_left _ inside⟩
      · rcases induction later with ⟨proper, behind⟩
        refine ⟨proper, fun letter inside => ?_⟩
        exact List.mem_append_right _ (List.mem_cons_of_mem _ (behind letter inside))

theorem words_eq_nil_iff : words text = [] ↔ ∀ char ∈ text, isBlank char = true := by
  induction text with
  | nil => exact iff_of_true rfl (fun char member => by cases member)
  | cons char rest induction =>
      rw [List.forall_mem_cons, ← induction]
      cases blank : isBlank char with
      | true => simp [words_cons_blank blank]
      | false => simp [words_ne_nil blank]

/-! ## Spaced words -/

theorem spaced_cons (word : List Char) {others : List (List Char)} (some : others ≠ []) :
    spaced (word :: others) = word ++ ' ' :: spaced others := by
  cases others with
  | nil => exact absurd rfl some
  | cons next rest => rfl

theorem mem_spaced {list : List (List Char)} (member : char ∈ spaced list) :
    char = ' ' ∨ ∃ word ∈ list, char ∈ word := by
  fun_induction spaced list with
  | case1 => cases member
  | case2 word => exact .inr ⟨word, List.mem_cons_self, member⟩
  | case3 word next rest induction =>
      rcases List.mem_append.mp member with here | later
      · exact .inr ⟨word, List.mem_cons_self, here⟩
      · rcases List.mem_cons.mp later with space | behind
        · exact .inl space
        · rcases induction behind with space | ⟨other, known, inside⟩
          · exact .inl space
          · exact .inr ⟨other, List.mem_cons_of_mem _ known, inside⟩

/-- Spaced words are read back. -/
theorem words_spaced {list : List (List Char)} (proper : ∀ word ∈ list, IsWord word) :
    words (spaced list) = list := by
  induction list with
  | nil => rfl
  | cons word others induction =>
      rcases List.forall_mem_cons.mp proper with ⟨here, later⟩
      by_cases alone : others = []
      · rw [alone]
        exact words_of_isWord here
      · rw [spaced_cons word alone, words_append rfl, words_of_isWord here, induction later]
        rfl

/-- Every blank is a space, with characters on both sides that are not blank. -/
def SinglySpaced (text : List Char) : Prop :=
  ∀ before blank after, text = before ++ blank :: after → isBlank blank = true →
    blank = ' ' ∧ (∃ char, before.getLast? = some char ∧ isBlank char = false) ∧
      ∃ char, after.head? = some char ∧ isBlank char = false

theorem IsWord.exists_head? (word : IsWord text) :
    ∃ char, text.head? = some char ∧ isBlank char = false := by
  cases text with
  | nil => exact absurd rfl word.ne_nil
  | cons char rest => exact ⟨char, rfl, word.filled char List.mem_cons_self⟩

theorem IsWord.exists_getLast? (word : IsWord text) :
    ∃ char, text.getLast? = some char ∧ isBlank char = false :=
  ⟨text.getLast word.ne_nil, List.getLast?_eq_some_getLast word.ne_nil,
    word.filled _ (List.getLast_mem word.ne_nil)⟩

theorem exists_head?_spaced {list : List (List Char)} (nonempty : list ≠ [])
    (proper : ∀ word ∈ list, IsWord word) :
    ∃ char, (spaced list).head? = some char ∧ isBlank char = false := by
  cases list with
  | nil => exact absurd rfl nonempty
  | cons word others =>
      rcases (proper word List.mem_cons_self).exists_head? with ⟨char, first, filled⟩
      refine ⟨char, ?_, filled⟩
      by_cases alone : others = []
      · rw [alone]
        exact first
      · rw [spaced_cons word alone, List.head?_append, first]
        rfl

/-- The first blank behind a word is the space that follows it. -/
theorem blank_behind_word {word before after : List Char} {blank : Char}
    (filled : ∀ char ∈ word, isBlank char = false) (gap : isBlank blank = true)
    (whole : word ++ ' ' :: rest = before ++ blank :: after) :
    (before = word ∧ blank = ' ' ∧ after = rest) ∨
      ∃ passed, before = word ++ ' ' :: passed ∧ rest = passed ++ blank :: after := by
  induction word generalizing before with
  | nil =>
      cases before with
      | nil =>
          cases whole
          exact .inl ⟨rfl, rfl, rfl⟩
      | cons char passed =>
          cases whole
          exact .inr ⟨passed, rfl, rfl⟩
  | cons letter word induction =>
      rcases List.forall_mem_cons.mp filled with ⟨here, later⟩
      cases before with
      | nil =>
          cases whole
          cases here.symm.trans gap
      | cons char before =>
          rw [List.cons_append, List.cons_append, List.cons.injEq] at whole
          rcases whole with ⟨rfl, others⟩
          rcases induction later others with ⟨rfl, space, same⟩ | ⟨passed, rfl, remains⟩
          · exact .inl ⟨rfl, space, same⟩
          · exact .inr ⟨passed, rfl, remains⟩

theorem singlySpaced_spaced {list : List (List Char)} (proper : ∀ word ∈ list, IsWord word) :
    SinglySpaced (spaced list) := by
  induction list with
  | nil =>
      intro before blank after whole
      cases List.append_ne_nil_of_right_ne_nil before (List.cons_ne_nil blank after) whole.symm
  | cons word others induction =>
      intro before blank after whole gap
      rcases List.forall_mem_cons.mp proper with ⟨here, later⟩
      rcases here.exists_getLast? with ⟨last, ends, filled⟩
      by_cases alone : others = []
      · subst alone
        have among : blank ∈ word := (congrArg (blank ∈ ·) whole).mpr (by simp)
        cases (here.filled blank among).symm.trans gap
      · rw [spaced_cons word alone] at whole
        rcases blank_behind_word here.filled gap whole with
          ⟨rfl, rfl, rfl⟩ | ⟨passed, rfl, remains⟩
        · exact ⟨rfl, ⟨last, ends, filled⟩, exists_head?_spaced alone later⟩
        · rcases induction later passed blank after remains gap with
            ⟨space, ⟨char, before, letter⟩, next⟩
          refine ⟨space, ⟨char, ?_, letter⟩, next⟩
          rw [List.getLast?_append, List.getLast?_cons, before]
          rfl

/-! ## Words in lowercase -/

theorem filled_lowercase (filled : ∀ char ∈ text, isBlank char = false) :
    ∀ lower ∈ lowercase text, isBlank lower = false := by
  intro lower member
  rcases mem_lowercaseAfter member with ⟨_, char, known, same⟩
  rw [same, filled char known]

theorem isWord_lowercase (word : IsWord text) : IsWord (lowercase text) :=
  ⟨fun empty => word.ne_nil ((lowercaseAfter_eq_nil_iff []).mp empty),
    filled_lowercase word.filled⟩

theorem words_lowercase_of_filled (filled : ∀ char ∈ text, isBlank char = false) :
    words (lowercase text) = (words text).map lowercase := by
  by_cases empty : text = []
  · rw [empty]
    rfl
  · have word : IsWord text := ⟨empty, filled⟩
    rw [words_of_isWord word, words_of_isWord (isWord_lowercase word)]
    rfl

theorem words_lowercase (text : List Char) :
    words (lowercase text) = (words text).map lowercase := by
  induction text using inductionByBlanks with
  | unbroken text filled => exact words_lowercase_of_filled filled
  | broken text char rest filled blank induction =>
      rw [lowercase_append blank, words_append blank, words_append blank, List.map_append,
        induction, words_lowercase_of_filled filled]

end Dilemma.Text
