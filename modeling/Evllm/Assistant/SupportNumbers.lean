/-
# Numbers across the support texts

The numbers of a clause are looked for in the support texts joined by spaces.
The literals of the joined text are those of the texts. Its numbers in words are
not where a text begins with words that belong to a number which the texts
before it leave under way: the joined text has a number that no text has, and
lacks the ones that were joined. Where no text does, the numbers of the joined
text are those of the texts.

Key definitions: `NumbersSeparate`.
Key theorems: `NumbersSeparate.numericTokens_join`,
`clauseNumbersSupported_separate`, `numberWordValues_join_iff`.
-/
import Evllm.Assistant.NumberReader

namespace Evllm
namespace Assistant

open Lib Regex Reading

/-! ### The joined text -/

/-- A function that a space parts, of texts joined by spaces. -/
theorem join_eq_flatMap {β : Type} (f : List Char → List β) (hnil : f [] = [])
    (hspace : ∀ a b, f (a ++ ' ' :: b) = f a ++ f b) :
    ∀ texts : List String, f (" ".intercalate texts).toList = texts.flatMap fun text => f text.toList
  | [] => hnil
  | [text] => by simp
  | text :: next :: texts => by
    have ih := join_eq_flatMap f hnil hspace (next :: texts)
    rw [String.toList_intercalate] at ih ⊢
    rw [List.map_cons, List.map_cons, List.intercalate_cons_cons, ← List.map_cons, List.append_assoc]
    rw [List.flatMap_cons, ← ih]
    exact hspace _ _

theorem toLowerCase_space (a b : List Char) : toLowerCase (a ++ ' ' :: b) = toLowerCase a ++ ' ' :: toLowerCase b := by
  have hspace : lowerCase ' ' = [' '] := by decide
  rw [toLowerCase, List.flatMap_append, List.flatMap_cons, hspace]
  rfl

theorem expandContractions_space (a b : List Char) :
    expandContractions (a ++ ' ' :: b) = expandContractions a ++ ' ' :: expandContractions b := by
  have hnegation : ∀ ending ∈ ["'t", "t"], (negationPattern ending).reads ' ' = false := by decide
  have hcannot : cannotPattern.reads ' ' = false := by decide
  rw [expandContractions, toLowerCase_space, replaceAll_append_cons (hnegation _ (by simp)),
    replaceAll_append_cons hcannot, replaceAll_append_cons (hnegation _ (by simp))]
  rfl

theorem wordsOf_space (a b : List Char) : wordsOf (a ++ ' ' :: b) = wordsOf a ++ wordsOf b := by
  have hword : wordPattern.reads ' ' = false := by decide
  rw [wordsOf, expandContractions_space, List.map_append, List.map_cons, if_neg (by decide),
    matchAll_append_cons hword, List.map_append]
  rfl

theorem literalTokens_space (a b : List Char) : literalTokens (a ++ ' ' :: b) = literalTokens a ++ literalTokens b := by
  have hnumber : numberPattern.reads ' ' = false := by decide
  rw [literalTokens, matchAll_append_cons hnumber, List.filter_append, List.map_append]
  rfl

/-- **No text continues a number.** None begins with words that belong to a number
that the texts before it leave under way. -/
def NumbersSeparate (supportTexts : List String) : Prop :=
  reader.EachAfter (fun s words => s.isContinued words = false) closed (supportTexts.map fun text => wordsOf text.toList)

instance (supportTexts : List String) : Decidable (NumbersSeparate supportTexts) :=
  Transducer.instDecidableEachAfter reader closed _

variable {supportTexts : List String}

theorem numberWordValues_eq (value : List Char) : numberWordValues value = reader.runFrom closed (wordsOf value) :=
  numbersFrom_eq _

/-- The words of the joined text are those of the texts. -/
theorem numberWordValues_join_eq (supportTexts : List String) :
    numberWordValues (" ".intercalate supportTexts).toList =
      reader.runFrom closed (supportTexts.map fun text => wordsOf text.toList).flatten := by
  rw [numberWordValues_eq, join_eq_flatMap wordsOf (by decide) wordsOf_space, List.flatMap_def]

theorem flatMap_numberWordValues (supportTexts : List String) :
    (supportTexts.map fun text => wordsOf text.toList).flatMap (reader.runFrom closed) =
      supportTexts.flatMap fun text => numberWordValues text.toList := by
  rw [List.flatMap_map]
  exact List.flatMap_congr fun text _ => (numberWordValues_eq text.toList).symm

theorem NumbersSeparate.numberWordValues_join (h : NumbersSeparate supportTexts) :
    numberWordValues (" ".intercalate supportTexts).toList =
      supportTexts.flatMap fun text => numberWordValues text.toList := by
  have hseparate := Transducer.EachAfter.mono (fun _ _ => separate_of_not_continued) h
  rw [numberWordValues_join_eq, Transducer.runFrom_flatten reader hseparate, ← flatMap_numberWordValues]
  rfl

/-- Then the numbers of the joined text are those of the texts. -/
theorem NumbersSeparate.numericTokens_join (h : NumbersSeparate supportTexts) (number : String) :
    number ∈ numericTokens (" ".intercalate supportTexts) ↔ ∃ text ∈ supportTexts, number ∈ numericTokens text := by
  simp only [numericTokens, h.numberWordValues_join,
    join_eq_flatMap literalTokens (by decide) literalTokens_space, List.mem_toFinset, List.mem_append, List.mem_map,
    List.mem_flatMap]
  constructor
  · rintro (⟨text, htext, hmem⟩ | ⟨value, ⟨text, htext, hmem⟩, heq⟩)
    · exact ⟨text, htext, .inl hmem⟩
    · exact ⟨text, htext, .inr ⟨value, hmem, heq⟩⟩
  · rintro ⟨text, htext, hmem | ⟨value, hmem, heq⟩⟩
    · exact .inl ⟨text, htext, hmem⟩
    · exact .inr ⟨value, ⟨text, htext, hmem⟩, heq⟩

/-- **Numbers are supported by single texts where no text continues a number.** A
number that the joined text supports is one of a single text, and no number of a
text is lost in the joined one. -/
theorem clauseNumbersSupported_separate (h : NumbersSeparate supportTexts) (clause : String) :
    (clauseNumbersSupported clause supportTexts →
        ∀ number ∈ numericTokens clause, ∃ text ∈ supportTexts, number ∈ numericTokens text) ∧
      ∀ text ∈ supportTexts, numericTokens text ⊆ numericTokens (" ".intercalate supportTexts) := by
  constructor
  · intro hsupported number hnumber
    exact (h.numericTokens_join number).mp (hsupported hnumber)
  · intro text htext number hnumber
    exact (h.numericTokens_join number).mpr ⟨text, htext, hnumber⟩

/-! Texts that end and begin with numbers, and a number of two texts. -/

theorem clauseNumbersSupported_separate_hundred :
    NumbersSeparate ["Rated one hundred", "and tested twenty", "times in 3 years"] ∧
      (clauseNumbersSupported "Rated 100" ["Rated one hundred", "and tested twenty", "times in 3 years"] →
        ∀ number ∈ numericTokens "Rated 100",
          ∃ text ∈ ["Rated one hundred", "and tested twenty", "times in 3 years"], number ∈ numericTokens text) ∧
      ∀ text ∈ ["Rated one hundred", "and tested twenty", "times in 3 years"],
        numericTokens text ⊆ numericTokens (" ".intercalate ["Rated one hundred", "and tested twenty", "times in 3 years"]) := by
  have h : NumbersSeparate ["Rated one hundred", "and tested twenty", "times in 3 years"] := by decide +kernel
  exact ⟨h, clauseNumbersSupported_separate h "Rated 100"⟩

theorem clauseNumbersSupported_fused :
    clauseNumbersSupported "Twenty-one cells failed" ["The cells are twenty", "One failed"] ∧
      "21" ∈ numericTokens "Twenty-one cells failed" ∧
      (∀ text ∈ ["The cells are twenty", "One failed"], "21" ∉ numericTokens text) ∧
      "20" ∈ numericTokens "The cells are twenty" ∧ "1" ∈ numericTokens "One failed" ∧
      "20" ∉ numericTokens (" ".intercalate ["The cells are twenty", "One failed"]) ∧
      "1" ∉ numericTokens (" ".intercalate ["The cells are twenty", "One failed"]) := by
  decide +kernel

/-! ### The condition is exact for the order -/

/-- Texts that are read one by one do not continue numbers. -/
theorem eachAfter_of_runFrom {s : Reading} {texts : List (List String)} (hs : s.IsNumber)
    (hplain : ∀ words ∈ texts, ∀ word ∈ words, IsPlain word)
    (h : reader.runFrom s texts.flatten = s.said ++ texts.flatMap (reader.runFrom closed)) :
    reader.EachAfter (fun s words => s.isContinued words = false) s texts := by
  induction texts generalizing s with
  | nil => trivial
  | cons words texts ih =>
    rw [List.flatten_cons, List.flatMap_cons] at h
    have hwords : ∀ word ∈ words, IsPlain word := hplain words (by simp)
    have hfirst : s.isContinued words = false := by
      obtain rfl | ⟨m, hm⟩ := hs
      · cases words <;> rfl
      · by_contra hcontinued
        obtain ⟨k, hk, -, hatLeast⟩ := hm.said_eq
        have hall : ∀ word ∈ words ++ texts.flatten, IsPlain word := by
          intro word hword
          obtain hword | hword := List.mem_append.mp hword
          · exact hwords word hword
          · obtain ⟨later, hlater, hword⟩ := List.mem_flatten.mp hword
            exact hplain later (List.mem_cons_of_mem _ hlater) word hword
        obtain ⟨n, hn, hlt⟩ := runFrom_continued hatLeast hall
          (isContinued_append (Bool.not_eq_false _ ▸ hcontinued) texts.flatten)
        rw [h, hk, List.singleton_append, List.head?_cons] at hn
        cases hn
        exact absurd hlt (lt_irrefl _)
    refine ⟨hfirst, ih (after_isNumber hs hwords) (fun w hw => hplain w (List.mem_cons_of_mem _ hw)) ?_⟩
    have hseparate : reader.runFrom s words = s.said ++ reader.runFrom closed words := separate_of_not_continued hfirst
    have hread : reader.runFrom s words = reader.written s words ++ (reader.after s words).said := rfl
    rw [Transducer.runFrom_append, ← List.append_assoc, ← hseparate, hread, List.append_assoc,
      List.append_cancel_left_eq] at h
    exact h

/-- **The numbers in words are those of the texts, in order, just if no text
continues a number**, where every word of a number changes it. -/
theorem numberWordValues_join_iff (hplain : ∀ text ∈ supportTexts, ∀ word ∈ wordsOf text.toList, IsPlain word) :
    numberWordValues (" ".intercalate supportTexts).toList =
        supportTexts.flatMap (fun text => numberWordValues text.toList) ↔
      NumbersSeparate supportTexts := by
  refine ⟨fun h => ?_, fun h => h.numberWordValues_join⟩
  rw [numberWordValues_join_eq, ← flatMap_numberWordValues] at h
  refine eachAfter_of_runFrom (.inl rfl) (fun words hmem => ?_) h
  obtain ⟨text, htext, rfl⟩ := List.mem_map.mp hmem
  exact hplain text htext

/-- Another text can say the numbers that are joined and the ones that they make. -/
example : ¬NumbersSeparate ["twenty", "one", "20, 1 and 21"] ∧
    numericTokens (" ".intercalate ["twenty", "one", "20, 1 and 21"]) = {"20", "1", "21"} := by
  decide +kernel

end Assistant
end Evllm
