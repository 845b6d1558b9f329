/-
# Reading numbers word by word

The loop over the words of a text looks ahead for what belongs to a number. A
transducer reads the same numbers word by word (`numbersFrom_eq`): its state is
the number under way. Words that do not continue that number are read afresh
(`separate_of_not_continued`), and a number that is continued becomes larger
(`runFrom_continued`).

Key definitions: `Reading`, `reader`, `Reading.isContinued`.
Key theorems: `separate_of_not_continued`, `numbersFrom_eq`, `runFrom_continued`.
-/
import Evllm.Assistant.NumericTokens
import Evllm.Lib.Transducer

namespace Evllm
namespace Assistant

open Lib

/-! ### Reading word by word -/

/-- The number under way: a number with what it would be as hundreds and whether
a unit may follow, or hundreds with what follows them still open. -/
inductive Reading
  | closed
  | number (value : NumberValue) (hundreds : Option NumberValue) (takesUnit : Bool)
  | hundred (value : NumberValue) (passedAnd : Bool)
deriving DecidableEq

namespace Reading

/-- The number as it stands. -/
def said : Reading → List NumberValue
  | closed => []
  | number value _ _ => [value]
  | hundred value _ => [value]

/-- A word that belongs to the number. -/
def extend : Reading → String → Option Reading
  | closed, _ => none
  | number value hundreds takesUnit, word =>
    if word = "hundred" then hundreds.map fun value => hundred value false
    else if takesUnit then (smallUnit word).map fun unit => number (value.add unit) none false
    else none
  | hundred value passedAnd, word =>
    if word = "and" ∧ passedAnd = false then some (hundred value true)
    else
      match tens word, units word with
      | some ten, _ => some (number (value.add ten) none true)
      | none, some unit => some (number (value.add unit) none false)
      | none, none => none

/-- A number that begins with a word. -/
def start (word : String) : Reading :=
  match units word, tens word with
  | unit, some ten => number ten (unit.map NumberValue.hundredfold) true
  | some unit, none => number unit (some unit.hundredfold) false
  | none, none => closed

/-- Whether the first words belong to the number. An `and` does with what follows
it. -/
def isContinued (s : Reading) : List String → Bool
  | [] => false
  | word :: words =>
    match s.extend word with
    | none => false
    | some (hundred value true) => words.head?.any fun next => ((hundred value true).extend next).isSome
    | some _ => true

end Reading

open Reading

def reader : Transducer Reading String NumberValue where
  initial := closed
  step s word :=
    match s.extend word with
    | some s' => ([], s')
    | none => (s.said, start word)
  flush := said

section Reader

variable {s s' : Reading} {word : String} {words : List String} {value : NumberValue}

theorem runFrom_extend (h : s.extend word = some s') : reader.runFrom s (word :: words) = reader.runFrom s' words := by
  rw [Transducer.runFrom_cons]
  simp only [reader, h, List.nil_append]

theorem runFrom_start (h : s.extend word = none) :
    reader.runFrom s (word :: words) = s.said ++ reader.runFrom (start word) words := by
  rw [Transducer.runFrom_cons]
  simp only [reader, h]

theorem runFrom_closed : reader.runFrom closed (word :: words) = reader.runFrom (start word) words :=
  runFrom_start rfl

/-- Without a word that belongs to it, the number is said and the words are read
afresh. -/
theorem runFrom_of_none (h : ∀ word ∈ words.head?, s.extend word = none) :
    reader.runFrom s words = s.said ++ reader.runFrom closed words := by
  cases words with
  | nil => exact (List.append_nil _).symm
  | cons word words => rw [runFrom_start (h word rfl), runFrom_closed]

theorem start_of_none (hunit : units word = none) (hten : tens word = none) : start word = closed := by
  simp only [start, hunit, hten]

/-- Only an `and` after a hundred leaves the number as it is. -/
theorem extend_and_eq (h : s.extend word = some (hundred value true)) : s = hundred value false ∧ word = "and" := by
  cases s with
  | closed => cases h
  | number v hundreds takesUnit =>
    simp only [extend] at h
    split_ifs at h
    · obtain ⟨_, -, heq⟩ := Option.map_eq_some_iff.mp h
      cases heq
    · obtain ⟨_, -, heq⟩ := Option.map_eq_some_iff.mp h
      cases heq
  | hundred v passedAnd =>
    simp only [extend] at h
    split_ifs at h with hand
    · cases h
      exact ⟨by rw [hand.2], hand.1⟩
    · split at h <;> cases h

theorem start_and : start "and" = closed := by decide

/-- **Words that do not continue the number are separate from it.** -/
theorem separate_of_not_continued (h : s.isContinued words = false) : reader.Separate s words := by
  change reader.runFrom s words = s.said ++ reader.runFrom closed words
  cases words with
  | nil => exact (List.append_nil _).symm
  | cons word words =>
    cases hextend : s.extend word with
    | none => rw [runFrom_start hextend, runFrom_closed]
    | some s' =>
      simp only [isContinued, hextend] at h
      split at h
      next heq => cases heq
      next value heq =>
        cases heq
        obtain ⟨rfl, rfl⟩ := extend_and_eq hextend
        have hnext : ∀ word ∈ words.head?, (hundred value true).extend word = none := by
          intro next hmem
          obtain ⟨rest, rfl⟩ := List.head?_eq_some_iff.mp hmem
          simpa using h
        rw [runFrom_extend hextend, runFrom_of_none hnext, runFrom_closed, start_and]
        rfl
      next => cases h

/-! ### The loop -/

theorem smallUnit_hundred : smallUnit "hundred" = none := by decide

theorem runFrom_whole (value : NumberValue) (words : List String) :
    reader.runFrom (number value none false) words = value :: reader.runFrom closed words := by
  refine runFrom_of_none (s := number value none false) fun word _ => ?_
  simp [extend]

/-- The tens with what follows them. -/
theorem runFrom_tens (value : NumberValue) (words : List String) :
    reader.runFrom (number value none true) words =
      (afterTens value words).1 :: reader.runFrom closed (words.drop (afterTens value words).2) := by
  cases hunit : words.head?.bind smallUnit with
  | none =>
    simp only [afterTens, hunit, List.drop_zero]
    refine runFrom_of_none (s := number value none true) fun word hword => ?_
    rw [hword, Option.bind_some] at hunit
    simp [extend, hunit]
  | some unit =>
    obtain ⟨word, hhead, hword⟩ := Option.bind_eq_some_iff.mp hunit
    obtain ⟨rest, rfl⟩ := List.head?_eq_some_iff.mp hhead
    have hne : word ≠ "hundred" := by
      rintro rfl
      cases smallUnit_hundred.symm.trans hword
    have hextend : (number value none true).extend word = some (number (value.add unit) none false) := by
      simp [extend, hne, hword]
    simp only [afterTens, hunit, List.drop_succ_cons, List.drop_zero]
    rw [runFrom_extend hextend, runFrom_whole]

/-- The hundreds with what follows them, past an `and`. -/
theorem runFrom_hundred (value : NumberValue) (words : List String) :
    reader.runFrom (hundred value true) words =
      (afterHundred value words).1 :: reader.runFrom closed (words.drop (afterHundred value words).2) := by
  cases words with
  | nil => rfl
  | cons word words =>
    cases hten : tens word with
    | some ten =>
      have hextend : (hundred value true).extend word = some (number (value.add ten) none true) := by
        simp [extend, hten]
      rw [runFrom_extend hextend, runFrom_tens]
      simp only [afterHundred, hten, List.drop_succ_cons]
    | none =>
      cases hunit : units word with
      | some unit =>
        have hextend : (hundred value true).extend word = some (number (value.add unit) none false) := by
          simp [extend, hten, hunit]
        rw [runFrom_extend hextend, runFrom_whole]
        simp only [afterHundred, hten, hunit, List.drop_succ_cons, List.drop_zero]
      | none =>
        have hextend : (hundred value true).extend word = none := by simp [extend, hten, hunit]
        rw [runFrom_start hextend, runFrom_closed.symm]
        simp only [afterHundred, hten, hunit, List.drop_zero]
        rfl

/-- Hundreds that no `and` follows. -/
theorem runFrom_hundred_of_ne {words : List String} (h : words.head? ≠ some "and") (value : NumberValue) :
    reader.runFrom (hundred value false) words = reader.runFrom (hundred value true) words := by
  cases words with
  | nil => rfl
  | cons word words =>
    have hne : word ≠ "and" := fun heq => h (by rw [heq]; rfl)
    rw [Transducer.runFrom_cons, Transducer.runFrom_cons]
    simp [reader, extend, hne, said]

/-- A number that no `hundred` follows. -/
theorem runFrom_number_of_ne {words : List String} (h : words.head? ≠ some "hundred") (value : NumberValue)
    (hundreds : Option NumberValue) (takesUnit : Bool) :
    reader.runFrom (number value hundreds takesUnit) words = reader.runFrom (number value none takesUnit) words := by
  cases words with
  | nil => rfl
  | cons word words =>
    have hne : word ≠ "hundred" := fun heq => h (by rw [heq]; rfl)
    rw [Transducer.runFrom_cons, Transducer.runFrom_cons]
    simp [reader, extend, hne, said]

/-- The hundreds of a unit. -/
theorem runFrom_hundredfold {unit : NumberValue} (hunit : units word = some unit) (words : List String) :
    reader.runFrom (start word) ("hundred" :: words) = reader.runFrom (hundred unit.hundredfold false) words := by
  refine runFrom_extend ?_
  cases hten : tens word <;> simp [start, hunit, hten, extend]

/-- The loop's look-ahead is what the transducer reads. -/
theorem runFrom_numberAt {rest : List String} {taken : ℕ} (h : numberAt word rest = some (value, taken)) :
    reader.runFrom (start word) rest = value :: reader.runFrom closed (rest.drop taken) := by
  unfold numberAt at h
  split at h
  next unit words hunit =>
    cases h
    have hand : (hundred unit.hundredfold false).extend "and" = some (hundred unit.hundredfold true) := by simp [extend]
    rw [runFrom_hundredfold hunit, runFrom_extend hand, runFrom_hundred]
    rfl
  next unit words hand hunit =>
    cases h
    have hne : words.head? ≠ some "and" := by
      intro hhead
      obtain ⟨rest, rfl⟩ := List.head?_eq_some_iff.mp hhead
      exact hand rest rfl
    rw [runFrom_hundredfold hunit, runFrom_hundred_of_ne hne, runFrom_hundred]
    rfl
  next rest _ _ _ ten hten _ hhundred =>
    have htens := runFrom_tens ten rest
    rw [Option.some.inj h] at htens
    rw [← htens]
    cases hunit : units word with
    | none => simp only [start, hunit, hten, Option.map_none]
    | some unit =>
      have hne : rest.head? ≠ some "hundred" := by
        intro hhead
        obtain ⟨words, rfl⟩ := List.head?_eq_some_iff.mp hhead
        exact hhundred unit words hunit rfl
      simp only [start, hunit, hten, runFrom_number_of_ne hne]
  next rest _ _ _ unit hunit hten _ hhundred =>
    cases h
    have hne : rest.head? ≠ some "hundred" := by
      intro hhead
      obtain ⟨words, rfl⟩ := List.head?_eq_some_iff.mp hhead
      exact hhundred words rfl
    simp only [start, hunit, hten, runFrom_number_of_ne hne, runFrom_whole, List.drop_zero]
  next => cases h

/-- A word that begins no number. -/
theorem start_of_numberAt (h : numberAt word words = none) : start word = closed := by
  unfold numberAt at h
  split at h
  next => cases h
  next => cases h
  next => cases h
  next => cases h
  next hunit hten => simp only [start, hunit, hten]

theorem numbersFrom_drop (taken : ℕ) (words : List String) : numbersFrom taken words = numbersFrom 0 (words.drop taken) := by
  induction taken generalizing words with
  | zero => rfl
  | succ taken ih =>
    cases words with
    | nil => simp [numbersFrom]
    | cons word words => rw [numbersFrom, ih, List.drop_succ_cons]

/-- **The loop reads the numbers word by word.** -/
theorem numbersFrom_eq (words : List String) : numbersFrom 0 words = reader.runFrom closed words := by
  induction hlength : words.length using Nat.strong_induction_on generalizing words with
  | _ n ih =>
    subst hlength
    cases words with
    | nil => rfl
    | cons word words =>
      rw [runFrom_closed, numbersFrom]
      cases hnumber : numberAt word words with
      | none =>
        simp only
        rw [start_of_numberAt hnumber]
        exact ih words.length (Nat.lt_succ_self _) words rfl
      | some number =>
        obtain ⟨value, taken⟩ := number
        have hrest := ih (words.drop taken).length (by simp only [List.length_drop, List.length_cons]; omega) _ rfl
        simp only
        rw [runFrom_numberAt hnumber, numbersFrom_drop, hrest]

end Reader

/-! ### A number that is continued -/

section Continued

variable {s s' : Reading} {word : String} {words : List String} {value : NumberValue} {m : ℕ}

/-- A word that changes a number that it belongs to. -/
def IsPlain (word : String) : Prop := word ≠ "zero" ∧ word ≠ "constructor"

theorem readWord_plain {table : List (String × ℕ)} {P : String × ℕ → Prop} (htable : ∀ entry ∈ table, P entry)
    (hword : IsPlain word) (h : readWord table word = some value) : ∃ n, P (word, n) ∧ value = .number n := by
  unfold readWord at h
  split at h
  next n hlookup =>
    cases h
    obtain ⟨before, after, rfl, -⟩ := List.lookup_eq_some_iff.mp hlookup
    exact ⟨n, htable (word, n) (by simp), rfl⟩
  next => simp [hword.2] at h

theorem units_plain (hword : IsPlain word) (h : units word = some value) : ∃ n, 0 < n ∧ value = .number n := by
  obtain ⟨n, hn, rfl⟩ := readWord_plain (P := fun entry => entry.1 ≠ "zero" → 0 < entry.2) (by decide) hword h
  exact ⟨n, hn hword.1, rfl⟩

theorem tens_plain (hword : IsPlain word) (h : tens word = some value) : ∃ n, (0 < n ∧ n < 100) ∧ value = .number n :=
  readWord_plain (P := fun entry => 0 < entry.2 ∧ entry.2 < 100) (by decide) hword h

/-- The number under way is at least so much, and its hundreds are more. -/
def Reading.AtLeast (m : ℕ) : Reading → Prop
  | closed => False
  | number value hundreds _ => ∃ k, value = .number k ∧ m ≤ k ∧ ∀ h ∈ hundreds, ∃ n, h = .number n ∧ k < n
  | hundred value _ => ∃ k, value = .number k ∧ m ≤ k

/-- A word adds to the number that it belongs to, an `and` excepted. -/
theorem extend_atLeast (hs : s.AtLeast m) (hword : IsPlain word) (h : s.extend word = some s') :
    s'.AtLeast (m + 1) ∨ (∃ v, s' = hundred v true) ∧ s'.AtLeast m := by
  cases s with
  | closed => cases h
  | number v hundreds takesUnit =>
    obtain ⟨k, rfl, hk, hhundreds⟩ := hs
    simp only [extend] at h
    split_ifs at h
    · obtain ⟨w, hw, rfl⟩ := Option.map_eq_some_iff.mp h
      obtain ⟨n, rfl, hn⟩ := hhundreds w hw
      exact .inl ⟨n, rfl, by omega⟩
    · obtain ⟨unit, hunit, rfl⟩ := Option.map_eq_some_iff.mp h
      obtain ⟨n, hn, rfl⟩ := units_plain hword (Option.filter_eq_some_iff.mp hunit).1
      exact .inl ⟨k + n, rfl, by omega, by simp⟩
  | hundred v passedAnd =>
    obtain ⟨k, rfl, hk⟩ := hs
    simp only [extend] at h
    split_ifs at h
    · cases h
      exact .inr ⟨⟨_, rfl⟩, k, rfl, hk⟩
    · split at h
      next ten hten =>
        cases h
        obtain ⟨n, hn, rfl⟩ := tens_plain hword hten
        exact .inl ⟨k + n, rfl, by omega, by simp⟩
      next unit _ hunit =>
        cases h
        obtain ⟨n, hn, rfl⟩ := units_plain hword hunit
        exact .inl ⟨k + n, rfl, by omega, by simp⟩
      next => cases h

theorem Reading.AtLeast.mono {k : ℕ} (hs : s.AtLeast m) (hk : k ≤ m) : s.AtLeast k := by
  cases s with
  | closed => exact hs
  | number v hundreds takesUnit =>
    obtain ⟨n, hn, hmn, hrest⟩ := hs
    exact ⟨n, hn, hk.trans hmn, hrest⟩
  | hundred v passedAnd =>
    obtain ⟨n, hn, hmn⟩ := hs
    exact ⟨n, hn, hk.trans hmn⟩

theorem Reading.AtLeast.said_eq (hs : s.AtLeast m) : ∃ k, s.said = [.number k] ∧ m ≤ k ∧ s.AtLeast k := by
  cases s with
  | closed => exact absurd hs id
  | number v hundreds takesUnit =>
    obtain ⟨k, rfl, hk, hhundreds⟩ := hs
    exact ⟨k, rfl, hk, k, rfl, le_rfl, hhundreds⟩
  | hundred v passedAnd =>
    obtain ⟨k, rfl, hk⟩ := hs
    exact ⟨k, rfl, hk, k, rfl, le_rfl⟩

/-- The number under way is read first, and is no less. -/
theorem runFrom_atLeast (hs : s.AtLeast m) (hwords : ∀ word ∈ words, IsPlain word) :
    ∃ k, (reader.runFrom s words).head? = some (.number k) ∧ m ≤ k := by
  induction words generalizing s with
  | nil =>
    obtain ⟨k, hk, hmk, -⟩ := hs.said_eq
    exact ⟨k, congrArg List.head? hk, hmk⟩
  | cons word words ih =>
    cases hextend : s.extend word with
    | none =>
      obtain ⟨k, hk, hmk, -⟩ := hs.said_eq
      rw [runFrom_start hextend, hk]
      exact ⟨k, rfl, hmk⟩
    | some s' =>
      rw [runFrom_extend hextend]
      have hs' : s'.AtLeast m :=
        (extend_atLeast hs (hwords word (by simp)) hextend).elim (fun h => h.mono (Nat.le_succ m)) fun h => h.2
      exact ih hs' fun w hw => hwords w (List.mem_cons_of_mem _ hw)

/-- **A number that is continued is read as a larger one.** -/
theorem runFrom_continued (hs : s.AtLeast m) (hwords : ∀ word ∈ words, IsPlain word) (h : s.isContinued words = true) :
    ∃ k, (reader.runFrom s words).head? = some (.number k) ∧ m < k := by
  cases words with
  | nil => cases h
  | cons word words =>
    have hplain : IsPlain word := hwords word (by simp)
    have hrest : ∀ w ∈ words, IsPlain w := fun w hw => hwords w (List.mem_cons_of_mem _ hw)
    cases hextend : s.extend word with
    | none => simp [isContinued, hextend] at h
    | some s' =>
      rw [runFrom_extend hextend]
      obtain hmore | ⟨⟨v, rfl⟩, hsame⟩ := extend_atLeast hs hplain hextend
      · exact runFrom_atLeast hmore hrest
      · -- the word is an `and`, and the next one belongs to the number
        cases words with
        | nil => simp [isContinued, hextend] at h
        | cons next words =>
          simp only [isContinued, hextend, List.head?_cons, Option.any_some, Option.isSome_iff_exists] at h
          obtain ⟨s', hnext⟩ := h
          rw [runFrom_extend hnext]
          obtain hmore | ⟨⟨w, rfl⟩, -⟩ := extend_atLeast hsame (hrest next (by simp)) hnext
          · exact runFrom_atLeast hmore fun w hw => hrest w (List.mem_cons_of_mem _ hw)
          · exact absurd (extend_and_eq hnext).1 (by simp)

/-- No number is under way, or one. -/
def Reading.IsNumber (s : Reading) : Prop := s = closed ∨ ∃ m, s.AtLeast m

theorem start_isNumber (hword : IsPlain word) : (start word).IsNumber := by
  cases hten : tens word with
  | some ten =>
    obtain ⟨n, ⟨hpos, hn⟩, rfl⟩ := tens_plain hword hten
    refine .inr ⟨n, ?_⟩
    simp only [start, hten]
    refine ⟨n, rfl, le_rfl, fun h hmem => ?_⟩
    obtain ⟨unit, hunit, rfl⟩ := Option.map_eq_some_iff.mp hmem
    obtain ⟨k, hk, rfl⟩ := units_plain hword hunit
    exact ⟨k * 100, rfl, by omega⟩
  | none =>
    cases hunit : units word with
    | some unit =>
      obtain ⟨k, hk, rfl⟩ := units_plain hword hunit
      refine .inr ⟨k, ?_⟩
      simp only [start, hten, hunit]
      exact ⟨k, rfl, le_rfl, fun h hmem => ⟨k * 100, (Option.some.inj hmem).symm, by omega⟩⟩
    | none => exact .inl (start_of_none hunit hten)

theorem after_isNumber (hs : s.IsNumber) (hwords : ∀ word ∈ words, IsPlain word) : (reader.after s words).IsNumber := by
  induction words generalizing s with
  | nil => exact hs
  | cons word words ih =>
    have hplain : IsPlain word := hwords word (by simp)
    refine ih ?_ fun w hw => hwords w (List.mem_cons_of_mem _ hw)
    cases hextend : s.extend word with
    | none =>
      simp only [reader, hextend]
      exact start_isNumber hplain
    | some s' =>
      simp only [reader, hextend]
      obtain rfl | ⟨m, hm⟩ := hs
      · cases hextend
      · exact .inr ((extend_atLeast hm hplain hextend).elim (fun h => ⟨_, h⟩) fun h => ⟨_, h.2⟩)

theorem isContinued_append (h : s.isContinued words = true) (rest : List String) :
    s.isContinued (words ++ rest) = true := by
  cases words with
  | nil => cases h
  | cons word words =>
    rw [List.cons_append]
    cases hextend : s.extend word with
    | none => simp [isContinued, hextend] at h
    | some s' =>
      simp only [isContinued, hextend] at h ⊢
      split at h
      next => cases h
      next =>
        cases words with
        | nil => cases h
        | cons next words => exact h
      next => rfl

end Continued

end Assistant
end Evllm
