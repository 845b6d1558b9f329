/-
# Regular expressions by backtracking

Run from a place in a text, a pattern gives the places where it can end, in the
order in which a backtracking matcher tries them; the first one counts. A
search goes through the text from the left and cuts it into what is found and
the characters between. What is found is in the pattern's language
(`run_language`). Where no class of the pattern has a character, that character
is like an end of the text to it (`run_within`), and a text is searched piece by
piece (`segments_append_cons`).

Key definitions: `Regex`, `Regex.run`, `Regex.segments`, `Regex.matchAll`,
`Regex.replaceAll`.
Key theorems: `Regex.run_language`, `Regex.run_within`,
`Regex.segments_append_cons`.
-/
import Mathlib

namespace Lib

/-- A pattern. Repetition is greedy. -/
inductive Regex
  | empty
  | set (mem : Char → Bool)
  | seq (r s : Regex)
  | alt (r s : Regex)
  | star (r : Regex)
  | notPreceded (mem : Char → Bool)
  | notFollowed (mem : Char → Bool)
  | boundary

/-- A place in a text: what is before it, from there to the left, and after it. -/
structure Place where
  before : List Char
  after : List Char
deriving DecidableEq

/-- The place with more text on both sides. -/
def Place.within (left right : List Char) (p : Place) : Place := ⟨p.before ++ left, p.after ++ right⟩

namespace Regex

def char (c : Char) : Regex := set (· = c)

/-- `r?`. -/
def option (r : Regex) : Regex := alt r empty

/-- `r+`. -/
def many (r : Regex) : Regex := seq r (star r)

def seqs (rs : List Regex) : Regex := rs.foldr seq empty

def literal (text : String) : Regex := seqs (text.toList.map char)

def isWordChar (c : Char) : Bool := c.isAlphanum || c = '_'

/-- Whether a class of the pattern has the character. A boundary reads the
characters of words. -/
def reads (c : Char) : Regex → Bool
  | empty => false
  | set mem => mem c
  | seq r s => r.reads c || s.reads c
  | alt r s => r.reads c || s.reads c
  | star r => r.reads c
  | notPreceded mem => mem c
  | notFollowed mem => mem c
  | boundary => isWordChar c

/-! ### Running a pattern -/

/-- Repeats a step as long as it takes something, at most so many times. -/
def repeated (step : Place → List Place) : ℕ → Place → List Place
  | 0, p => [p]
  | n + 1, p => ((step p).filter fun q => q.after.length < p.after.length).flatMap (repeated step n) ++ [p]

def run : Regex → Place → List Place
  | empty, p => [p]
  | set mem, p =>
    match p.after with
    | [] => []
    | c :: after => if mem c then [⟨c :: p.before, after⟩] else []
  | seq r s, p => (run r p).flatMap (run s)
  | alt r s, p => run r p ++ run s p
  | star r, p => repeated (run r) p.after.length p
  | notPreceded mem, p => if p.before.head?.any mem then [] else [p]
  | notFollowed mem, p => if p.after.head?.any mem then [] else [p]
  | boundary, p => if p.before.head?.any isWordChar = p.after.head?.any isWordChar then [] else [p]

/-- More repetitions than there are characters change nothing. -/
theorem repeated_eq {step : Place → List Place} : ∀ {m n : ℕ} {p : Place}, p.after.length ≤ m → p.after.length ≤ n →
    repeated step m p = repeated step n p
  | 0, 0, _, _, _ => rfl
  | 0, n + 1, p, hm, _ => by
    have hnone : ((step p).filter fun q => q.after.length < p.after.length) = [] := by
      rw [List.filter_eq_nil_iff]
      intro q _
      simp only [decide_eq_true_eq]
      omega
    rw [repeated, repeated, hnone]
    rfl
  | m + 1, 0, _, hm, hn => (repeated_eq hn hm).symm
  | m + 1, n + 1, p, hm, hn => by
    rw [repeated, repeated]
    congr 1
    refine List.flatMap_congr fun q hq => ?_
    have hlt : q.after.length < p.after.length := by simpa using (List.mem_filter.mp hq).2
    exact repeated_eq (by omega) (by omega)

/-! ### The language of a pattern -/

/-- The texts of a pattern, wherever they stand. -/
def language : Regex → Language Char
  | empty => 1
  | set mem => {w | ∃ c, mem c = true ∧ w = [c]}
  | seq r s => language r * language s
  | alt r s => language r + language s
  | star r => KStar.kstar (language r)
  | notPreceded _ => 1
  | notFollowed _ => 1
  | boundary => 1

/-- `q` is reached from `p` by a text of the language. -/
def Reaches (L : Language Char) (p q : Place) : Prop :=
  ∃ w ∈ L, p.after = w ++ q.after ∧ q.before = w.reverse ++ p.before

theorem Reaches.refl (p : Place) : Reaches 1 p p := ⟨[], Language.nil_mem_one, rfl, rfl⟩

theorem Reaches.mul {L M : Language Char} {p q o : Place} (h : Reaches L p q) (h' : Reaches M q o) :
    Reaches (L * M) p o := by
  obtain ⟨w, hw, hafter, hbefore⟩ := h
  obtain ⟨v, hv, hafter', hbefore'⟩ := h'
  refine ⟨w ++ v, Language.append_mem_mul hw hv, ?_, ?_⟩
  · rw [hafter, hafter', List.append_assoc]
  · rw [hbefore', hbefore, List.reverse_append, List.append_assoc]

theorem Reaches.mono {L M : Language Char} {p q : Place} (h : Reaches L p q) (hle : L ≤ M) : Reaches M p q := by
  obtain ⟨w, hw, hrest⟩ := h
  exact ⟨w, hle hw, hrest⟩

theorem repeated_language {L : Language Char} {step : Place → List Place}
    (hstep : ∀ p, ∀ q ∈ step p, Reaches L p q) :
    ∀ (n : ℕ) (p : Place), ∀ q ∈ repeated step n p, Reaches (KStar.kstar L) p q
  | 0, p, q, hq => by
    obtain rfl := List.mem_singleton.mp hq
    exact (Reaches.refl q).mono one_le_kstar
  | n + 1, p, q, hq => by
    rw [repeated, List.mem_append, List.mem_flatMap, List.mem_singleton] at hq
    obtain ⟨o, ho, hq⟩ | rfl := hq
    · have hfirst := hstep p o (List.mem_filter.mp ho).1
      exact (hfirst.mul (repeated_language hstep n o q hq)).mono mul_kstar_le_kstar
    · exact (Reaches.refl q).mono one_le_kstar

/-- **What a pattern takes is in its language.** -/
theorem run_language : ∀ (r : Regex) (p : Place), ∀ q ∈ run r p, Reaches (language r) p q
  | empty, p, q, hq => by
    obtain rfl := List.mem_singleton.mp hq
    exact Reaches.refl q
  | set mem, p, q, hq => by
    simp only [run] at hq
    split at hq
    · cases hq
    next c after hafter =>
      split_ifs at hq with hmem
      · obtain rfl := List.mem_singleton.mp hq
        exact ⟨[c], ⟨c, hmem, rfl⟩, hafter, rfl⟩
      · cases hq
  | seq r s, p, q, hq => by
    obtain ⟨o, ho, hq⟩ := List.mem_flatMap.mp hq
    exact (run_language r p o ho).mul (run_language s o q hq)
  | alt r s, p, q, hq => by
    obtain hq | hq := List.mem_append.mp hq
    · exact (run_language r p q hq).mono le_self_add
    · exact (run_language s p q hq).mono le_add_self
  | star r, p, q, hq => repeated_language (run_language r) _ p q hq
  | notPreceded mem, p, q, hq => by
    simp only [run] at hq
    split_ifs at hq
    · cases hq
    · obtain rfl := List.mem_singleton.mp hq
      exact Reaches.refl q
  | notFollowed mem, p, q, hq => by
    simp only [run] at hq
    split_ifs at hq
    · cases hq
    · obtain rfl := List.mem_singleton.mp hq
      exact Reaches.refl q
  | boundary, p, q, hq => by
    simp only [run] at hq
    split_ifs at hq
    · cases hq
    · obtain rfl := List.mem_singleton.mp hq
      exact Reaches.refl q

/-- The characters of a text of the language are in the classes of the pattern. -/
theorem reads_of_mem_language : ∀ {r : Regex} {w : List Char}, w ∈ language r → ∀ c ∈ w, r.reads c = true
  | empty, w, hw, c, hc => by
    obtain rfl : w = [] := hw
    cases hc
  | set mem, w, hw, c, hc => by
    obtain ⟨d, hd, rfl⟩ := hw
    obtain rfl := List.mem_singleton.mp hc
    exact hd
  | seq r s, w, hw, c, hc => by
    obtain ⟨u, hu, v, hv, rfl⟩ := Language.mem_mul.mp hw
    obtain hc | hc := List.mem_append.mp hc
    · exact Bool.or_eq_true_iff.mpr (.inl (reads_of_mem_language hu c hc))
    · exact Bool.or_eq_true_iff.mpr (.inr (reads_of_mem_language hv c hc))
  | alt r s, w, hw, c, hc => by
    obtain hw | hw := hw
    · exact Bool.or_eq_true_iff.mpr (.inl (reads_of_mem_language hw c hc))
    · exact Bool.or_eq_true_iff.mpr (.inr (reads_of_mem_language hw c hc))
  | star r, w, hw, c, hc => by
    obtain ⟨ws, rfl, hws⟩ := hw
    obtain ⟨v, hv, hc⟩ := List.mem_flatten.mp hc
    exact reads_of_mem_language (hws v hv) c hc
  | notPreceded _, w, hw, c, hc => by
    obtain rfl : w = [] := hw
    cases hc
  | notFollowed _, w, hw, c, hc => by
    obtain rfl : w = [] := hw
    cases hc
  | boundary, w, hw, c, hc => by
    obtain rfl : w = [] := hw
    cases hc

theorem mem_language_option {r : Regex} {w : List Char} : w ∈ language (option r) ↔ w ∈ language r ∨ w = [] := Iff.rfl

/-- A text of a sequence begins with one of the first pattern. -/
theorem mem_language_seq {r s : Regex} {w : List Char} :
    w ∈ language (seq r s) ↔ ∃ u ∈ language r, ∃ v ∈ language s, w = u ++ v := by
  constructor
  · intro hw
    obtain ⟨u, hu, v, hv, rfl⟩ := Language.mem_mul.mp hw
    exact ⟨u, hu, v, hv, rfl⟩
  · rintro ⟨u, hu, v, hv, rfl⟩
    exact Language.append_mem_mul hu hv

/-! ### Edges -/

/-- Nothing, or a text that begins with `c`. -/
def Edge (c : Char) (l : List Char) : Prop := ∀ d ∈ l.head?, d = c

theorem edge_nil (c : Char) : Edge c [] := fun _ h => absurd h (by simp)

theorem edge_cons (c : Char) (l : List Char) : Edge c (c :: l) := by
  intro d hd
  simpa using hd.symm

/-- A class without `c` does not see an edge. -/
theorem any_head_append {c : Char} {mem : Char → Bool} (h : mem c = false) (l : List Char) {edge : List Char}
    (hedge : Edge c edge) : (l ++ edge).head?.any mem = l.head?.any mem := by
  cases l with
  | nil =>
    cases edge with
    | nil => rfl
    | cons d edge =>
      have hd : d = c := hedge d rfl
      simp [hd, h]
  | cons d l => rfl

variable {c : Char} {left right : List Char}

theorem repeated_within {step : Place → List Place}
    (hstep : ∀ p, step (p.within left right) = (step p).map (Place.within left right)) :
    ∀ (n : ℕ) (p : Place), repeated step n (p.within left right) = (repeated step n p).map (Place.within left right)
  | 0, p => rfl
  | n + 1, p => by
    have hlength : ∀ q : Place, (q.within left right).after.length < (p.within left right).after.length ↔
        q.after.length < p.after.length := by
      intro q
      simp only [Place.within, List.length_append]
      omega
    rw [repeated, repeated, hstep, List.filter_map, List.flatMap_map, List.map_append, List.map_flatMap]
    congr 1
    have hfilter : ((fun q : Place => decide (q.after.length < (p.within left right).after.length)) ∘
        Place.within left right) = fun q => decide (q.after.length < p.after.length) := by
      funext q
      exact decide_eq_decide.mpr (hlength q)
    rw [hfilter]
    exact List.flatMap_congr fun q _ => repeated_within hstep n q

/-- **A pattern stays between the edges.** -/
theorem run_within (hleft : Edge c left) (hright : Edge c right) : ∀ (r : Regex), r.reads c = false → ∀ p : Place,
    run r (p.within left right) = (run r p).map (Place.within left right)
  | empty, _, p => rfl
  | set mem, h, ⟨before, []⟩ => by
    have hmem : mem c = false := h
    cases hcase : right with
    | nil => rfl
    | cons d rest =>
      have hd : d = c := hright d (by rw [hcase]; rfl)
      simp [run, Place.within, hd, hmem]
  | set mem, _, ⟨before, d :: after⟩ => by
    simp only [run, Place.within, List.cons_append]
    split_ifs <;> rfl
  | seq r s, h, p => by
    obtain ⟨hr, hs⟩ := Bool.or_eq_false_iff.mp h
    rw [run, run, run_within hleft hright r hr, List.flatMap_map, List.map_flatMap]
    exact List.flatMap_congr fun q _ => run_within hleft hright s hs q
  | alt r s, h, p => by
    obtain ⟨hr, hs⟩ := Bool.or_eq_false_iff.mp h
    rw [run, run, run_within hleft hright r hr, run_within hleft hright s hs, List.map_append]
  | star r, h, p => by
    have hle : p.after.length ≤ (p.within left right).after.length := by simp [Place.within]
    rw [run, run, repeated_within (run_within hleft hright r h), repeated_eq hle le_rfl]
  | notPreceded mem, h, p => by
    have hsame : (p.within left right).before.head?.any mem = p.before.head?.any mem := any_head_append h _ hleft
    simp only [run, hsame]
    split_ifs <;> rfl
  | notFollowed mem, h, p => by
    have hsame : (p.within left right).after.head?.any mem = p.after.head?.any mem := any_head_append h _ hright
    simp only [run, hsame]
    split_ifs <;> rfl
  | boundary, h, p => by
    have hbefore : (p.within left right).before.head?.any isWordChar = p.before.head?.any isWordChar :=
      any_head_append h _ hleft
    have hafter : (p.within left right).after.head?.any isWordChar = p.after.head?.any isWordChar :=
      any_head_append h _ hright
    simp only [run, hbefore, hafter]
    split_ifs <;> rfl

/-! ### Searching a text -/

/-- A character passed over, or a text found. -/
inductive Segment
  | char (c : Char)
  | hit (text : List Char)

/-- How many characters the match at a place takes. -/
def matchLength (r : Regex) (p : Place) : Option ℕ :=
  (run r p).head?.map fun q => p.after.length - q.after.length

/-- The rest of the text, after so many characters that a match has taken. An
empty match is followed by the next character. -/
def segmentsFrom (r : Regex) : ℕ → List Char → List Char → List Segment
  | _, before, [] => if (matchLength r ⟨before, []⟩).isSome then [.hit []] else []
  | taken + 1, before, c :: after => segmentsFrom r taken (c :: before) after
  | 0, before, c :: after =>
    match matchLength r ⟨before, c :: after⟩ with
    | some 0 => .hit [] :: .char c :: segmentsFrom r 0 (c :: before) after
    | some (n + 1) => .hit (c :: after.take n) :: segmentsFrom r n (c :: before) after
    | none => .char c :: segmentsFrom r 0 (c :: before) after

def segments (r : Regex) (text : List Char) : List Segment := segmentsFrom r 0 [] text

/-- `text.matchAll(r)`. -/
def matchAll (r : Regex) (text : List Char) : List (List Char) :=
  (segments r text).filterMap fun
    | .char _ => none
    | .hit found => some found

/-- `text.replace(r, replacement)` with the flag `g`. -/
def replaceAll (r : Regex) (replacement text : List Char) : List Char :=
  (segments r text).flatMap fun
    | .char c => [c]
    | .hit _ => replacement

theorem matchLength_language {r : Regex} {p : Place} {n : ℕ} (h : matchLength r p = some n) :
    n ≤ p.after.length ∧ p.after.take n ∈ language r := by
  obtain ⟨q, hq, rfl⟩ := Option.map_eq_some_iff.mp h
  obtain ⟨w, hw, hafter, -⟩ := run_language r p q (List.mem_of_head? hq)
  have hlength : p.after.length - q.after.length = w.length := by
    rw [hafter, List.length_append]
    omega
  refine ⟨Nat.sub_le _ _, ?_⟩
  rwa [hlength, hafter, List.take_left]

theorem segmentsFrom_language {r : Regex} : ∀ (taken : ℕ) (before after : List Char) {found : List Char},
    Segment.hit found ∈ segmentsFrom r taken before after → found ∈ language r
  | taken, before, [], found, h => by
    simp only [segmentsFrom] at h
    split_ifs at h with hsome
    · obtain ⟨n, hn⟩ := Option.isSome_iff_exists.mp hsome
      simp only [List.mem_singleton, Segment.hit.injEq] at h
      simpa [h] using (matchLength_language hn).2
    · cases h
  | taken + 1, before, c :: after, found, h => segmentsFrom_language taken (c :: before) after h
  | 0, before, c :: after, found, h => by
    simp only [segmentsFrom] at h
    split at h
    next hn =>
      simp only [List.mem_cons, Segment.hit.injEq, reduceCtorEq, false_or] at h
      obtain rfl | h := h
      · simpa using (matchLength_language hn).2
      · exact segmentsFrom_language 0 (c :: before) after h
    next n hn =>
      simp only [List.mem_cons, Segment.hit.injEq] at h
      obtain rfl | h := h
      · simpa using (matchLength_language hn).2
      · exact segmentsFrom_language n (c :: before) after h
    next =>
      simp only [List.mem_cons, reduceCtorEq, false_or] at h
      exact segmentsFrom_language 0 (c :: before) after h

/-- **What is found is in the language of the pattern.** -/
theorem matchAll_language {r : Regex} {text found : List Char} (h : found ∈ matchAll r text) : found ∈ language r := by
  obtain ⟨segment, hsegment, heq⟩ := List.mem_filterMap.mp h
  cases segment with
  | char c => cases heq
  | hit w =>
    cases heq
    exact segmentsFrom_language 0 [] text hsegment

/-! ### Searching piece by piece -/

theorem matchLength_within {r : Regex} (hleft : Edge c left) (hright : Edge c right) (h : r.reads c = false) (p : Place) :
    matchLength r (p.within left right) = matchLength r p := by
  unfold matchLength
  rw [run_within hleft hright r h, List.head?_map, Option.map_map]
  congr 1
  funext q
  simp only [Place.within, List.length_append, Function.comp_apply]
  omega

/-- What is before an edge does not matter. -/
theorem segmentsFrom_left {r : Regex} (hleft : Edge c left) (h : r.reads c = false) :
    ∀ (taken : ℕ) (before after : List Char),
      segmentsFrom r taken (before ++ left) after = segmentsFrom r taken before after := by
  have hsame : ∀ before after, matchLength r ⟨before ++ left, after⟩ = matchLength r ⟨before, after⟩ := by
    intro before after
    have := matchLength_within hleft (edge_nil c) h ⟨before, after⟩
    rwa [Place.within, List.append_nil] at this
  intro taken before after
  induction after generalizing taken before with
  | nil => simp only [segmentsFrom, hsame]
  | cons d after ih =>
    cases taken with
    | zero =>
      have hnext : ∀ n, segmentsFrom r n (d :: (before ++ left)) after = segmentsFrom r n (d :: before) after :=
        fun n => ih n (d :: before)
      simp only [segmentsFrom, hsame, hnext]
    | succ taken => exact ih taken (d :: before)

/-- Up to an edge, the text is searched as if nothing followed. -/
theorem segmentsFrom_right {r : Regex} (h : r.reads c = false) (rest : List Char) :
    ∀ (taken : ℕ) (before a : List Char), taken ≤ a.length →
      segmentsFrom r taken before (a ++ c :: rest) =
        segmentsFrom r taken before a ++ .char c :: segmentsFrom r 0 (c :: (a.reverse ++ before)) rest := by
  have hsame : ∀ before a, matchLength r ⟨before, a ++ c :: rest⟩ = matchLength r ⟨before, a⟩ := by
    intro before a
    have := matchLength_within (edge_nil c) (edge_cons c rest) h ⟨before, a⟩
    rwa [Place.within, List.append_nil] at this
  intro taken before a htaken
  induction a generalizing taken before with
  | nil =>
    obtain rfl := Nat.le_zero.mp htaken
    have hhere := hsame before []
    rw [List.nil_append] at hhere
    simp only [List.nil_append, List.reverse_nil, segmentsFrom, hhere]
    cases hlength : matchLength r ⟨before, []⟩ with
    | none => rfl
    | some n =>
      obtain rfl := Nat.le_zero.mp (matchLength_language hlength).1
      rfl
  | cons d a ih =>
    have hnext : ∀ n, n ≤ a.length → segmentsFrom r n (d :: before) (a ++ c :: rest) =
        segmentsFrom r n (d :: before) a ++ .char c :: segmentsFrom r 0 (c :: ((d :: a).reverse ++ before)) rest := by
      intro n hn
      rw [ih n (d :: before) hn, List.reverse_cons, List.append_assoc, List.singleton_append]
    cases taken with
    | succ taken => exact hnext taken (Nat.le_of_succ_le_succ htaken)
    | zero =>
      have hhere := hsame before (d :: a)
      rw [List.cons_append] at hhere
      simp only [List.cons_append, segmentsFrom, hhere]
      split
      next => rw [hnext 0 (Nat.zero_le _)]; rfl
      next n hlength =>
        have hn : n ≤ a.length := Nat.le_of_succ_le_succ (matchLength_language hlength).1
        rw [hnext n hn, List.take_append_of_le_length hn]
        rfl
      next => rw [hnext 0 (Nat.zero_le _)]; rfl

/-- **A character that the pattern does not read parts the text.** -/
theorem segments_append_cons {r : Regex} (h : r.reads c = false) (a b : List Char) :
    segments r (a ++ c :: b) = segments r a ++ .char c :: segments r b := by
  unfold segments
  rw [segmentsFrom_right h b 0 [] a (Nat.zero_le _)]
  have hleft := segmentsFrom_left (edge_cons c (a.reverse ++ [])) h 0 [] b
  rw [List.nil_append] at hleft
  rw [hleft]

theorem matchAll_append_cons {r : Regex} (h : r.reads c = false) (a b : List Char) :
    matchAll r (a ++ c :: b) = matchAll r a ++ matchAll r b := by
  simp only [matchAll, segments_append_cons h, List.filterMap_append, List.filterMap_cons]

theorem replaceAll_append_cons {r : Regex} (h : r.reads c = false) (replacement a b : List Char) :
    replaceAll r replacement (a ++ c :: b) = replaceAll r replacement a ++ c :: replaceAll r replacement b := by
  simp only [replaceAll, segments_append_cons h, List.flatMap_append, List.flatMap_cons, List.singleton_append]

end Regex
end Lib
