/-
# The environmental balance

`environmentalIndicators` of `src/decision/assessment.ts` adds up the terms of
each category in a map, a recovered term counting negatively, and divides the
totals by the functional unit, to six places. Decimals are exact, so the totals
do not depend on the order of the terms (`Balanced`); the indicators are sorted
by `localeCompare`, which may tie distinct categories, and those stand in the
order in which the terms name them.

Key definitions: `balance`, `Balanced`, `Indicates`, `ToldApart`.
Key theorems: `addTerm_ok`, `Balanced.step`, `environmentalIndicators_ok`,
`environmentalIndicators_balance`.
-/
import Evllm.Decision.Exactness
import Evllm.Decision.Measures
import Evllm.Lib.Collation
import Evllm.Lib.StableSort

namespace Evllm
namespace Decision

open Lib ExactDecimal

/-! ### The balance of a category -/

/-- What a term contributes. -/
def EnvironmentalTerm.contribution (term : EnvironmentalTerm) : ℚ :=
  if term.recovered then -(denoted term.quantity * denoted term.factor) else denoted term.quantity * denoted term.factor

def balance (terms : List EnvironmentalTerm) (category : String) : ℚ :=
  ((terms.filter fun term => term.category = category).map EnvironmentalTerm.contribution).sum

theorem balance_concat_self (terms : List EnvironmentalTerm) (term : EnvironmentalTerm) :
    balance (terms ++ [term]) term.category = balance terms term.category + term.contribution := by
  simp [balance, List.filter_append]

theorem balance_concat_ne {terms : List EnvironmentalTerm} {term : EnvironmentalTerm} {category : String}
    (h : term.category ≠ category) : balance (terms ++ [term]) category = balance terms category := by
  simp [balance, List.filter_append, h]

theorem balance_perm {terms terms' : List EnvironmentalTerm} (h : terms'.Perm terms) (category : String) :
    balance terms' category = balance terms category :=
  ((h.filter _).map _).sum_eq

/-! ### The loop -/

abbrev Categories := JsMap String (ExactDecimal × String)

variable {categories categories' : Categories} {term : EnvironmentalTerm} {terms : List EnvironmentalTerm}

/-- The total so far of the term's category. -/
def priorTotal (categories : Categories) (category : String) : ℚ :=
  ((categories.get category).map fun entry => entry.1.toRat).getD 0

theorem addTerm_ok (h : addTerm categories term = .ok categories') :
    (∀ prior, categories.get term.category = some prior → prior.2 = term.resultUnit) ∧
      ∃ total : ExactDecimal, total.toRat = priorTotal categories term.category + term.contribution ∧
        categories' = categories.set term.category (total, term.resultUnit) := by
  simp only [addTerm, rejectIf, bind_eq_ok, throwIf_eq_ok, dec_eq_ok] at h
  obtain ⟨quantity, hquantity, factor, hfactor, contribution, hcontribution, -, hunit, zero, hzero, h⟩ := h
  have hproduct : contribution.toRat = denoted term.quantity * denoted term.factor := by
    rw [multiply_ok hcontribution, parse_toRat hquantity, parse_toRat hfactor]
  have hprior : (((categories.get term.category).map Prod.fst).getD zero).toRat = priorTotal categories term.category := by
    unfold priorTotal
    cases categories.get term.category with
    | none => simp [fromInteger_ok hzero]
    | some prior => rfl
  refine ⟨fun prior hget => ?_, ?_⟩
  · rw [hget] at hunit
    simpa using hunit
  · split_ifs at h with hrecovered
    · simp only [bind_eq_ok, dec_eq_ok, pure_eq_ok] at h
      obtain ⟨signed, hsigned, total, htotal, rfl⟩ := h
      refine ⟨total, ?_, rfl⟩
      rw [add_ok htotal, hprior, subtract_ok hsigned, fromInteger_ok hzero, hproduct, EnvironmentalTerm.contribution,
        if_pos hrecovered, Int.cast_zero, zero_sub]
    · simp only [bind_eq_ok, dec_eq_ok, pure_eq_ok] at h
      obtain ⟨signed, rfl, total, htotal, rfl⟩ := h
      refine ⟨total, ?_, rfl⟩
      rw [add_ok htotal, hprior, hproduct, EnvironmentalTerm.contribution, if_neg hrecovered]

/-- The map holds the balance of every category that the terms name, in the
unit that they give it. -/
structure Balanced (terms : List EnvironmentalTerm) (categories : Categories) : Prop where
  total : ∀ category total unit, categories.get category = some (total, unit) → total.toRat = balance terms category
  unit : ∀ category total unit, categories.get category = some (total, unit) →
    ∀ term ∈ terms, term.category = category → term.resultUnit = unit
  named : ∀ category, (∃ entry, categories.get category = some entry) ↔ ∃ term ∈ terms, term.category = category

theorem balanced_nil : Balanced [] JsMap.empty := by
  refine ⟨fun _ _ _ h => ?_, fun _ _ _ h => ?_, fun category => ?_⟩
  · cases h
  · cases h
  · simp

/-- A category that the map lacks has no terms. -/
theorem Balanced.priorTotal_eq (h : Balanced terms categories) (category : String) :
    priorTotal categories category = balance terms category := by
  unfold priorTotal
  cases hget : categories.get category with
  | some entry => exact h.total category entry.1 entry.2 hget
  | none =>
    have hnone : terms.filter (fun term => term.category = category) = [] := by
      rw [List.filter_eq_nil_iff]
      intro term hterm hcategory
      obtain ⟨entry, hentry⟩ := (h.named category).mpr ⟨term, hterm, of_decide_eq_true hcategory⟩
      rw [hget] at hentry
      cases hentry
    rw [balance, hnone]
    rfl

theorem Balanced.step (h : Balanced terms categories) (hadd : addTerm categories term = .ok categories') :
    Balanced (terms ++ [term]) categories' := by
  obtain ⟨hunit, total, htotal, rfl⟩ := addTerm_ok hadd
  rw [h.priorTotal_eq] at htotal
  refine ⟨fun category t unit hget => ?_, fun category t unit hget term' hterm' hcategory => ?_, fun category => ?_⟩
  · by_cases hcategory : term.category = category
    · subst hcategory
      rw [JsMap.get_set_self] at hget
      cases hget
      rw [balance_concat_self, htotal]
    · rw [JsMap.get_set_ne _ _ hcategory] at hget
      rw [balance_concat_ne hcategory]
      exact h.total category t unit hget
  · by_cases hsame : term.category = category
    · subst hsame
      rw [JsMap.get_set_self] at hget
      cases hget
      obtain hold | hnew := List.mem_append.mp hterm'
      · obtain ⟨prior, hprior⟩ := (h.named term.category).mpr ⟨term', hold, hcategory⟩
        rw [h.unit term.category prior.1 prior.2 hprior term' hold hcategory]
        exact hunit prior hprior
      · rw [List.mem_singleton.mp hnew]
    · rw [JsMap.get_set_ne _ _ hsame] at hget
      obtain hold | hnew := List.mem_append.mp hterm'
      · exact h.unit category t unit hget term' hold hcategory
      · rw [List.mem_singleton.mp hnew] at hcategory
        exact absurd hcategory hsame
  · by_cases hcategory : term.category = category
    · subst hcategory
      rw [JsMap.get_set_self]
      exact iff_of_true ⟨_, rfl⟩ ⟨term, by simp, rfl⟩
    · rw [JsMap.get_set_ne _ _ hcategory, h.named category]
      constructor
      · rintro ⟨t, ht, hname⟩
        exact ⟨t, List.mem_append_left _ ht, hname⟩
      · rintro ⟨t, ht, hname⟩
        obtain ht | ht := List.mem_append.mp ht
        · exact ⟨t, ht, hname⟩
        · rw [List.mem_singleton.mp ht] at hname
          exact absurd hname hcategory

theorem balanced_of_loop (h : terms.foldlM addTerm JsMap.empty = .ok categories) : Balanced terms categories :=
  foldlM_history (I := Balanced) (fun _ _ _ _ _ _ hbalanced hstep => hbalanced.step hstep) balanced_nil h

/-! ### The indicators -/

structure Indicates (terms : List EnvironmentalTerm) (functionalUnit : String)
    (indicators : List EnvironmentalIndicator) : Prop where
  distinct : (indicators.map EnvironmentalIndicator.category).Nodup
  occurring : ∀ category, category ∈ indicators.map EnvironmentalIndicator.category ↔
    ∃ term ∈ terms, term.category = category
  unit : ∀ indicator ∈ indicators, ∀ term ∈ terms, term.category = indicator.category → term.resultUnit = indicator.unit
  value : ∀ indicator ∈ indicators, ∃ z : ExactDecimal, indicator.value = z.toCanonical ∧
    RoundsTo 6 (balance terms indicator.category / denoted functionalUnit) z.toRat

variable {ι : Type} {env : Environment ι} {functionalUnit : String} {indicators : List EnvironmentalIndicator}

/-- An entry of the map and its indicator. -/
structure Divided (functionalUnit : String) (entry : String × ExactDecimal × String) (indicator : EnvironmentalIndicator) :
    Prop where
  category : indicator.category = entry.1
  unit : indicator.unit = entry.2.2
  value : ∃ z : ExactDecimal, indicator.value = z.toCanonical ∧
    RoundsTo 6 (entry.2.1.toRat / denoted functionalUnit) z.toRat

theorem environmentalIndicators_entries (h : environmentalIndicators env terms functionalUnit = .ok indicators) :
    ∃ categories : Categories, Balanced terms categories ∧ List.Forall₂ (Divided functionalUnit)
      (categories.entries.insertionSort fun left right => env.localeCompare left.1 right.1 ≤ 0) indicators := by
  simp only [environmentalIndicators, rejectIf, bind_eq_ok, throwIf_eq_ok, dec_eq_ok] at h
  obtain ⟨divisor, hdivisor, -, -, -, -, -, -, categories, hloop, hdivide⟩ := h
  refine ⟨categories, balanced_of_loop hloop, (mapM_ok hdivide).imp fun entry indicator hentry => ?_⟩
  obtain ⟨category, total, unit⟩ := entry
  simp only [bind_eq_ok, dec_eq_ok, pure_eq_ok] at hentry
  obtain ⟨quotient, hquotient, rfl⟩ := hentry
  refine ⟨rfl, rfl, quotient, rfl, ?_⟩
  rw [← parse_toRat hdivisor]
  exact (divide_ok hquotient).1

theorem forall₂_map_eq {α β γ : Type} {R : α → β → Prop} {f : α → γ} {g : β → γ} (h : ∀ a b, R a b → g b = f a) :
    ∀ {as : List α} {bs : List β}, List.Forall₂ R as bs → bs.map g = as.map f
  | _, _, .nil => rfl
  | _, _, .cons hab hrest => by rw [List.map_cons, List.map_cons, h _ _ hab, forall₂_map_eq h hrest]

theorem exists_of_forall₂ {α β : Type} {R : α → β → Prop} : ∀ {as : List α} {bs : List β}, List.Forall₂ R as bs →
    ∀ b ∈ bs, ∃ a ∈ as, R a b
  | _, _, .cons hab hrest, b, hb => by
    obtain rfl | hb := List.mem_cons.mp hb
    · exact ⟨_, List.mem_cons_self, hab⟩
    · obtain ⟨a, ha, hR⟩ := exists_of_forall₂ hrest b hb
      exact ⟨a, List.mem_cons_of_mem _ ha, hR⟩

/-- **The balance of every category that occurs.** -/
theorem environmentalIndicators_ok (h : environmentalIndicators env terms functionalUnit = .ok indicators) :
    Indicates terms functionalUnit indicators := by
  obtain ⟨categories, hbalanced, hdivided⟩ := environmentalIndicators_entries h
  have hperm := List.perm_insertionSort (fun left right : String × ExactDecimal × String =>
    env.localeCompare left.1 right.1 ≤ 0) categories.entries
  have hnames : indicators.map EnvironmentalIndicator.category =
      (categories.entries.insertionSort fun left right => env.localeCompare left.1 right.1 ≤ 0).map Prod.fst :=
    forall₂_map_eq (fun _ _ hentry => hentry.category) hdivided
  have hentry : ∀ indicator ∈ indicators, ∃ total, categories.get indicator.category = some (total, indicator.unit) ∧
      ∃ z : ExactDecimal, indicator.value = z.toCanonical ∧ RoundsTo 6 (total.toRat / denoted functionalUnit) z.toRat := by
    intro indicator hindicator
    obtain ⟨⟨category, total, unit⟩, hmem, hcategory, hunit, hvalue⟩ := exists_of_forall₂ hdivided indicator hindicator
    refine ⟨total, ?_, hvalue⟩
    rw [hcategory, hunit]
    exact (JsMap.get_eq_some_iff _ _ _).mpr (hperm.mem_iff.mp hmem)
  refine ⟨?_, fun category => ?_, fun indicator hindicator => ?_, fun indicator hindicator => ?_⟩
  · rw [hnames]
    exact (hperm.map Prod.fst).nodup_iff.mpr categories.keys_nodup
  · rw [hnames, (hperm.map Prod.fst).mem_iff, ← hbalanced.named category]
    exact categories.mem_keys_iff category
  · obtain ⟨total, hget, -⟩ := hentry indicator hindicator
    exact hbalanced.unit _ _ _ hget
  · obtain ⟨total, hget, z, hz, hrounds⟩ := hentry indicator hindicator
    rw [hbalanced.total _ _ _ hget] at hrounds
    exact ⟨z, hz, hrounds⟩

/-! ### The order of the terms -/

variable {terms' : List EnvironmentalTerm} {indicators' : List EnvironmentalIndicator}

theorem mem_of_indicates (hperm : terms'.Perm terms) (h : Indicates terms functionalUnit indicators)
    (h' : Indicates terms' functionalUnit indicators') {indicator : EnvironmentalIndicator} (hmem : indicator ∈ indicators) :
    indicator ∈ indicators' := by
  obtain ⟨term, hterm, hcategory⟩ := (h.occurring indicator.category).mp (List.mem_map_of_mem hmem)
  have hterm' := hperm.mem_iff.mpr hterm
  obtain ⟨other, hother, hsame⟩ := List.mem_map.mp ((h'.occurring indicator.category).mpr ⟨term, hterm', hcategory⟩)
  obtain ⟨z, hz, hrounds⟩ := h.value indicator hmem
  obtain ⟨z', hz', hrounds'⟩ := h'.value other hother
  have hvalue : indicator.value = other.value := by
    rw [hsame, balance_perm hperm] at hrounds'
    obtain ⟨hcoefficient, hscale⟩ := toRat_eq_iff.mp (hrounds.unique hrounds')
    rw [hz, hz']
    unfold toCanonical
    rw [hcoefficient, hscale]
  have hunit : indicator.unit = other.unit := by
    rw [← h.unit indicator hmem term hterm hcategory, h'.unit other hother term hterm' (hcategory.trans hsame.symm)]
  have heq : indicator = other := by
    cases indicator
    cases other
    simp only at hsame hvalue hunit
    rw [hsame, hvalue, hunit]
  rwa [heq]

/-- The indicators are the same, though perhaps in another order. -/
theorem perm_of_indicates (hperm : terms'.Perm terms) (h : Indicates terms functionalUnit indicators)
    (h' : Indicates terms' functionalUnit indicators') : indicators'.Perm indicators :=
  (List.perm_ext_iff_of_nodup h'.distinct.of_map h.distinct.of_map).mpr fun _ =>
    ⟨mem_of_indicates hperm.symm h' h, mem_of_indicates hperm h h'⟩

/-- The order of the categories. -/
def categoryLE (localeCompare : String → String → ℤ) (left right : EnvironmentalIndicator) : Prop :=
  localeCompare left.category right.category ≤ 0

instance (localeCompare : String → String → ℤ) : DecidableRel (categoryLE localeCompare) :=
  fun left right => inferInstanceAs (Decidable (localeCompare left.category right.category ≤ 0))

theorem indicators_sorted (hcollates : Collates env.localeCompare)
    (h : environmentalIndicators env terms functionalUnit = .ok indicators) :
    indicators.Pairwise (categoryLE env.localeCompare) := by
  obtain ⟨categories, -, hdivided⟩ := environmentalIndicators_entries h
  have hnames := forall₂_map_eq (f := Prod.fst) (g := EnvironmentalIndicator.category)
    (fun _ _ hentry => hentry.category) hdivided
  have hsorted := @List.pairwise_insertionSort _ (fun left right : String × ExactDecimal × String =>
    env.localeCompare left.1 right.1 ≤ 0) _ ⟨fun a b => hcollates.total a.1 b.1⟩
    ⟨fun a b c => hcollates.trans a.1 b.1 c.1⟩ categories.entries
  have hmap : (indicators.map EnvironmentalIndicator.category).Pairwise fun a b => env.localeCompare a b ≤ 0 := by
    rw [hnames, List.pairwise_map]
    exact hsorted
  rw [List.pairwise_map] at hmap
  exact hmap

/-- The collation tells the categories of the terms apart. -/
def ToldApart (localeCompare : String → String → ℤ) (terms : List EnvironmentalTerm) : Prop :=
  ∀ left ∈ terms, ∀ right ∈ terms, localeCompare left.category right.category = 0 → left.category = right.category

/-- **The balance per category.** One indicator for each category that occurs, with
its unit and its rounded balance; in another order the terms give the same
indicators, and the same list where no two distinct categories tie. -/
theorem environmentalIndicators_balance (h : environmentalIndicators env terms functionalUnit = .ok indicators) :
    Indicates terms functionalUnit indicators ∧
      ∀ terms' indicators', terms'.Perm terms → environmentalIndicators env terms' functionalUnit = .ok indicators' →
        indicators'.Perm indicators ∧
          (Collates env.localeCompare → ToldApart env.localeCompare terms → indicators' = indicators) := by
  have hindicates := environmentalIndicators_ok h
  refine ⟨hindicates, fun terms' indicators' hperm h' => ?_⟩
  have hindicates' := environmentalIndicators_ok h'
  have hsame := perm_of_indicates hperm hindicates hindicates'
  refine ⟨hsame, fun hcollates htold => ?_⟩
  have htotal : Std.Total (categoryLE env.localeCompare) := ⟨fun a b => hcollates.total a.category b.category⟩
  refine eq_of_sameTies (indicators_sorted hcollates h') (indicators_sorted hcollates h)
    (sameTies_of_perm hsame fun a b c hb hc hab hac => ?_)
  have hcategory : b.category = c.category := by
    obtain ⟨left, hleft, hb'⟩ := (hindicates.occurring b.category).mp (List.mem_map_of_mem (hsame.mem_iff.mp hb))
    obtain ⟨right, hright, hc'⟩ := (hindicates.occurring c.category).mp (List.mem_map_of_mem (hsame.mem_iff.mp hc))
    rw [← hb', ← hc']
    refine htold left hleft right hright ?_
    rw [hb', hc']
    exact hcollates.eq_zero_iff.mpr ⟨hcollates.trans _ _ _ hab.2 hac.1, hcollates.trans _ _ _ hac.2 hab.1⟩
  exact List.inj_on_of_nodup_map hindicates.distinct (hsame.mem_iff.mp hb) (hsame.mem_iff.mp hc) hcategory

/-- A text with `é` written as a letter and an accent; `localeCompare` does not
tell the two spellings apart. -/
def decomposed (text : String) : List ℕ := text.toList.flatMap fun c => if c = 'é' then [101, 769] else [c.toNat]

/-- No schema and no digest: the balance calls neither. -/
def collating : Environment Unit where
  parseBasis _ := .error .typeError
  routeCalculationInputsDigest _ := .error .typeError
  reproductionHash _ _ _ := .error .typeError
  localeCompare := compareBy decomposed

def waterTerm (quantity : String) (recovered : Bool) : EnvironmentalTerm := ⟨"water", "2", "process", recovered, quantity, "m3"⟩

def climateTerm : EnvironmentalTerm := ⟨"climate", "0.5", "transport", false, "3", "kg"⟩

theorem recovered_water_balance : ∃ indicators,
    environmentalIndicators collating [waterTerm "5" false, climateTerm, waterTerm "1" true] "3" = .ok indicators ∧
      indicators.map EnvironmentalIndicator.value = ["0.5", "2.666667"] ∧
      Indicates [waterTerm "5" false, climateTerm, waterTerm "1" true] "3" indicators ∧
      ∀ terms' indicators', terms'.Perm [waterTerm "5" false, climateTerm, waterTerm "1" true] →
        environmentalIndicators collating terms' "3" = .ok indicators' →
        indicators'.Perm indicators ∧ (Collates collating.localeCompare →
          ToldApart collating.localeCompare [waterTerm "5" false, climateTerm, waterTerm "1" true] →
          indicators' = indicators) := by
  have hchecked : ((environmentalIndicators collating [waterTerm "5" false, climateTerm, waterTerm "1" true] "3").toOption.any
      fun indicators => indicators.map EnvironmentalIndicator.value = ["0.5", "2.666667"]) = true := by decide +kernel
  obtain ⟨indicators, hreturned, hvalues⟩ := (Option.any_eq_true _ _).mp hchecked
  have hindicators := toOption_eq_some.mp hreturned
  obtain ⟨hindicates, horder⟩ := environmentalIndicators_balance hindicators
  exact ⟨indicators, hindicators, of_decide_eq_true hvalues, hindicates, horder⟩

/-- A term of a category whose name is spelled as given. -/
def metalTerm (category quantity : String) : EnvironmentalTerm := ⟨category, "1", "process", false, quantity, "kg"⟩

/-- Two spellings of one name are two categories; they tie, and stand in the order
of the terms. -/
theorem spellings_swap : Collates collating.localeCompare ∧
    (environmentalIndicators collating [metalTerm "é" "1", metalTerm "e\u0301" "2"] "1").toOption.map
      (List.map EnvironmentalIndicator.value) = some ["1", "2"] ∧
    (environmentalIndicators collating [metalTerm "e\u0301" "2", metalTerm "é" "1"] "1").toOption.map
      (List.map EnvironmentalIndicator.value) = some ["2", "1"] ∧
    [metalTerm "e\u0301" "2", metalTerm "é" "1"].Perm [metalTerm "é" "1", metalTerm "e\u0301" "2"] := by
  refine ⟨collates_compareBy decomposed, by decide +kernel, by decide +kernel, List.Perm.swap _ _ _⟩

end Decision
end Evllm
