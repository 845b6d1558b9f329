/-
# The preference is conservative

Dominance between routes is the product order of their measures: at least as
good in each, better in one. So it is a strict partial order, and among
finitely many routes the only one that none dominates dominates all others.
A route is preferred only if it is that one, and the winner of every scenario.
-/
import Evllm.Decision.Assessment
import Mathlib.Data.Fintype.Card
import Mathlib.Data.Fintype.EquivFin

namespace Evllm
namespace Decision

open Lib ExactDecimal

/-! ### Strict orders on finite types -/

/-- In a finite strict order, a set's only element that none dominates
dominates every other element of the set. -/
theorem dominates_of_unique_undominated {α : Type*} [Finite α] {R : α → α → Prop} {S : α → Prop} {w : α}
    (htrans : ∀ x y z, R x y → R y z → R x z) (hirrefl : ∀ x, ¬R x x) (hS : ∀ x y, R x y → S x)
    (hunique : ∀ y, S y → (∀ x, ¬R x y) → y = w) (y : α) (hy : S y) (hne : y ≠ w) : R w y := by
  have : IsTrans α R := ⟨htrans⟩
  have : Std.Irrefl R := ⟨hirrefl⟩
  have hwf : WellFounded R := Finite.wellFounded_of_trans_of_irrefl R
  induction y using hwf.induction with
  | _ y ih =>
    have hdominated : ∃ x, R x y := by
      by_contra hnone
      exact hne (hunique y hy (not_exists.mp hnone))
    obtain ⟨x, hx⟩ := hdominated
    by_cases hxw : x = w
    · rw [← hxw]
      exact hx
    · exact htrans w x y (ih x hx (hS x y hx) hxw) hx

/-! ### Measures -/

/-- What routes are compared by. -/
inductive Criterion where
  | circularity
  | coverage
  | netPresentValue
  | category (category : String)

def criteria (shared : List String) : List Criterion :=
  .circularity :: .coverage :: .netPresentValue :: shared.map .category

/-- The value of a decimal string, zero where it is none. -/
def valueOf (s : String) : ℚ :=
  match parse s with
  | .ok x => x.toRat
  | .error _ => 0

/-- The impact of a route in a category, zero where it has none. -/
def impactOf (shared : List String) (route : RouteAssessmentResult) (category : String) : ℚ :=
  match impacts shared route with
  | .ok map => ((map.get category).map toRat).getD 0
  | .error _ => 0

/-- How good a route is by a criterion. -/
def worth (shared : List String) (route : RouteAssessmentResult) : Criterion → ℚ
  | .circularity => valueOf route.C.lower
  | .coverage => valueOf route.A.coverage
  | .netPresentValue => valueOf route.E.netPresentValue
  | .category category => -impactOf shared route category

/-- The worth of a route by each criterion that counts. -/
def measure (shared : List String) (route : RouteAssessmentResult) : { k // k ∈ criteria shared } → ℚ :=
  fun k => worth shared route k.1

/-- A comparison tells the order of two values. -/
def Tells (c : ℤ) (left right : ℚ) : Prop := (0 ≤ c ↔ right ≤ left) ∧ (0 < c ↔ right < left)

theorem compareStrings_ok {left right : String} {c : ℤ} (h : compareStrings left right = .ok c) :
    Tells c (valueOf left) (valueOf right) := by
  simp only [compareStrings, bind_eq_ok, dec_eq_ok] at h
  obtain ⟨l, hl, r, hr, hc⟩ := h
  unfold valueOf
  rw [hl, hr]
  exact compare_ok hc

theorem compareImpacts_ok {shared : List String} {left right : RouteAssessmentResult}
    {leftImpacts rightImpacts : JsMap String ExactDecimal} (hleft : impacts shared left = .ok leftImpacts)
    (hright : impacts shared right = .ok rightImpacts) {category : String} {c : ℤ}
    (h : compareImpacts leftImpacts rightImpacts category = .ok c) :
    Tells c (worth shared left (.category category)) (worth shared right (.category category)) := by
  unfold compareImpacts at h
  split at h
  · rename_i l r hl hr
    simp only [bind_eq_ok, dec_eq_ok, pure_eq_ok] at h
    obtain ⟨d, hd, rfl⟩ := h
    obtain ⟨hle, hlt⟩ := compare_ok hd
    simp only [worth, impactOf, hleft, hright, hl, hr, Option.map_some, Option.getD_some, Tells, neg_le_neg_iff,
      neg_lt_neg_iff]
    have hneg : 0 ≤ -d ↔ ¬0 < d := by omega
    have hpos : 0 < -d ↔ ¬0 ≤ d := by omega
    rw [hneg, hpos, hle, hlt, not_lt, not_le]
    exact ⟨Iff.rfl, Iff.rfl⟩
  · simp at h

/-- The comparisons tell, criterion by criterion, which route is better. -/
theorem comparisons_ok {shared : List String} {left right : RouteAssessmentResult} {values : List ℤ}
    (h : comparisons shared left right = .ok values) :
    List.Forall₂ (fun k c => Tells c (worth shared left k) (worth shared right k)) (criteria shared) values := by
  simp only [comparisons, bind_eq_ok, pure_eq_ok] at h
  obtain ⟨leftImpacts, hleft, rightImpacts, hright, c1, h1, c2, h2, c3, h3, environmental, h4, rfl⟩ := h
  refine .cons (compareStrings_ok h1) (.cons (compareStrings_ok h2) (.cons (compareStrings_ok h3) ?_))
  rw [List.forall₂_map_left_iff]
  exact (mapM_ok h4).imp fun _ _ hc => compareImpacts_ok hleft hright hc

theorem tells_all {left right : Criterion → ℚ} {ks : List Criterion} {values : List ℤ}
    (h : List.Forall₂ (fun k c => Tells c (left k) (right k)) ks values) :
    ((∀ c ∈ values, 0 ≤ c) ↔ ∀ k ∈ ks, right k ≤ left k) ∧ ((∃ c ∈ values, 0 < c) ↔ ∃ k ∈ ks, right k < left k) := by
  induction h with
  | nil => simp
  | cons hc _ ih => simp only [List.forall_mem_cons, List.exists_mem_cons_iff, ih.1, ih.2, hc.1, hc.2, and_self]

/-- Better in one comparison and worse in none is above in the product order. -/
theorem better_iff {shared : List String} {left right : RouteAssessmentResult} {values : List ℤ}
    (h : comparisons shared left right = .ok values) :
    ((∀ c ∈ values, 0 ≤ c) ∧ ∃ c ∈ values, 0 < c) ↔ measure shared right < measure shared left := by
  obtain ⟨hall, hany⟩ := tells_all (comparisons_ok h)
  rw [Pi.lt_def, Pi.le_def, hall, hany]
  refine and_congr ?_ ?_
  · exact ⟨fun hk k => hk k.1 k.2, fun hk k hmem => hk ⟨k, hmem⟩⟩
  · exact ⟨fun ⟨k, hmem, hk⟩ => ⟨⟨k, hmem⟩, hk⟩, fun ⟨k, hk⟩ => ⟨k.1, k.2, hk⟩⟩

/-! ### Dominance -/

/-- Two routes that are compared: different, and both pass. -/
def Compared (left right : RouteAssessmentResult) : Prop :=
  left.routeId ≠ right.routeId ∧ left.G = .pass ∧ right.G = .pass

/-- Which pairs the loop lists. -/
theorem mem_dominatingPairs {shared : List String} {d : Dominance} :
    ∀ {pairs : List (RouteAssessmentResult × RouteAssessmentResult)} {ds : List Dominance},
      dominatingPairs shared pairs = .ok ds →
      (d ∈ ds ↔ ∃ left right, (left, right) ∈ pairs ∧ Compared left right ∧
        measure shared right < measure shared left ∧ d = ⟨left.routeId, right.routeId⟩)
  | [], ds, h => by
    simp only [dominatingPairs, pure_eq_ok] at h
    subst h
    simp
  | (left, right) :: pairs, ds, h => by
    unfold dominatingPairs at h
    split_ifs at h with hskip
    · have hnot : ¬Compared left right := by
        rintro ⟨hne, hl, hr⟩
        simp [hne, hl, hr] at hskip
      rw [mem_dominatingPairs h]
      constructor
      · rintro ⟨l, r, hmem, hrest⟩
        exact ⟨l, r, List.mem_cons_of_mem _ hmem, hrest⟩
      · rintro ⟨l, r, hmem, hc, hrest⟩
        rcases List.mem_cons.mp hmem with heq | hmem
        · obtain ⟨rfl, rfl⟩ := Prod.mk.inj heq
          exact absurd hc hnot
        · exact ⟨l, r, hmem, hc, hrest⟩
    · have hcompared : Compared left right := by
        simp only [not_or, not_not] at hskip
        exact hskip
      simp only [bind_eq_ok] at h
      obtain ⟨values, hvalues, rest, hrest, h⟩ := h
      have hbetter := better_iff hvalues
      have ih := mem_dominatingPairs (d := d) hrest
      split_ifs at h with hb
      · rw [pure_eq_ok] at h
        subst h
        rw [List.mem_cons, ih]
        constructor
        · rintro (rfl | ⟨l, r, hmem, hc⟩)
          · exact ⟨left, right, List.mem_cons_self, hcompared, hbetter.mp hb, rfl⟩
          · exact ⟨l, r, List.mem_cons_of_mem _ hmem, hc⟩
        · rintro ⟨l, r, hmem, hc, hlt, rfl⟩
          rcases List.mem_cons.mp hmem with heq | hmem
          · obtain ⟨rfl, rfl⟩ := Prod.mk.inj heq
            exact .inl rfl
          · exact .inr ⟨l, r, hmem, hc, hlt, rfl⟩
      · rw [pure_eq_ok] at h
        subst h
        rw [ih]
        constructor
        · rintro ⟨l, r, hmem, hc⟩
          exact ⟨l, r, List.mem_cons_of_mem _ hmem, hc⟩
        · rintro ⟨l, r, hmem, hc, hlt, rfl⟩
          rcases List.mem_cons.mp hmem with heq | hmem
          · obtain ⟨rfl, rfl⟩ := Prod.mk.inj heq
            exact absurd (hbetter.mpr hlt) hb
          · exact ⟨l, r, hmem, hc, hlt, rfl⟩

/-- A dominance list that is the product order of some measure. -/
def Ordered (results : List RouteAssessmentResult) (shared : List String) (dominance : List Dominance) : Prop :=
  ∀ d, d ∈ dominance ↔ ∃ left ∈ results, ∃ right ∈ results, Compared left right ∧
    measure shared right < measure shared left ∧ d = ⟨left.routeId, right.routeId⟩

theorem paretoDominance_ordered {results : List RouteAssessmentResult} {shared : List String}
    {dominance : List Dominance} (h : paretoDominance results shared = .ok dominance) :
    Ordered results shared dominance := by
  intro d
  rw [mem_dominatingPairs h]
  constructor
  · rintro ⟨left, right, hmem, hrest⟩
    simp only [List.mem_flatMap, List.mem_map, Prod.mk.injEq] at hmem
    obtain ⟨l, hl, r, hr, rfl, rfl⟩ := hmem
    exact ⟨l, hl, r, hr, hrest⟩
  · rintro ⟨left, hl, right, hr, hrest⟩
    refine ⟨left, right, ?_, hrest⟩
    simp only [List.mem_flatMap, List.mem_map, Prod.mk.injEq]
    exact ⟨left, hl, right, hr, rfl, rfl⟩

/-- A relation between routes. -/
def Dominates (dominance : List Dominance) (x y : FormalRoute) : Prop := (⟨x, y⟩ : Dominance) ∈ dominance

/-- A strict partial order. -/
structure StrictPartialOrder {α : Type} (R : α → α → Prop) : Prop where
  irrefl : ∀ x, ¬R x x
  asymm : ∀ x y, R x y → ¬R y x
  trans : ∀ x y z, R x y → R y z → R x z

section Order

variable {results : List RouteAssessmentResult} {shared : List String} {dominance : List Dominance}

/-- Each route is assessed once. -/
def OncePerRoute (results : List RouteAssessmentResult) : Prop :=
  ∀ r ∈ results, ∀ r' ∈ results, r.routeId = r'.routeId → r = r'

theorem Ordered.dominates_iff (h : Ordered results shared dominance) {x y : FormalRoute} :
    Dominates dominance x y ↔ ∃ left ∈ results, ∃ right ∈ results, Compared left right ∧
      measure shared right < measure shared left ∧ left.routeId = x ∧ right.routeId = y := by
  unfold Dominates
  rw [h]
  constructor
  · rintro ⟨left, hl, right, hr, hc, hlt, heq⟩
    obtain ⟨rfl, rfl⟩ := Dominance.mk.inj heq
    exact ⟨left, hl, right, hr, hc, hlt, rfl, rfl⟩
  · rintro ⟨left, hl, right, hr, hc, hlt, rfl, rfl⟩
    exact ⟨left, hl, right, hr, hc, hlt, rfl⟩

theorem Ordered.strict (h : Ordered results shared dominance) (honce : OncePerRoute results) :
    StrictPartialOrder (Dominates dominance) := by
  have hirrefl : ∀ x, ¬Dominates dominance x x := by
    intro x hx
    obtain ⟨left, _, right, _, hc, _, hl, hr⟩ := h.dominates_iff.mp hx
    exact hc.1 (hl.trans hr.symm)
  have htrans : ∀ x y z, Dominates dominance x y → Dominates dominance y z → Dominates dominance x z := by
    intro x y z hxy hyz
    obtain ⟨a, ha, b, hb, hab, hlt, hax, hby⟩ := h.dominates_iff.mp hxy
    obtain ⟨b', hb', c, hcm, hbc, hlt', hby', hcz⟩ := h.dominates_iff.mp hyz
    have hbb : b = b' := honce b hb b' hb' (hby.trans hby'.symm)
    subst hbb
    have hac : measure shared c < measure shared a := hlt'.trans hlt
    refine h.dominates_iff.mpr ⟨a, ha, c, hcm, ⟨?_, hab.2.1, hbc.2.2⟩, hac, hax, hcz⟩
    intro heq
    have hsame := honce a ha c hcm heq
    subst hsame
    exact lt_irrefl _ hac
  exact ⟨hirrefl, fun x y hxy hyx => hirrefl x (htrans x y x hxy hyx), htrans⟩

end Order

/-! ### What a returned assessment is made of -/

section Assessed

variable {ι : Type} {env : Environment ι} {routeInputs : List RouteAssessmentInput}

theorem assessRoute_ok {input : RouteAssessmentInput} {result : RouteAssessmentResult}
    (h : assessRoute env input = .ok result) :
    result.routeId = input.routeId ∧ result.U.rankStable = rankStable input.uncertaintyScenarios := by
  simp only [assessRoute, bind_eq_ok, pure_eq_ok] at h
  obtain ⟨_, _, _, _, _, _, _, _, _, _, _, _, rfl⟩ := h
  exact ⟨rfl, rfl⟩

/-- The parts of an assessment that the decision rests on. -/
structure Assessed (env : Environment ι) (routeInputs : List RouteAssessmentInput) (result : AssessmentResult)
    (sharedBasis : Bool) : Prop where
  routes : routeInputs.map RouteAssessmentInput.routeId = formalRoutes
  results : List.Forall₂ (fun input r => assessRoute env input = .ok r) routeInputs result.routes
  dominance : (sharedBasis = false ∧ result.dominance = []) ∨
    (sharedBasis = true ∧ ∃ shared, paretoDominance result.routes shared = .ok result.dominance)
  decisionState : result.decisionState = decisionStateOf routeInputs result.routes
    (uniquelySupportedWinner routeInputs result.routes sharedBasis result.dominance)
  preferredRoute : result.preferredRoute = if result.decisionState = .answer then
    uniquelySupportedWinner routeInputs result.routes sharedBasis result.dominance else none

theorem assess_ok {basisInput : ι} {result : AssessmentResult} (h : assess env basisInput routeInputs = .ok result) :
    ∃ sharedBasis, Assessed env routeInputs result sharedBasis := by
  simp only [assess, rejectIf, bind_eq_ok, throwIf_eq_ok, pure_eq_ok] at h
  obtain ⟨_, _, _, hids, _, _, _, _, _, _, _, _, _, _, results, hresults, _, _, _, _, dominance, hdominance, _, _, rfl⟩ := h
  refine ⟨_, ⟨not_not.mp (not_or.mp hids).1, mapM_ok hresults, ?_, rfl, rfl⟩⟩
  unfold dominanceOf at hdominance
  split_ifs at hdominance with hshared
  · exact .inr ⟨hshared, _, hdominance⟩
  · exact .inl ⟨by simpa using hshared, (Except.ok.inj hdominance).symm⟩

theorem formalRoutes_nodup : formalRoutes.Nodup := by decide

/-- The results are of the formal routes, in order. -/
theorem routeIds_of_forall₂ {results : List RouteAssessmentResult} :
    ∀ {inputs : List RouteAssessmentInput}, List.Forall₂ (fun input r => assessRoute env input = .ok r) inputs results →
      results.map RouteAssessmentResult.routeId = inputs.map RouteAssessmentInput.routeId := by
  intro inputs h
  induction h with
  | nil => rfl
  | cons hr _ ih => rw [List.map_cons, List.map_cons, ih, (assessRoute_ok hr).1]

variable {result : AssessmentResult} {sharedBasis : Bool}

theorem Assessed.once (h : Assessed env routeInputs result sharedBasis) : OncePerRoute result.routes := by
  have hnodup : (result.routes.map RouteAssessmentResult.routeId).Nodup := by
    rw [routeIds_of_forall₂ h.results, h.routes]
    exact formalRoutes_nodup
  intro r hr r' hr' heq
  exact List.inj_on_of_nodup_map hnodup hr hr' heq

/-- A result and the input of the same route belong together. -/
theorem Assessed.pair (h : Assessed env routeInputs result sharedBasis) {input : RouteAssessmentInput}
    {r : RouteAssessmentResult} (hinput : input ∈ routeInputs) (hr : r ∈ result.routes)
    (heq : r.routeId = input.routeId) : assessRoute env input = .ok r := by
  have hnodup : (routeInputs.map RouteAssessmentInput.routeId).Nodup := by
    rw [h.routes]
    exact formalRoutes_nodup
  obtain ⟨i, hi, rfl⟩ := List.mem_iff_getElem.mp hr
  have hlength := h.results.length_eq
  have hassessed := (List.forall₂_iff_get.mp h.results).2 i (by omega) hi
  have hsame : routeInputs[i] = input :=
    List.inj_on_of_nodup_map hnodup (List.getElem_mem _) hinput ((assessRoute_ok hassessed).1.symm.trans heq)
  rw [← hsame]
  exact hassessed

theorem Assessed.strict (h : Assessed env routeInputs result sharedBasis) :
    StrictPartialOrder (Dominates result.dominance) := by
  rcases h.dominance with ⟨_, hnil⟩ | ⟨_, shared, hpareto⟩
  · rw [hnil]
    exact ⟨fun _ hx => absurd hx List.not_mem_nil, fun _ _ hx => absurd hx List.not_mem_nil,
      fun _ _ _ hx => absurd hx List.not_mem_nil⟩
  · exact (paretoDominance_ordered hpareto).strict h.once

/-- Only routes that pass dominate. -/
theorem Assessed.dominant_pass (h : Assessed env routeInputs result sharedBasis) {x y : FormalRoute}
    (hxy : Dominates result.dominance x y) : ∃ r ∈ result.routes, r.G = .pass ∧ r.routeId = x := by
  rcases h.dominance with ⟨_, hnil⟩ | ⟨_, shared, hpareto⟩
  · unfold Dominates at hxy
    rw [hnil] at hxy
    exact absurd hxy List.not_mem_nil
  · obtain ⟨left, hl, _, _, hc, _, hx, _⟩ := (paretoDominance_ordered hpareto).dominates_iff.mp hxy
    exact ⟨left, hl, hc.2.1, hx⟩

end Assessed

/-! ### Stable ranks -/

/-- A stable ranking: every scenario passes, with one rank. -/
theorem rankStable_spec {scenarios : List UncertaintyScenario} (h : rankStable scenarios = true) :
    scenarios ≠ [] ∧ ∃ rank, ∀ scenario ∈ scenarios, scenario.gate = .pass ∧ scenario.routeRank = some rank := by
  simp only [rankStable, passCount, Bool.and_eq_true, decide_eq_true_eq, List.all_eq_true] at h
  obtain ⟨⟨⟨hpass, hpos⟩, hlength⟩, hsame⟩ := h
  have hgate : ∀ scenario ∈ scenarios, scenario.gate = .pass := by
    intro scenario hmem
    simpa using List.length_filter_eq_length_iff.mp (of_decide_eq_true hpass) scenario hmem
  have hsome : ∀ scenario ∈ scenarios, scenario.routeRank.isSome = true := List.filterMap_length_eq_length.mp hlength
  obtain ⟨rank, hrank⟩ := List.exists_mem_of_length_pos hpos
  have hhead : (ranksOf scenarios).head? = some rank := (hsame rank hrank).symm
  refine ⟨?_, rank, fun scenario hmem => ⟨hgate scenario hmem, ?_⟩⟩
  · rintro rfl
    simp [ranksOf] at hpos
  · obtain ⟨k, hk⟩ := Option.isSome_iff_exists.mp (hsome scenario hmem)
    have hin : k ∈ ranksOf scenarios := List.mem_filterMap.mpr ⟨scenario, hmem, hk⟩
    rw [hk, hsame k hin, hhead]

theorem onlyOne_eq_some {α : Type} {xs : List α} {a : α} (h : onlyOne xs = some a) : xs = [a] := by
  unfold onlyOne at h
  split at h
  · rw [Option.some.inj h]
  · simp at h

/-! ### The preferred route -/

section Preferred

variable {ι : Type} {env : Environment ι} {routeInputs : List RouteAssessmentInput} {result : AssessmentResult}
  {sharedBasis : Bool}

/-- What an answer rules out. -/
theorem answer_checks {winner : Option FormalRoute} (h : decisionStateOf routeInputs result.routes winner = .answer) :
    hasCriticalConflict routeInputs = false ∧ hasUnknown result.routes = false ∧
      allRanksStable result.routes = true ∧ winner.isSome = true := by
  unfold decisionStateOf at h
  split_ifs at h with hconflict hother
  simp only [Bool.or_eq_true, Bool.not_eq_true', not_or, Bool.not_eq_true, Bool.not_eq_false] at hother
  refine ⟨by simpa using hconflict, hother.1.1, hother.1.2, ?_⟩
  rw [← Option.isNone_eq_false_iff]
  exact hother.2

/-- A uniquely supported winner is the stable winner and the only undominated
route that passes. -/
theorem winner_spec {p : FormalRoute}
    (h : uniquelySupportedWinner routeInputs result.routes sharedBasis result.dominance = some p) :
    (∃ input r, (input, r) ∈ stableWinners routeInputs result.routes ∧ r.routeId = p) ∧
      ∃ u, undominatedPassRoutes result.routes result.dominance = [u] ∧ u.routeId = p := by
  unfold uniquelySupportedWinner at h
  split_ifs at h with hcond
  have hundominated := hcond.2.trans h
  obtain ⟨u, hu, hup⟩ := Option.map_eq_some_iff.mp hundominated
  unfold stableWinner at h
  obtain ⟨⟨input, r⟩, hwinner, hr⟩ := Option.map_eq_some_iff.mp h
  refine ⟨⟨input, r, ?_, hr⟩, u, onlyOne_eq_some hu, hup⟩
  rw [onlyOne_eq_some hwinner]
  exact List.mem_singleton_self _

theorem mem_undominatedPassRoutes {r : RouteAssessmentResult} :
    r ∈ undominatedPassRoutes result.routes result.dominance ↔
      (r ∈ result.routes ∧ r.G = .pass) ∧ ∀ q, ¬Dominates result.dominance q r.routeId := by
  simp only [undominatedPassRoutes, passResults, List.mem_filter, decide_eq_true_eq, List.mem_map, not_exists, not_and,
    Dominates]
  refine and_congr_right fun _ => ⟨fun h q hq => h _ hq rfl, fun h d hd hdr => h d.dominant ?_⟩
  rw [← hdr]
  exact hd

/-- A stable winner is first in every scenario, once all rankings are stable. -/
theorem stableWinner_spec (h : Assessed env routeInputs result sharedBasis)
    (hstable : allRanksStable result.routes = true) {input : RouteAssessmentInput} {r : RouteAssessmentResult}
    (hmem : (input, r) ∈ stableWinners routeInputs result.routes) :
    input ∈ routeInputs ∧ r ∈ result.routes ∧ r.routeId = input.routeId ∧ r.G = .pass ∧
      input.uncertaintyScenarios ≠ [] ∧
      ∀ scenario ∈ input.uncertaintyScenarios, scenario.gate = .pass ∧ scenario.routeRank = some (.finite 1) := by
  simp only [stableWinners, List.mem_filter, Bool.and_eq_true, decide_eq_true_eq, List.all_eq_true] at hmem
  obtain ⟨hzip, ⟨hpass, _⟩, hfirst⟩ := hmem
  obtain ⟨hinput, hr⟩ := List.of_mem_zip hzip
  have hassessed := (List.forall₂_iff_zip.mp h.results).2 hzip
  obtain ⟨hid, hrank⟩ := assessRoute_ok hassessed
  have hrstable : r.U.rankStable = true :=
    List.all_eq_true.mp hstable r (List.mem_filter.mpr ⟨hr, by simpa using hpass⟩)
  obtain ⟨hne, rank, hall⟩ := rankStable_spec (hrank ▸ hrstable)
  refine ⟨hinput, hr, hid, hpass, hne, fun scenario hs => ⟨(hall scenario hs).1, ?_⟩⟩
  have hin : rank ∈ ranksOf input.uncertaintyScenarios := List.mem_filterMap.mpr ⟨scenario, hs, (hall scenario hs).2⟩
  rw [(hall scenario hs).2, hfirst rank hin]

/-- **The preference is conservative.** An answer prefers a route that passes
its gate and is first in each of its scenarios, of which there is one, that
dominates every other route that passes and is dominated by none; there is then
no unknown gate, no critical conflict and no unstable ranking. Without an
answer no route is preferred. Dominance is a strict partial order. -/
theorem preference_conservative {ι : Type} (env : Environment ι) (basisInput : ι)
    (routeInputs : List RouteAssessmentInput) (result : AssessmentResult)
    (h : assess env basisInput routeInputs = .ok result) :
    (result.decisionState = .answer → ∃ p, result.preferredRoute = some p ∧
      (∃ r ∈ result.routes, r.routeId = p ∧ r.G = .pass) ∧
      (∃ input ∈ routeInputs, input.routeId = p ∧ input.uncertaintyScenarios ≠ [] ∧
        ∀ scenario ∈ input.uncertaintyScenarios, scenario.gate = .pass ∧ scenario.routeRank = some (.finite 1)) ∧
      (∀ r ∈ result.routes, r.G = .pass → r.routeId ≠ p → ⟨p, r.routeId⟩ ∈ result.dominance) ∧
      (∀ q, ⟨q, p⟩ ∉ result.dominance) ∧
      (∀ r ∈ result.routes, r.G ≠ .unknown) ∧
      (∀ input ∈ routeInputs, ∀ item ∈ input.evidence, ¬(item.conflicting = true ∧ item.critical = true)) ∧
      ∀ input ∈ routeInputs, ∀ r ∈ result.routes, r.routeId = input.routeId → r.G = .pass →
        ∃ rank, ∀ scenario ∈ input.uncertaintyScenarios, scenario.gate = .pass ∧ scenario.routeRank = some rank) ∧
    (result.decisionState ≠ .answer → result.preferredRoute = none) ∧
    (∀ x, ⟨x, x⟩ ∉ result.dominance) ∧
    (∀ x y, ⟨x, y⟩ ∈ result.dominance → ⟨y, x⟩ ∉ result.dominance) ∧
    ∀ x y z, ⟨x, y⟩ ∈ result.dominance → ⟨y, z⟩ ∈ result.dominance → ⟨x, z⟩ ∈ result.dominance := by
  obtain ⟨sharedBasis, ha⟩ := assess_ok h
  have hstrict := ha.strict
  refine ⟨fun hanswer => ?_, fun hnot => by rw [ha.preferredRoute, if_neg hnot], hstrict.irrefl, hstrict.asymm,
    hstrict.trans⟩
  obtain ⟨hconflict, hunknown, hstable, hwinner⟩ := answer_checks (ha.decisionState ▸ hanswer)
  obtain ⟨p, hp⟩ := Option.isSome_iff_exists.mp hwinner
  obtain ⟨⟨input, r, hmem, hrp⟩, u, hundominated, hup⟩ := winner_spec hp
  obtain ⟨hinput, hr, hid, hpass, hne, hfirst⟩ := stableWinner_spec ha hstable hmem
  have hu : u ∈ undominatedPassRoutes result.routes result.dominance := by rw [hundominated]; simp
  have hmaximal := (mem_undominatedPassRoutes.mp hu).2
  rw [hup] at hmaximal
  refine ⟨p, by rw [ha.preferredRoute, if_pos hanswer, hp], ⟨r, hr, hrp, hpass⟩,
    ⟨input, hinput, hid.symm.trans hrp, hne, hfirst⟩, fun r' hr' hpass' hne' => ?_, hmaximal, ?_, ?_, ?_⟩
  · refine dominates_of_unique_undominated (S := fun x => ∃ r ∈ result.routes, r.G = .pass ∧ r.routeId = x)
      hstrict.trans hstrict.irrefl (fun x y => ha.dominant_pass) ?_ r'.routeId ⟨r', hr', hpass', rfl⟩ hne'
    rintro y ⟨r'', hr'', hpass'', rfl⟩ hnone
    have hmem'' := mem_undominatedPassRoutes.mpr ⟨⟨hr'', hpass''⟩, hnone⟩
    rw [hundominated] at hmem''
    rw [List.mem_singleton.mp hmem'', hup]
  · intro r' hr' hG
    have hnone := List.any_eq_false.mp hunknown r' hr'
    simp [hG] at hnone
  · rintro input' hinput' item hitem ⟨hc, hcrit⟩
    have hnone := List.any_eq_false.mp hconflict input' hinput'
    exact hnone (List.any_eq_true.mpr ⟨item, hitem, by simp [hc, hcrit]⟩)
  · intro input' hinput' r' hr' heq hpass'
    have hrank := (assessRoute_ok (ha.pair hinput' hr' heq)).2
    have hr'stable : r'.U.rankStable = true :=
      List.all_eq_true.mp hstable r' (List.mem_filter.mpr ⟨hr', by simpa using hpass'⟩)
    exact (rankStable_spec (hrank ▸ hr'stable)).2

end Preferred

/-! ### An assessment -/

namespace Sample

/-- A route with one criterion, one impact of the given size, one cash flow and
one scenario. -/
def route (routeId : FormalRoute) (outcome : Gate) (impact : String) (rating : Rating) (rank : Option JsNumber) :
    RouteAssessmentInput where
  circularity := [⟨"reuse", some rating, "1"⟩]
  economics := ⟨[⟨"60", .finite 1⟩], "EUR", "0.1", "-50.5"⟩
  environmental := [⟨"climate", "0.5", "energy", false, impact, "kg"⟩]
  evidence := [⟨true, false, true, true, "state-of-health", true, false, true⟩]
  functionalUnit := "2"
  routeId := routeId
  ruleEvaluation := ⟨outcome, []⟩
  uncertaintyScenarios := [⟨outcome, "base", rank⟩]
  uncertaintyPercentiles := none

/-- Continued use is better than repurposing; recycling fails its gate. -/
def routes : List RouteAssessmentInput :=
  [route .continuedCompatibleEvUse .pass "3.5" ⟨4, by decide⟩ (some (.finite 1)),
    route .stationaryStorageRepurposing .pass "7.25" ⟨3, by decide⟩ (some (.finite 2)),
    route .recycling .fail "9" ⟨2, by decide⟩ none]

def digest : Digest := ⟨"SHA-256", "inputs"⟩

def environment : Environment Unit where
  parseBasis _ := .ok ⟨"urn:evllm:assessment:1", 1, digest, formalRoutes.map fun routeId => ⟨routeId, ⟨"2", "kWh", 1⟩⟩⟩
  routeCalculationInputsDigest _ := .ok digest
  reproductionHash _ _ _ := .ok ⟨"SHA-256", "result"⟩
  localeCompare left right := if utf16 left < utf16 right then -1 else if utf16 right < utf16 left then 1 else 0

/-- The route an assessment prefers, `none` where it throws. -/
def preferred : Except Thrown AssessmentResult → Option FormalRoute
  | .ok result => result.preferredRoute
  | .error _ => none

theorem preferred_routes : preferred (assess environment () routes) = some .continuedCompatibleEvUse := by
  decide +kernel

end Sample

theorem preference_conservative_three_routes : ∃ result, assess Sample.environment () Sample.routes = .ok result ∧
    result.decisionState = .answer ∧ result.preferredRoute = some .continuedCompatibleEvUse ∧
    ∀ q, ⟨q, .continuedCompatibleEvUse⟩ ∉ result.dominance := by
  have hpreferred := Sample.preferred_routes
  rcases h : assess Sample.environment () Sample.routes with error | result
  · rw [h] at hpreferred
    simp [Sample.preferred] at hpreferred
  · rw [h] at hpreferred
    have hresult := preference_conservative Sample.environment () Sample.routes result h
    have hanswer : result.decisionState = .answer := by
      by_contra hnot
      simp [Sample.preferred, hresult.2.1 hnot] at hpreferred
    obtain ⟨p, hp, _, _, _, hmaximal, _⟩ := hresult.1 hanswer
    obtain rfl : p = .continuedCompatibleEvUse := Option.some.inj (hp.symm.trans hpreferred)
    exact ⟨result, rfl, hanswer, hp, hmaximal⟩

end Decision
end Evllm
