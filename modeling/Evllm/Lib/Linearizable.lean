/-
# Linearization points

A machine with any number of calls, whose state stands for an abstract one, and the
effect that each call is known to have. Where every step of the machine changes
nothing abstract, or is where one call takes its effect, the effects in the order
they are taken are a sequential history of the abstract state
(`linearizes_history`): the history only grows, and a call is in it just when its
effect is known.

Key definitions: `Legal`, `AtomicStep`, `Linearizes`, `history`.
Key theorems: `legal_append`, `linearizes_history`, `history_prefix`,
`atomicStep_append`, `atomicStep_set`.
-/
import Evllm.Lib.Run
import Mathlib.Data.List.Induction
import Mathlib.Data.List.Nodup

namespace Lib

universe u v w x

variable {σ : Type u} {ι : Type v} {α : Type w} {ω : Type x}

/-! ### Sequential histories -/

/-- The effects of the calls lead from one abstract state to another. -/
def Legal (takes : α → ω → α → Prop) : α → List (ℕ × ω) → α → Prop
  | a, [], b => a = b
  | a, e :: H, b => ∃ c, takes a e.2 c ∧ Legal takes c H b

variable {takes : α → ω → α → Prop}

theorem legal_append : ∀ (G H : List (ℕ × ω)) {a b : α},
    Legal takes a (G ++ H) b ↔ ∃ c, Legal takes a G c ∧ Legal takes c H b
  | [], H, a, b => by simp [Legal]
  | e :: G, H, a, b => by
    simp only [List.cons_append, Legal, legal_append G H]
    exact ⟨fun ⟨d, hd, c, hG, hH⟩ => ⟨c, ⟨d, hd, hG⟩, hH⟩, fun ⟨c, ⟨d, hd, hG⟩, hH⟩ => ⟨d, hd, c, hG, hH⟩⟩

/-- What holds at first and after every effect, but for those of a kind, holds at the
end of a history without them. -/
theorem legal_invariant {P : α → Prop} {Q : ω → Prop} (htakes : ∀ a x b, takes a x b → ¬Q x → P a → P b) :
    ∀ (H : List (ℕ × ω)) {a b : α}, Legal takes a H b → (∀ e ∈ H, ¬Q e.2) → P a → P b
  | [], _, _, h, _, ha => h ▸ ha
  | e :: H, a, _, ⟨c, hc, hH⟩, hQ, ha =>
    legal_invariant htakes H hH (fun e' he' => hQ e' (List.mem_cons_of_mem e he'))
      (htakes a e.2 c hc (hQ e List.mem_cons_self) ha)

/-! ### Effects of the calls of a machine -/

variable (takes) (step : σ → ι → σ) (start : σ) (abs : σ → α) (effect : σ → ℕ → Option ω)

/-- A step takes the effect of at most one call. -/
inductive AtomicStep (s s' : σ) : Prop where
  | silent (habs : abs s' = abs s) (heffect : ∀ i, effect s' i = effect s i)
  | takes (i : ℕ) (x : ω) (hbefore : effect s i = none) (hafter : effect s' i = some x)
      (hframe : ∀ j, j ≠ i → effect s' j = effect s j) (htakes : takes (abs s) x (abs s'))

/-- `H` is a history of the calls of `s`. -/
structure Linearizes (s : σ) (H : List (ℕ × ω)) : Prop where
  legal : Legal takes (abs start) H (abs s)
  mem_iff : ∀ i x, (i, x) ∈ H ↔ effect s i = some x
  nodup : (H.map Prod.fst).Nodup

/-- The effect that the step takes. -/
noncomputable def taken (s s' : σ) : List (ℕ × ω) :=
  open Classical in if h : ∃ e : ℕ × ω, effect s e.1 = none ∧ effect s' e.1 = some e.2 then [h.choose] else []

noncomputable def historyStep (c : σ × List (ℕ × ω)) (l : ι) : σ × List (ℕ × ω) :=
  (step c.1 l, c.2 ++ taken effect c.1 (step c.1 l))

/-- The effects of a run, in the order they are taken. -/
noncomputable def history (ls : List ι) : List (ℕ × ω) := (run (historyStep step effect) (start, []) ls).2

variable {takes step start abs effect}

theorem taken_silent {s s' : σ} (h : ∀ i, effect s' i = effect s i) : taken effect s s' = [] := by
  refine dif_neg fun ⟨e, hbefore, hafter⟩ => ?_
  rw [h, hbefore] at hafter
  cases hafter

theorem taken_eq {s s' : σ} {i : ℕ} {x : ω} (hbefore : effect s i = none) (hafter : effect s' i = some x)
    (hframe : ∀ j, j ≠ i → effect s' j = effect s j) : taken effect s s' = [(i, x)] := by
  have h : ∃ e : ℕ × ω, effect s e.1 = none ∧ effect s' e.1 = some e.2 := ⟨(i, x), hbefore, hafter⟩
  obtain ⟨hnone, hsome⟩ := h.choose_spec
  have hi : h.choose.1 = i := by
    by_contra hne
    rw [hframe _ hne, hnone] at hsome
    cases hsome
  have hx : h.choose.2 = x := by
    rw [hi, hafter] at hsome
    exact (Option.some.inj hsome).symm
  rw [taken, dif_pos h]
  exact congrArg (fun e => [e]) (Prod.ext hi hx)

theorem Linearizes.extend {s s' : σ} {H : List (ℕ × ω)} (h : Linearizes takes start abs effect s H)
    (hstep : AtomicStep takes abs effect s s') : Linearizes takes start abs effect s' (H ++ taken effect s s') := by
  cases hstep with
  | silent habs heffect =>
    rw [taken_silent heffect, List.append_nil]
    exact ⟨habs ▸ h.legal, fun i x => (h.mem_iff i x).trans (by rw [heffect]), h.nodup⟩
  | takes i x hbefore hafter hframe htakes =>
    rw [taken_eq hbefore hafter hframe]
    have hnew : ∀ y, (i, y) ∉ H := fun y hy => by
      rw [h.mem_iff, hbefore] at hy
      cases hy
    refine ⟨(legal_append _ _).mpr ⟨_, h.legal, _, htakes, rfl⟩, fun j y => ?_, ?_⟩
    · rw [List.mem_append, List.mem_singleton, Prod.mk.injEq]
      by_cases hj : j = i
      · subst hj
        rw [hafter, Option.some.injEq, eq_comm (a := x)]
        exact ⟨fun hmem => hmem.elim (fun hy => absurd hy (hnew y)) And.right, fun hy => Or.inr ⟨rfl, hy⟩⟩
      · rw [hframe j hj, ← h.mem_iff]
        exact ⟨fun hmem => hmem.elim id fun he => absurd he.1 hj, Or.inl⟩
    · rw [List.map_append, List.nodup_append]
      refine ⟨h.nodup, List.nodup_singleton i, fun j hj k hk hjk => ?_⟩
      obtain ⟨e, he, rfl⟩ := List.mem_map.mp hj
      obtain rfl := List.mem_singleton.mp (hjk ▸ hk)
      exact hnew e.2 he

/-- **A machine whose steps are atomic has a sequential history.** -/
theorem linearizes_history {I : σ → Prop} (hI : ∀ s l, I s → I (step s l)) (hstart : I start)
    (hnone : ∀ i, effect start i = none) (hatomic : ∀ s l, I s → AtomicStep takes abs effect s (step s l)) (ls : List ι) :
    Linearizes takes start abs effect (run step start ls) (history step start effect ls) := by
  have hpair : ∀ ls, (run (historyStep step effect) (start, []) ls).1 = run step start ls ∧
      I (run step start ls) ∧ Linearizes takes start abs effect (run step start ls) (history step start effect ls) := by
    intro ls
    induction ls using List.reverseRecOn with
    | nil => exact ⟨rfl, hstart, rfl, fun i x => by simp [history, hnone], List.nodup_nil⟩
    | append_singleton ls l ih =>
      obtain ⟨hstate, hinvariant, hlinear⟩ := ih
      refine ⟨?_, ?_, ?_⟩
      · rw [run_append, run_append, run_cons, run_cons, run_nil, run_nil, historyStep, hstate]
      · rw [run_append]
        exact hI _ l hinvariant
      · have hhistory : history step start effect (ls ++ [l]) =
            history step start effect ls ++ taken effect (run step start ls) (step (run step start ls) l) := by
          rw [history, run_append, run_cons, run_nil, historyStep, hstate]
          rfl
        rw [hhistory, run_append]
        exact hlinear.extend (hatomic _ l hinvariant)
  exact (hpair ls).2.2

theorem history_prefix (ls ms : List ι) : history step start effect ls <+: history step start effect (ls ++ ms) := by
  rw [history, history, run_append]
  generalize run (historyStep step effect) (start, []) ls = c
  exact run_related (I := fun _ => True) (R := fun c d : σ × List (ℕ × ω) => c.2 <+: d.2) (fun _ => List.prefix_refl _)
    (fun _ _ _ => List.IsPrefix.trans) (fun _ _ _ => trivial) (fun _ _ _ => List.prefix_append _ _) ms trivial

/-! ### Machines with a list of calls -/

section Calls

variable {κ : Type x} {calls : σ → List κ} {known : κ → Option ω} {s s' : σ}

/-- A call is added, that may have its effect at once. -/
theorem atomicStep_append {c : κ} (hcalls : calls s' = calls s ++ [c])
    (h : (known c = none ∧ abs s' = abs s) ∨ ∃ x, known c = some x ∧ takes (abs s) x (abs s')) :
    AtomicStep takes abs (fun s i => (calls s)[i]?.bind known) s s' := by
  have hnew : (calls s')[(calls s).length]? = some c := by rw [hcalls, List.getElem?_concat_length]
  have hold : ∀ j, j ≠ (calls s).length → (calls s')[j]? = (calls s)[j]? := fun j hj => by
    rw [hcalls, List.getElem?_append]
    split_ifs with hlt
    · rfl
    · rw [List.getElem?_eq_none (Nat.not_lt.mp hlt), List.getElem?_eq_none]
      rw [List.length_singleton]
      omega
  have hnone : (calls s)[(calls s).length]? = none := List.getElem?_eq_none (Nat.le_refl _)
  rcases h with ⟨hunknown, habs⟩ | ⟨x, hknown, htakes⟩
  · refine .silent habs fun j => ?_
    by_cases hj : j = (calls s).length
    · subst hj
      simp only [hnew, hnone, Option.bind_some, Option.bind_none, hunknown]
    · simp only [hold j hj]
  · exact .takes (calls s).length x (by simp only [hnone, Option.bind_none]) (by simp only [hnew, Option.bind_some, hknown])
      (fun j hj => by simp only [hold j hj]) htakes

/-- A call moves on. -/
theorem atomicStep_set {i : ℕ} {c c' : κ} (hc : (calls s)[i]? = some c) (hcalls : calls s' = (calls s).set i c')
    (h : (known c' = known c ∧ abs s' = abs s) ∨ known c = none ∧ ∃ x, known c' = some x ∧ takes (abs s) x (abs s')) :
    AtomicStep takes abs (fun s i => (calls s)[i]?.bind known) s s' := by
  have hnew : (calls s')[i]? = some c' := by
    rw [hcalls, List.getElem?_set_self (List.getElem?_eq_some_iff.mp hc).1]
  have hold : ∀ j, j ≠ i → (calls s')[j]? = (calls s)[j]? := fun j hj => by
    rw [hcalls, List.getElem?_set_ne (Ne.symm hj)]
  rcases h with ⟨hsame, habs⟩ | ⟨hunknown, x, hknown, htakes⟩
  · refine .silent habs fun j => ?_
    by_cases hj : j = i
    · subst hj
      simp only [hnew, hc, Option.bind_some, hsame]
    · simp only [hold j hj]
  · exact .takes i x (by simp only [hc, Option.bind_some, hunknown]) (by simp only [hnew, Option.bind_some, hknown])
      (fun j hj => by simp only [hold j hj]) htakes

end Calls

end Lib
