/-
# Computations that may fail

`throwIf c e` is the statement `if (c) throw e` of an imperative function
that is written as a sequence of checks and then its writes. The inversion
lemmas read off a successful run of such a sequence that every check passed.
-/
import Mathlib.Data.List.Forall2
import Mathlib.Tactic.Common

namespace Lib

universe u v

variable {ε α β : Type u}

/-- Fail with `e` if `c` holds. -/
def throwIf {ε : Type u} (c : Prop) [Decidable c] (e : ε) : Except ε PUnit :=
  if c then .error e else .ok ⟨⟩

@[simp] theorem throwIf_eq_ok {c : Prop} [Decidable c] {e : ε} {x : PUnit} :
    throwIf c e = .ok x ↔ ¬c := by
  unfold throwIf
  split_ifs with h <;> simp [h]

theorem throwIf_of_not {c : Prop} [Decidable c] {e : ε} (h : ¬c) : throwIf c e = .ok ⟨⟩ :=
  throwIf_eq_ok.mpr h

/-- A check that passes drops out of the sequence. -/
theorem throwIf_bind_of_not {c : Prop} [Decidable c] {e : ε} {f : PUnit → Except ε β} (h : ¬c) :
    (throwIf c e >>= f) = f ⟨⟩ := by
  rw [throwIf_of_not h]
  rfl

@[simp] theorem bind_eq_ok {x : Except ε α} {f : α → Except ε β} {b : β} :
    (x >>= f) = .ok b ↔ ∃ a, x = .ok a ∧ f a = .ok b := by
  cases x with
  | error e => simp [bind, Except.bind]
  | ok a => simp [bind, Except.bind]

@[simp] theorem pure_eq_ok {a b : α} : (pure a : Except ε α) = .ok b ↔ a = b := by
  simp [pure, Except.pure]

theorem toOption_eq_some {x : Except ε α} {a : α} : x.toOption = some a ↔ x = .ok a := by
  cases x <;> simp [Except.toOption]

/-- A `mapM` that succeeds succeeded on every element, in order. -/
theorem mapM_ok {δ : Type v} {f : δ → Except ε α} : ∀ {xs : List δ} {ys : List α}, xs.mapM f = .ok ys →
    List.Forall₂ (fun x y => f x = .ok y) xs ys
  | [], ys, h => by
    rw [List.mapM_nil, pure_eq_ok] at h
    subst h
    exact .nil
  | x :: xs, ys, h => by
    simp only [List.mapM_cons, bind_eq_ok, pure_eq_ok] at h
    obtain ⟨y, hy, ys', hys, rfl⟩ := h
    exact .cons hy (mapM_ok hys)

/-- A loop of checks passes just if every check does. -/
theorem forM_eq_ok {δ : Type v} {f : δ → Except ε PUnit.{u + 1}} : ∀ {xs : List δ},
    xs.forM f = .ok ⟨⟩ ↔ ∀ x ∈ xs, f x = .ok ⟨⟩
  | [] => by simp [pure_eq_ok]
  | x :: xs => by
    rw [List.forM, bind_eq_ok]
    constructor
    · rintro ⟨⟨⟩, hx, hxs⟩ y hy
      obtain rfl | hy := List.mem_cons.mp hy
      · exact hx
      · exact forM_eq_ok.mp hxs y hy
    · intro h
      exact ⟨⟨⟩, h x List.mem_cons_self, forM_eq_ok.mpr fun y hy => h y (List.mem_cons_of_mem x hy)⟩

/-- What every step of a fold that succeeds keeps, the fold keeps. -/
theorem foldlM_invariant {δ : Type v} {I : β → Prop} {f : β → δ → Except ε β}
    (hstep : ∀ b a b', I b → f b a = .ok b' → I b') :
    ∀ (as : List δ) {b b' : β}, I b → as.foldlM f b = .ok b' → I b'
  | [], b, b', hb, h => by
    rw [List.foldlM_nil, pure_eq_ok] at h
    exact h ▸ hb
  | a :: as, b, b', hb, h => by
    rw [List.foldlM_cons, bind_eq_ok] at h
    obtain ⟨b'', hb'', h⟩ := h
    exact foldlM_invariant hstep as (hstep b a b'' hb hb'') h

/-- The invariant of a fold may speak of the part of the list that is done, and
a step may use where in the list it stands. -/
theorem foldlM_history {δ : Type v} {I : List δ → β → Prop} {f : β → δ → Except ε β} {as : List δ}
    (hstep : ∀ done a rest b b', done ++ a :: rest = as → I done b → f b a = .ok b' → I (done ++ [a]) b') {b b' : β}
    (hb : I [] b) (h : as.foldlM f b = .ok b') : I as b' := by
  have hall : ∀ (rest done : List δ) {b : β}, done ++ rest = as → I done b → rest.foldlM f b = .ok b' → I as b' := by
    intro rest
    induction rest with
    | nil =>
      intro done b hdone hI hfold
      rw [List.foldlM_nil, pure_eq_ok] at hfold
      rw [List.append_nil] at hdone
      exact hfold ▸ hdone ▸ hI
    | cons a rest ih =>
      intro done b hdone hI hfold
      rw [List.foldlM_cons, bind_eq_ok] at hfold
      obtain ⟨c, hc, hfold⟩ := hfold
      exact ih (done ++ [a]) (by rw [← hdone, List.append_assoc]; rfl) (hstep done a rest b c hdone hI hc) hfold
  exact hall as [] rfl hb h

/-! ### Postconditions -/

/-- What the computation returns, if it returns, satisfies `P`. -/
def Ensures (x : Except ε α) (P : α → Prop) : Prop := ∀ a, x = .ok a → P a

theorem ensures_bind {x : Except ε α} {f : α → Except ε β} {P : β → Prop}
    (h : ∀ a, x = .ok a → Ensures (f a) P) : Ensures (x >>= f) P := by
  intro b hb
  obtain ⟨a, ha, hfa⟩ := bind_eq_ok.mp hb
  exact h a ha b hfa

theorem ensures_throwIf {c : Prop} [Decidable c] {e : ε} {f : PUnit → Except ε β} {P : β → Prop}
    (h : ¬c → Ensures (f ⟨⟩) P) : Ensures (throwIf c e >>= f) P :=
  ensures_bind fun _ hc => h (throwIf_eq_ok.mp hc)

theorem ensures_pure {a : α} {P : α → Prop} (h : P a) : Ensures (pure a : Except ε α) P := by
  intro b hb
  rwa [← pure_eq_ok.mp hb]

/-- The computation returns what satisfies `P`, or fails with what satisfies
`E`. -/
def Lands (E : ε → Prop) (x : Except ε α) (P : α → Prop) : Prop :=
  match x with
  | .ok a => P a
  | .error e => E e

section Lands

variable {E : ε → Prop}

theorem lands_pure {a : α} {P : α → Prop} (h : P a) : Lands E (pure a) P := h

theorem lands_bind {x : Except ε α} {f : α → Except ε β} {P : α → Prop} {Q : β → Prop} (hx : Lands E x P)
    (hf : ∀ a, P a → Lands E (f a) Q) : Lands E (x >>= f) Q := by
  cases x with
  | ok a => exact hf a hx
  | error e => exact hx

theorem lands_throwIf {c : Prop} [Decidable c] {e : ε} {f : PUnit → Except ε β} {Q : β → Prop} (he : E e)
    (hf : ¬c → Lands E (f ⟨⟩) Q) : Lands E (throwIf c e >>= f) Q := by
  by_cases hc : c
  · rw [throwIf, if_pos hc]
    exact he
  · rw [throwIf_bind_of_not hc]
    exact hf hc

theorem Lands.mono {x : Except ε α} {P Q : α → Prop} (h : Lands E x P) (hPQ : ∀ a, P a → Q a) : Lands E x Q := by
  cases x with
  | ok a => exact hPQ a h
  | error e => exact h

theorem lands_mapM {δ : Type v} {f : δ → Except ε α} {P : α → Prop} :
    ∀ {xs : List δ}, (∀ x ∈ xs, Lands E (f x) P) → Lands E (xs.mapM f) fun ys => ∀ y ∈ ys, P y
  | [], _ => by
    rw [List.mapM_nil]
    exact lands_pure (by simp)
  | x :: xs, h => by
    rw [List.mapM_cons]
    refine lands_bind (h x (.head _)) fun y hy => ?_
    refine lands_bind (lands_mapM fun x' hx' => h x' (.tail _ hx')) fun ys hys => lands_pure ?_
    exact List.forall_mem_cons.mpr ⟨hy, hys⟩

/-- The invariant of a fold may speak of what is left of the list. -/
theorem lands_foldlM {δ : Type v} {f : β → δ → Except ε β} {I : List δ → β → Prop}
    (hstep : ∀ a as b, I (a :: as) b → Lands E (f b a) (I as)) :
    ∀ (as : List δ) {b : β}, I as b → Lands E (as.foldlM f b) (I [])
  | [], _, h => h
  | a :: as, b, h => by
    rw [List.foldlM_cons]
    exact lands_bind (hstep a as b h) fun b' hb' => lands_foldlM hstep as hb'

/-- What fails in no way returns. -/
theorem exists_of_lands {x : Except ε α} {P : α → Prop} (h : Lands (fun _ => False) x P) : ∃ a, x = .ok a ∧ P a := by
  cases x with
  | error e => exact h.elim
  | ok a => exact ⟨a, rfl, h⟩

theorem lands_filterAuxM {ε δ : Type} {E : ε → Prop} {f : δ → Except ε Bool} : ∀ {xs : List δ} (kept : List δ),
    (∀ x ∈ xs, Lands E (f x) fun _ => True) → Lands E (xs.filterAuxM f kept) fun _ => True
  | [], _, _ => trivial
  | x :: xs, kept, h => by
    rw [List.filterAuxM]
    exact lands_bind (h x (.head _)) fun b _ => lands_filterAuxM _ fun x' hx' => h x' (.tail _ hx')

theorem lands_filterM {ε δ : Type} {E : ε → Prop} {f : δ → Except ε Bool} {xs : List δ}
    (h : ∀ x ∈ xs, Lands E (f x) fun _ => True) : Lands E (xs.filterM f) fun _ => True := by
  rw [List.filterM]
  exact lands_bind (lands_filterAuxM [] h) fun _ _ => trivial

end Lands

/-! ### Two computations that agree -/

/-- Both return, and what they return is related, or both fail with the same. -/
def Agree {γ : Type v} (R : α → γ → Prop) : Except ε α → Except ε γ → Prop
  | .ok a, .ok c => R a c
  | .error e, .error e' => e = e'
  | _, _ => False

section Agree

variable {γ δ : Type u} {R : α → γ → Prop}

theorem Agree.mono {S : α → γ → Prop} {x : Except ε α} {y : Except ε γ} (h : Agree R x y) (hRS : ∀ a c, R a c → S a c) :
    Agree S x y := by
  cases x <;> cases y <;> first | exact h | exact hRS _ _ h

theorem agree_refl (x : Except ε α) : Agree Eq x x := by
  cases x <;> rfl

theorem agree_pure {a : α} {c : γ} (h : R a c) : Agree R (pure a : Except ε α) (pure c : Except ε γ) := h

theorem agree_bind {S : β → δ → Prop} {x : Except ε α} {y : Except ε γ} {f : α → Except ε β} {g : γ → Except ε δ}
    (h : Agree R x y) (hfg : ∀ a c, R a c → Agree S (f a) (g c)) : Agree S (x >>= f) (y >>= g) := by
  cases x <;> cases y <;> first | exact h.elim | exact h | exact hfg _ _ h

/-- The same computation may be run first. -/
theorem agree_bind_same {S : β → δ → Prop} (x : Except ε α) {f : α → Except ε β} {g : α → Except ε δ}
    (hfg : ∀ a, Agree S (f a) (g a)) : Agree S (x >>= f) (x >>= g) :=
  agree_bind (agree_refl x) fun a _ ha => ha ▸ hfg a

end Agree

end Lib
