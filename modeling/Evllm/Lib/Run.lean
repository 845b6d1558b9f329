/-
# Runs of a step function

A system is a step function on its states: `step s l` is the state after the
event `l`, and an event that a state refuses leaves it as it is. A run is a
list of events. What one step keeps, a run keeps (`run_invariant`,
`run_guarded`, `guarded_iff`), a relation that one step respects relates the
ends of a run (`run_related`), and what is so at the end of a run and was not
at its start became so at one of its steps (`run_first`).

A step is often a call that may fail and then changes nothing (`attempt`).
-/
import Mathlib.Data.List.Basic
import Mathlib.Tactic.Common

namespace Lib

universe u v

variable {σ : Type u} {ι : Type v} (step : σ → ι → σ)

/-- The state after the events `ls`. -/
def run (s : σ) (ls : List ι) : σ := ls.foldl step s

@[simp] theorem run_nil (s : σ) : run step s [] = s := rfl

@[simp] theorem run_cons (s : σ) (l : ι) (ls : List ι) : run step s (l :: ls) = run step (step s l) ls := rfl

theorem run_append (s : σ) (ls ms : List ι) : run step s (ls ++ ms) = run step (run step s ls) ms :=
  List.foldl_append

variable {step}

/-- What every step keeps, every run keeps. -/
theorem run_invariant {I : σ → Prop} (hstep : ∀ s l, I s → I (step s l)) :
    ∀ (ls : List ι) {s : σ}, I s → I (run step s ls)
  | [], _, h => h
  | l :: ls, s, h => run_invariant hstep ls (hstep s l h)

/-- A preorder that every step from an invariant state respects relates the
ends of every run. -/
theorem run_related {I : σ → Prop} {R : σ → σ → Prop} (hrefl : ∀ s, R s s)
    (htrans : ∀ s t u, R s t → R t u → R s u) (hstep : ∀ s l, I s → I (step s l))
    (hR : ∀ s l, I s → R s (step s l)) :
    ∀ (ls : List ι) {s : σ}, I s → R s (run step s ls)
  | [], s, _ => hrefl s
  | l :: ls, s, h =>
    htrans _ _ _ (hR s l h) (run_related hrefl htrans hstep hR ls (hstep s l h))

variable (step) in
/-- Every step of the run meets the condition `C` in the state before it. -/
def Guarded (C : σ → ι → Prop) : σ → List ι → Prop
  | _, [] => True
  | s, l :: ls => C s l ∧ Guarded C (step s l) ls

instance decidableGuarded {C : σ → ι → Prop} [∀ s l, Decidable (C s l)] :
    ∀ (s : σ) (ls : List ι), Decidable (Guarded step C s ls)
  | _, [] => isTrue trivial
  | s, l :: ls => @instDecidableAnd _ _ _ (decidableGuarded (step s l) ls)

/-- A condition that always holds is met by every run. -/
theorem guarded_of_forall {C : σ → ι → Prop} (h : ∀ s l, C s l) : ∀ (ls : List ι) (s : σ), Guarded step C s ls
  | [], _ => trivial
  | l :: ls, s => ⟨h s l, guarded_of_forall h ls (step s l)⟩

/-- So is one that the run's own events meet in every state. -/
theorem guarded_of_mem {C : σ → ι → Prop} : ∀ (ls : List ι) (s : σ), (∀ l ∈ ls, ∀ s, C s l) → Guarded step C s ls
  | [], _, _ => trivial
  | l :: ls, s, h =>
    ⟨h l List.mem_cons_self s, guarded_of_mem ls (step s l) fun k hk => h k (List.mem_cons_of_mem l hk)⟩

theorem guarded_and {C D : σ → ι → Prop} : ∀ (ls : List ι) {s : σ}, Guarded step C s ls → Guarded step D s ls →
    Guarded step (fun s l => C s l ∧ D s l) s ls
  | [], _, _, _ => trivial
  | _ :: ls, _, hC, hD => ⟨⟨hC.1, hD.1⟩, guarded_and ls hC.2 hD.2⟩

/-- What every step that meets `C` keeps, every run of such steps keeps. -/
theorem run_guarded {C : σ → ι → Prop} {I : σ → Prop}
    (hstep : ∀ s l, C s l → I s → I (step s l)) :
    ∀ (ls : List ι) {s : σ}, Guarded step C s ls → I s → I (run step s ls)
  | [], _, _, h => h
  | l :: ls, s, hC, h => run_guarded hstep ls hC.2 (hstep s l hC.1 h)

theorem guarded_append {C : σ → ι → Prop} : ∀ (ls ms : List ι) (s : σ),
    Guarded step C s (ls ++ ms) ↔ Guarded step C s ls ∧ Guarded step C (run step s ls) ms
  | [], ms, s => by simp [Guarded]
  | l :: ls, ms, s => by
    simp only [List.cons_append, Guarded, guarded_append ls ms, run_cons, and_assoc]

/-- Where a step that meets `G` keeps `P` just if it meets `C`, a run of such
steps meets `C` at every step just if `P` holds after every beginning of it. -/
theorem guarded_iff_of_guarded {G C : σ → ι → Prop} {I P : σ → Prop} (hI : ∀ s l, G s l → I s → I (step s l))
    (hP : ∀ s l, G s l → I s → P s → (C s l ↔ P (step s l))) :
    ∀ (ls : List ι) {s : σ}, Guarded step G s ls → I s → P s →
      (Guarded step C s ls ↔ ∀ ms, ms <+: ls → P (run step s ms))
  | [], s, _, _, hs => by simpa [Guarded] using hs
  | l :: ls, s, hG, hi, hs => by
    constructor
    · rintro ⟨hl, hls⟩ ms hms
      rcases ms with _ | ⟨m, ms⟩
      · exact hs
      · obtain ⟨rfl, hrest⟩ := List.cons_prefix_cons.mp hms
        exact (guarded_iff_of_guarded hI hP ls hG.2 (hI s m hG.1 hi) ((hP s m hG.1 hi hs).mp hl)).mp hls ms hrest
    · intro h
      have hnext : P (step s l) := h [l] ⟨ls, rfl⟩
      refine ⟨(hP s l hG.1 hi hs).mpr hnext, ?_⟩
      refine (guarded_iff_of_guarded hI hP ls hG.2 (hI s l hG.1 hi) hnext).mpr fun ms hms => ?_
      exact h (l :: ms) (List.cons_prefix_cons.mpr ⟨rfl, hms⟩)

/-- The same where every step keeps `I`. -/
theorem guarded_iff {C : σ → ι → Prop} {I P : σ → Prop} (hI : ∀ s l, I s → I (step s l))
    (hP : ∀ s l, I s → P s → (C s l ↔ P (step s l))) (ls : List ι) {s : σ} (hi : I s) (hs : P s) :
    Guarded step C s ls ↔ ∀ ms, ms <+: ls → P (run step s ms) :=
  guarded_iff_of_guarded (G := fun _ _ => True) (fun s l _ => hI s l) (fun s l _ => hP s l) ls
    (guarded_of_forall (fun _ _ => trivial) ls s) hi hs

/-- What holds at the end of a run and not at its start began to hold at one
of its steps. -/
theorem run_first {P : σ → Prop} : ∀ (ls : List ι) {s : σ}, ¬P s → P (run step s ls) →
    ∃ ms l ns, ls = ms ++ l :: ns ∧ ¬P (run step s ms) ∧ P (step (run step s ms) l)
  | [], _, hnot, hend => absurd hend hnot
  | l :: ls, s, hnot, hend => by
    by_cases hnow : P (step s l)
    · exact ⟨[], l, ls, rfl, hnot, hnow⟩
    · obtain ⟨ms, k, ns, rfl, hbefore, hafter⟩ := run_first ls hnow hend
      exact ⟨l :: ms, k, ns, rfl, hbefore, hafter⟩

/-! ### Calls that may fail -/

section Attempt

variable {ε : Type*} {exec : σ → ι → Except ε σ}

variable (exec) in
/-- The state after a call: a call that fails changes nothing. -/
def attempt (s : σ) (l : ι) : σ :=
  match exec s l with
  | .error _ => s
  | .ok s' => s'

theorem attempt_of_ok {s s' : σ} {l : ι} (h : exec s l = .ok s') : attempt exec s l = s' := by
  rw [attempt, h]

theorem attempt_of_error {s : σ} {l : ι} {e : ε} (h : exec s l = .error e) : attempt exec s l = s := by
  rw [attempt, h]

variable (exec) in
/-- The state after a call is the same or comes of a call that succeeds. -/
theorem attempt_cases (s : σ) (l : ι) :
    attempt exec s l = s ∨ ∃ s', exec s l = .ok s' ∧ attempt exec s l = s' := by
  unfold attempt
  cases exec s l with
  | error e => exact .inl rfl
  | ok s' => exact .inr ⟨s', rfl, rfl⟩

/-- What every call that succeeds keeps, every call keeps. -/
theorem attempt_invariant {I : σ → Prop} (h : ∀ s l s', exec s l = .ok s' → I s → I s') (s : σ) (l : ι) (hs : I s) :
    I (attempt exec s l) := by
  obtain heq | ⟨s', hok, heq⟩ := attempt_cases exec s l
  · rwa [heq]
  · rw [heq]
    exact h s l s' hok hs

/-- What only calls that succeed change was changed by one. -/
theorem attempt_ok {P : σ → Prop} {s : σ} {l : ι} (hbefore : ¬P s) (hafter : P (attempt exec s l)) :
    ∃ s', exec s l = .ok s' ∧ P s' := by
  obtain heq | ⟨s', hok, heq⟩ := attempt_cases exec s l
  · rw [heq] at hafter
    exact absurd hafter hbefore
  · exact ⟨s', hok, heq ▸ hafter⟩

/-- A call that succeeds just where `o` is given, and then leads to it, leads
to it or changes nothing of the view. -/
theorem attempt_view {β : Type*} (view : σ → β) {o : Option β} {s : σ} {l : ι}
    (hok : ∀ s', exec s l = .ok s' → o = some (view s')) (haccepts : (∃ b, o = some b) → ∃ s', exec s l = .ok s') :
    view (attempt exec s l) = o.getD (view s) := by
  unfold attempt
  cases hexec : exec s l with
  | ok s' =>
    rw [hok s' hexec]
    rfl
  | error e =>
    have hnone : o = none := by
      cases o with
      | none => rfl
      | some b =>
        obtain ⟨s', hs'⟩ := haccepts ⟨b, rfl⟩
        rw [hexec] at hs'
        cases hs'
    rw [hnone]
    rfl

end Attempt

end Lib
