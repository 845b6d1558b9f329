/-
# Transducers

A transducer reads a word symbol by symbol, writes as it goes, and at the end
writes what it still holds. A word is separate from a state if reading it from
there is ending first and then reading it afresh. Words that are each separate
from the state before them are read one by one (`runFrom_flatten`).

Key definitions: `Transducer`, `Transducer.runFrom`, `Transducer.EachAfter`,
`Transducer.Separate`.
Key theorems: `Transducer.runFrom_append`, `Transducer.runFrom_flatten`.
-/
import Mathlib.Tactic.Common

namespace Lib

structure Transducer (σ α β : Type*) where
  initial : σ
  step : σ → α → List β × σ
  flush : σ → List β

namespace Transducer

variable {σ α β : Type*} (T : Transducer σ α β)

/-- The state after a word. -/
def after (s : σ) : List α → σ
  | [] => s
  | x :: w => after (T.step s x).2 w

/-- What is written while a word is read. -/
def written (s : σ) : List α → List β
  | [] => []
  | x :: w => (T.step s x).1 ++ written (T.step s x).2 w

def runFrom (s : σ) (w : List α) : List β := T.written s w ++ T.flush (T.after s w)

@[simp] theorem runFrom_nil (s : σ) : T.runFrom s [] = T.flush s := rfl

theorem runFrom_cons (s : σ) (x : α) (w : List α) :
    T.runFrom s (x :: w) = (T.step s x).1 ++ T.runFrom (T.step s x).2 w := by
  rw [runFrom, written, List.append_assoc]
  rfl

theorem runFrom_append (s : σ) (u w : List α) : T.runFrom s (u ++ w) = T.written s u ++ T.runFrom (T.after s u) w := by
  induction u generalizing s with
  | nil => rfl
  | cons x u ih => rw [List.cons_append, runFrom_cons, ih, written, after, List.append_assoc]

/-- Each word has a property from the state before it. -/
def EachAfter (P : σ → List α → Prop) (s : σ) : List (List α) → Prop
  | [] => True
  | w :: ws => P s w ∧ EachAfter P (T.after s w) ws

instance instDecidableEachAfter {P : σ → List α → Prop} [∀ s w, Decidable (P s w)] :
    ∀ (s : σ) (ws : List (List α)), Decidable (T.EachAfter P s ws)
  | _, [] => isTrue trivial
  | s, w :: ws => @instDecidableAnd (P s w) _ _ (instDecidableEachAfter (T.after s w) ws)

variable {T} in
theorem EachAfter.mono {P Q : σ → List α → Prop} (himp : ∀ s w, P s w → Q s w) :
    ∀ {s : σ} {ws : List (List α)}, T.EachAfter P s ws → T.EachAfter Q s ws
  | _, [], _ => trivial
  | _, _ :: _, ⟨hfirst, hrest⟩ => ⟨himp _ _ hfirst, hrest.mono himp⟩

/-- Reading the word is ending and reading it afresh. -/
def Separate (s : σ) (w : List α) : Prop := T.runFrom s w = T.flush s ++ T.runFrom T.initial w

/-- **Separate words are read one by one.** -/
theorem runFrom_flatten : ∀ {s : σ} {ws : List (List α)}, T.EachAfter T.Separate s ws →
    T.runFrom s ws.flatten = T.flush s ++ ws.flatMap (T.runFrom T.initial)
  | s, [], _ => by simp
  | s, w :: ws, ⟨hfirst, hrest⟩ => by
    have hread : T.runFrom s w = T.flush s ++ T.runFrom T.initial w := hfirst
    rw [List.flatten_cons, runFrom_append, runFrom_flatten hrest, ← List.append_assoc, ← runFrom, hread,
      List.flatMap_cons, List.append_assoc]

end Transducer
end Lib
