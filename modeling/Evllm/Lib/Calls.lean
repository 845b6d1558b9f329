/-
# Calls that hand over control

A machine whose operations are atomic, but for those that hand control to code
outside of it before they end. While such a call is pending the outside code
may run any operation, and may start further such calls; when it gives control
back it either accepts, and the call runs to its end, or it rejects, and every
change made since the call began is undone.

Key definitions
- `CallMachine`: the operations, the calls that hand over control, their ends
- `CallMachine.step`: one operation, one call begun, or one call ended
- `Sound I`: `I` holds now, and where each pending call would fall back to
- `sound_run`: what operations, beginnings and ends keep, every run keeps
- `CallMachine.noting`: the machine with notes of the operations it has run
-/
import Evllm.Lib.Run

namespace Lib

universe u v w x

/-- A call that has handed over control: the state it was made in, and what
its end needs. -/
structure Pending (σ : Type u) (φ : Type v) where
  before : σ
  frame : φ

/-- The present state and the pending calls, the innermost first. -/
structure CallState (σ : Type u) (φ : Type v) where
  state : σ
  pending : List (Pending σ φ)

inductive Act (ι : Type w) (κ : Type x) where
  | call (op : ι)
  | enter (op : κ)
  | leave (accepted : Bool)

/-- `exec` runs an operation, `enter` a call up to where it hands over control,
`leave` what follows; `none` is a failure, which changes nothing. -/
structure CallMachine (σ : Type u) (φ : Type v) (ι : Type w) (κ : Type x) where
  exec : σ → ι → Option σ
  enter : σ → κ → Option (σ × φ)
  leave : σ → φ → σ

variable {σ : Type u} {φ : Type v} {ι : Type w} {κ : Type x}

namespace CallMachine

def step (M : CallMachine σ φ ι κ) (c : CallState σ φ) : Act ι κ → CallState σ φ
  | .call op => ⟨(M.exec c.state op).getD c.state, c.pending⟩
  | .enter op =>
    match M.enter c.state op with
    | none => c
    | some (s, f) => ⟨s, ⟨c.state, f⟩ :: c.pending⟩
  | .leave accepted =>
    match c.pending with
    | [] => c
    | p :: ps => ⟨if accepted then M.leave c.state p.frame else p.before, ps⟩

end CallMachine

/-- `I` holds of the present state and the pending frames, and held of the
state each pending call began in. -/
def Sound (I : σ → List φ → Prop) : σ → List (Pending σ φ) → Prop
  | s, [] => I s []
  | s, p :: ps => I s (p.frame :: ps.map Pending.frame) ∧ Sound I p.before ps

theorem Sound.now {I : σ → List φ → Prop} :
    ∀ {s : σ} {ps : List (Pending σ φ)}, Sound I s ps → I s (ps.map Pending.frame)
  | _, [], h => h
  | _, _ :: _, h => h.1

/-- Only the present state changes. -/
theorem Sound.replace {I : σ → List φ → Prop} {s s' : σ} :
    ∀ {ps : List (Pending σ φ)}, Sound I s ps → I s' (ps.map Pending.frame) → Sound I s' ps
  | [], _, h' => h'
  | _ :: _, h, h' => ⟨h', h.2⟩

theorem sound_step {M : CallMachine σ φ ι κ} {I : σ → List φ → Prop} {P : ι → Prop}
    (hexec : ∀ s s' fs op, P op → M.exec s op = some s' → I s fs → I s' fs)
    (henter : ∀ s s' f fs op, M.enter s op = some (s', f) → I s fs → I s' (f :: fs))
    (hleave : ∀ s f fs, I s (f :: fs) → I (M.leave s f) fs)
    (l : Act ι κ) (hl : ∀ op, l = .call op → P op) {c : CallState σ φ} (hc : Sound I c.state c.pending) :
    Sound I (M.step c l).state (M.step c l).pending := by
  rcases c with ⟨s, ps⟩
  rcases l with op | op | accepted
  · rcases hs : M.exec s op with _ | s'
    · simpa [CallMachine.step, hs] using hc
    · simpa [CallMachine.step, hs] using hc.replace (hexec s s' _ op (hl op rfl) hs hc.now)
  · rcases hs : M.enter s op with _ | ⟨s', f⟩
    · simpa [CallMachine.step, hs] using hc
    · simpa [CallMachine.step, hs] using
        show Sound I s' (⟨s, f⟩ :: ps) from ⟨henter s s' f _ op hs hc.now, hc⟩
  · rcases ps with _ | ⟨p, ps⟩
    · simpa [CallMachine.step] using hc
    · rcases accepted with _ | _
      · simpa [CallMachine.step] using hc.2
      · simpa [CallMachine.step] using hc.2.replace (hleave s p.frame _ hc.1)

/-- **What the operations of a run, the beginnings and the ends of calls keep,
the run keeps**, whatever the outside code does and whether it accepts or
rejects. -/
theorem sound_run_of {M : CallMachine σ φ ι κ} {I : σ → List φ → Prop} {P : ι → Prop}
    (hexec : ∀ s s' fs op, P op → M.exec s op = some s' → I s fs → I s' fs)
    (henter : ∀ s s' f fs op, M.enter s op = some (s', f) → I s fs → I s' (f :: fs))
    (hleave : ∀ s f fs, I s (f :: fs) → I (M.leave s f) fs) :
    ∀ (ls : List (Act ι κ)), (∀ op, Act.call op ∈ ls → P op) → ∀ {c : CallState σ φ}, Sound I c.state c.pending →
      Sound I (run M.step c ls).state (run M.step c ls).pending
  | [], _, _, h => h
  | l :: ls, hls, c, h => by
    rw [run_cons]
    refine sound_run_of hexec henter hleave ls (fun op hop => hls op (.tail _ hop)) ?_
    exact sound_step hexec henter hleave l (fun op hop => hls op (hop ▸ .head _)) h

/-- The same of every run. -/
theorem sound_run {M : CallMachine σ φ ι κ} {I : σ → List φ → Prop}
    (hexec : ∀ s s' fs op, M.exec s op = some s' → I s fs → I s' fs)
    (henter : ∀ s s' f fs op, M.enter s op = some (s', f) → I s fs → I s' (f :: fs))
    (hleave : ∀ s f fs, I s (f :: fs) → I (M.leave s f) fs)
    (ls : List (Act ι κ)) {c : CallState σ φ} (h : Sound I c.state c.pending) :
    Sound I (run M.step c ls).state (run M.step c ls).pending :=
  sound_run_of (P := fun _ => True) (fun s s' fs op _ => hexec s s' fs op) henter hleave ls (fun _ _ => trivial) h

/-! ### Notes -/

section Notes

variable {η : Type*}

/-- The machine with notes beside its state. An operation that succeeds is
noted; where a call is rejected its notes are undone with it. -/
def CallMachine.noting (M : CallMachine σ φ ι κ) (note : ι → η → η) : CallMachine (σ × η) φ ι κ where
  exec s op := (M.exec s.1 op).map fun s' => (s', note op s.2)
  enter s op := (M.enter s.1 op).map fun r => ((r.1, s.2), r.2)
  leave s f := (M.leave s.1 f, s.2)

/-- The state without the notes. -/
def CallState.forget (c : CallState (σ × η) φ) : CallState σ φ :=
  ⟨c.state.1, c.pending.map fun p => ⟨p.before.1, p.frame⟩⟩

theorem noting_step (M : CallMachine σ φ ι κ) (note : ι → η → η) (c : CallState (σ × η) φ) (l : Act ι κ) :
    ((M.noting note).step c l).forget = M.step c.forget l := by
  rcases c with ⟨⟨s, notes⟩, ps⟩
  rcases l with op | op | accepted
  · rcases hs : M.exec s op with _ | s' <;> simp [CallMachine.step, CallMachine.noting, CallState.forget, hs]
  · rcases hs : M.enter s op with _ | ⟨s', f⟩ <;>
      simp [CallMachine.step, CallMachine.noting, CallState.forget, hs]
  · rcases ps with _ | ⟨p, ps⟩
    · rfl
    · rcases accepted with _ | _ <;> rfl

/-- **Notes change no run.** -/
theorem noting_run (M : CallMachine σ φ ι κ) (note : ι → η → η) :
    ∀ (ls : List (Act ι κ)) (c : CallState (σ × η) φ),
      (run (M.noting note).step c ls).forget = run M.step c.forget ls
  | [], _ => rfl
  | l :: ls, c => by
    rw [run_cons, run_cons, noting_run M note ls, noting_step]

end Notes

end Lib
