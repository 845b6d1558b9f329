/-
# Entries that succeed each other

A book files entries under ids. An entry is staged, becomes active, and is
retired when another takes its place; what it is bound to never changes
(`Book.Onward`). An entry may belong to an owner, and its successor then belongs
to the same. A rotation replaces an active entry, by one that is new or that was
staged with the same binding; so every retired entry has exactly one successor
(`Book.Sound`).

A register adds what each owner has written down of its entry: the id, the
binding, and whether the owner is settled. An owner's rotation writes the
successor down later, so a write may be pending (`Register`). In every reachable
register a settled owner has exactly one entry that is not retired, and it is
the one written down, or the one of the single pending write
(`Register.Sound.current`).

Key definitions: `Book`, `Book.Move`, `Register`, `Register.Move`.
Key theorems: `Book.Move.sound`, `Book.Move.onward`, `Register.Move.sound`,
`Register.Follows.move`.
-/
import Mathlib.Logic.Function.Basic
import Mathlib.Tactic.Common

namespace Lib

open Function

universe u v w x

inductive Standing where
  | staged
  | active
  | retired
  deriving DecidableEq, Repr

/-- What an entry is bound to, and its standing. -/
structure Entry (β : Type w) where
  bound : β
  standing : Standing

structure Book (κ : Type u) (ο : Type v) (β : Type w) where
  entries : κ → Option (Entry β)
  owner : κ → Option ο
  rotations : List (κ × κ)

namespace Book

variable {κ : Type u} {ο : Type v} {β : Type w} (B : Book κ ο β)

section

variable [DecidableEq κ]

/-- The successors of an entry, in the order of the rotations. -/
def successors (k : κ) : List κ := (B.rotations.filter fun rotation => rotation.1 = k).map Prod.snd

/-! ### Moves -/

def stage (k : κ) (b : β) (o : Option ο) : Book κ ο β :=
  { B with entries := update B.entries k (some ⟨b, .staged⟩), owner := update B.owner k o }

def activate (k : κ) (b : β) : Book κ ο β := { B with entries := update B.entries k (some ⟨b, .active⟩) }

/-- The entry of `k` is retired and that of `k'` takes its place. -/
def rotate (k k' : κ) (b b' : β) : Book κ ο β where
  entries := update (update B.entries k' (some ⟨b', .active⟩)) k (some ⟨b, .retired⟩)
  owner := update B.owner k' (B.owner k)
  rotations := B.rotations ++ [(k, k')]

end

/-- The id is free for an entry bound to `b`: it is new, or staged for it. -/
def Free (k : κ) (b : β) : Prop := ∀ e, B.entries k = some e → e = ⟨b, .staged⟩

inductive Move [DecidableEq κ] : Book κ ο β → Prop where
  | stages (k : κ) (b : β) (o : Option ο) (new : B.entries k = none) : Move (B.stage k b o)
  | activates (k : κ) (b : β) (staged : B.entries k = some ⟨b, .staged⟩) : Move (B.activate k b)
  | rotates (k k' : κ) (b b' : β) (active : B.entries k = some ⟨b, .active⟩) (free : B.Free k' b') :
      Move (B.rotate k k' b b')

/-! ### What holds of every book -/

/-- Just the retired entries have been rotated away, and each once. -/
structure Sound [DecidableEq κ] : Prop where
  unknown : ∀ k, B.entries k = none → B.owner k = none ∧ B.successors k = []
  unrotated : ∀ k e, B.entries k = some e → e.standing ≠ .retired → B.successors k = []
  rotated : ∀ k e, B.entries k = some e → e.standing = .retired → ∃ k', B.successors k = [k']

/-- Of `o`'s entries only that of `k` is not retired; it is active. -/
structure Holds (o : ο) (k : κ) (b : β) : Prop where
  active : B.entries k = some ⟨b, .active⟩
  owner : B.owner k = some o
  only : ∀ k' e, B.owner k' = some o → B.entries k' = some e → e.standing ≠ .retired → k' = k

/-- The only entry of `o` is that of `k`. -/
structure Fresh (o : ο) (k : κ) : Prop where
  owner : B.owner k = some o
  only : ∀ k', B.owner k' = some o → k' = k

/-- A later book: entries stay bound, do not go back, and those that are not
staged keep their owner. -/
def Onward (B B' : Book κ ο β) : Prop :=
  ∀ k e, B.entries k = some e → ∃ e', B'.entries k = some e' ∧ e'.bound = e.bound ∧
    (e.standing ≠ .staged → e'.standing ≠ .staged ∧ B'.owner k = B.owner k) ∧
    (e.standing = .retired → e'.standing = .retired)

section

variable {B} {B' B'' : Book κ ο β} {k k' : κ} {b b' : β} {o : ο}

theorem Onward.refl : Onward B B := fun _ e h => ⟨e, h, rfl, fun hstaged => ⟨hstaged, rfl⟩, id⟩

theorem Onward.trans (h : Onward B B') (h' : Onward B' B'') : Onward B B'' := by
  intro k e he
  obtain ⟨e', he', hbound, hstaged, hretired⟩ := h k e he
  obtain ⟨e'', he'', hbound', hstaged', hretired'⟩ := h' k e' he'
  refine ⟨e'', he'', hbound'.trans hbound, fun hne => ?_, fun hr => hretired' (hretired hr)⟩
  obtain ⟨hne', howner⟩ := hstaged hne
  obtain ⟨hne'', howner'⟩ := hstaged' hne'
  exact ⟨hne'', howner'.trans howner⟩

/-- An active entry's id is not free. -/
theorem Free.ne (hfree : B.Free k' b') (hactive : B.entries k = some ⟨b, .active⟩) : k ≠ k' := by
  rintro rfl
  cases hfree _ hactive

end

/-! ### What a move keeps -/

section

variable {B} {B' : Book κ ο β} [DecidableEq κ] {k k' k₀ : κ} {b b' b₀ : β} {o : ο}

theorem successors_rotate : (B.rotate k k' b b').successors k₀ = B.successors k₀ ++ if k = k₀ then [k'] else [] := by
  simp only [successors, rotate, List.filter_append, List.map_append]
  split_ifs with hk
  · simp [hk]
  · simp [hk]

theorem entries_rotate : (B.rotate k k' b b').entries k₀ =
    if k₀ = k then some ⟨b, .retired⟩ else if k₀ = k' then some ⟨b', .active⟩ else B.entries k₀ := by
  simp only [rotate, update_apply]

theorem owner_rotate : (B.rotate k k' b b').owner k₀ = if k₀ = k' then B.owner k else B.owner k₀ := by
  simp only [rotate, update_apply]

theorem entries_stage {o : Option ο} :
    (B.stage k b o).entries k₀ = if k₀ = k then some ⟨b, .staged⟩ else B.entries k₀ := by
  simp only [stage, update_apply]

theorem owner_stage {o : Option ο} : (B.stage k b o).owner k₀ = if k₀ = k then o else B.owner k₀ := by
  simp only [stage, update_apply]

theorem entries_activate : (B.activate k b).entries k₀ = if k₀ = k then some ⟨b, .active⟩ else B.entries k₀ := by
  simp only [activate, update_apply]

/-- **One move keeps a book sound.** -/
theorem Move.sound (h : Move B B') (hsound : B.Sound) : B'.Sound := by
  cases h with
  | stages k b o new =>
    have hsucc : ∀ k₀, (B.stage k b o).successors k₀ = B.successors k₀ := fun _ => rfl
    obtain ⟨-, hnone⟩ := hsound.unknown k new
    refine ⟨fun k₀ hk₀ => ?_, fun k₀ e he hne => ?_, fun k₀ e he hr => ?_⟩
    · rw [entries_stage] at hk₀
      split_ifs at hk₀ with hk
      rw [owner_stage, if_neg hk, hsucc]
      exact hsound.unknown k₀ hk₀
    · rw [entries_stage] at he
      rw [hsucc]
      split_ifs at he with hk
      · rw [hk, hnone]
      · exact hsound.unrotated k₀ e he hne
    · rw [entries_stage] at he
      rw [hsucc]
      split_ifs at he with hk
      · cases he
        cases hr
      · exact hsound.rotated k₀ e he hr
  | activates k b staged =>
    have hsucc : ∀ k₀, (B.activate k b).successors k₀ = B.successors k₀ := fun _ => rfl
    refine ⟨fun k₀ hk₀ => ?_, fun k₀ e he hne => ?_, fun k₀ e he hr => ?_⟩
    · rw [entries_activate] at hk₀
      split_ifs at hk₀ with hk
      exact hsound.unknown k₀ hk₀
    · rw [entries_activate] at he
      rw [hsucc]
      split_ifs at he with hk
      · rw [hk]
        exact hsound.unrotated k _ staged (by simp)
      · exact hsound.unrotated k₀ e he hne
    · rw [entries_activate] at he
      rw [hsucc]
      split_ifs at he with hk
      · cases he
        cases hr
      · exact hsound.rotated k₀ e he hr
  | rotates k k' b b' active free =>
    have hne := free.ne active
    refine ⟨fun k₀ hk₀ => ?_, fun k₀ e he hstanding => ?_, fun k₀ e he hr => ?_⟩
    · rw [entries_rotate] at hk₀
      split_ifs at hk₀ with hk hk'
      rw [owner_rotate, if_neg hk', successors_rotate, if_neg (Ne.symm hk), List.append_nil]
      exact hsound.unknown k₀ hk₀
    · rw [entries_rotate] at he
      rw [successors_rotate]
      split_ifs at he with hk hk'
      · cases he
        exact absurd rfl hstanding
      · rw [if_neg (Ne.symm hk), List.append_nil, hk']
        -- the successor was not in the book or staged
        cases hold : B.entries k' with
        | none => exact (hsound.unknown k' hold).2
        | some e' => exact hsound.unrotated k' e' hold (by simp [free e' hold])
      · rw [if_neg (Ne.symm hk), List.append_nil]
        exact hsound.unrotated k₀ e he hstanding
    · rw [entries_rotate] at he
      rw [successors_rotate]
      split_ifs at he with hk hk'
      · rw [hk, hsound.unrotated k _ active (by simp), if_pos rfl]
        exact ⟨k', rfl⟩
      · cases he
        cases hr
      · rw [if_neg (Ne.symm hk), List.append_nil]
        exact hsound.rotated k₀ e he hr

/-- **One move leads onward.** -/
theorem Move.onward (h : Move B B') : Onward B B' := by
  intro k₀ e he
  cases h with
  | stages k b o new =>
    have hk : k₀ ≠ k := by
      rintro rfl
      rw [new] at he
      cases he
    refine ⟨e, ?_, rfl, fun hstaged => ⟨hstaged, ?_⟩, id⟩
    · rw [entries_stage, if_neg hk, he]
    · rw [owner_stage, if_neg hk]
  | activates k b staged =>
    by_cases hk : k₀ = k
    · obtain rfl : e = ⟨b, .staged⟩ := Option.some.inj (he.symm.trans (hk ▸ staged))
      refine ⟨⟨b, .active⟩, by rw [entries_activate, if_pos hk], rfl, fun hstaged => absurd rfl hstaged, nofun⟩
    · exact ⟨e, by rw [entries_activate, if_neg hk, he], rfl, fun hstaged => ⟨hstaged, rfl⟩, id⟩
  | rotates k k' b b' active free =>
    by_cases hk : k₀ = k
    · obtain rfl : e = ⟨b, .active⟩ := Option.some.inj (he.symm.trans (hk ▸ active))
      refine ⟨⟨b, .retired⟩, by rw [entries_rotate, if_pos hk], rfl, fun _ => ⟨by simp, ?_⟩, fun _ => rfl⟩
      rw [owner_rotate, if_neg (hk ▸ free.ne active)]
    · by_cases hk' : k₀ = k'
      · obtain rfl : e = ⟨b', .staged⟩ := free e (hk' ▸ he)
        refine ⟨⟨b', .active⟩, ?_, rfl, fun hstaged => absurd rfl hstaged, nofun⟩
        rw [entries_rotate, if_neg hk, if_pos hk']
      · refine ⟨e, ?_, rfl, fun hstaged => ⟨hstaged, ?_⟩, id⟩
        · rw [entries_rotate, if_neg hk, if_neg hk', he]
        · rw [owner_rotate, if_neg hk']

/-! ### Holders -/

theorem Holds.stages {o' : Option ο} (h : B.Holds o k₀ b₀) (hnew : B.entries k = none) (ho : o' ≠ some o) :
    (B.stage k b o').Holds o k₀ b₀ := by
  have hne : k₀ ≠ k := by
    rintro rfl
    cases hnew.symm.trans h.active
  refine ⟨?_, ?_, fun k₁ e howner he hstanding => ?_⟩
  · rw [entries_stage, if_neg hne, h.active]
  · rw [owner_stage, if_neg hne, h.owner]
  · rw [owner_stage] at howner
    rw [entries_stage] at he
    split_ifs at howner he with hk
    · exact absurd howner ho
    · exact h.only k₁ e howner he hstanding

theorem Holds.activates (h : B.Holds o k₀ b₀) (hstaged : B.entries k = some ⟨b, .staged⟩) :
    (B.activate k b).Holds o k₀ b₀ := by
  have hne : k₀ ≠ k := by
    rintro rfl
    cases h.active.symm.trans hstaged
  refine ⟨?_, h.owner, fun k₁ e howner he hstanding => ?_⟩
  · rw [entries_activate, if_neg hne, h.active]
  · rw [entries_activate] at he
    split_ifs at he with hk
    · exact h.only k₁ _ howner (hk ▸ hstaged) (by simp)
    · exact h.only k₁ e howner he hstanding

/-- A rotation of another owner's entry, or of nobody's. -/
theorem Holds.rotates_other (h : B.Holds o k₀ b₀) (hactive : B.entries k = some ⟨b, .active⟩) (hfree : B.Free k' b')
    (howner : B.owner k ≠ some o) : (B.rotate k k' b b').Holds o k₀ b₀ := by
  have hk : k₀ ≠ k := by
    rintro rfl
    exact howner h.owner
  have hk' : k₀ ≠ k' := hfree.ne h.active
  refine ⟨?_, ?_, fun k₁ e howner₁ he hstanding => ?_⟩
  · rw [entries_rotate, if_neg hk, if_neg hk', h.active]
  · rw [owner_rotate, if_neg hk', h.owner]
  · rw [owner_rotate] at howner₁
    rw [entries_rotate] at he
    split_ifs at howner₁ he with hk₁' hk₁
    · exact absurd howner₁ howner
    · exact absurd howner₁ howner
    · rename_i hk₁
      exact absurd (hk₁ ▸ howner₁) howner
    · exact h.only k₁ e howner₁ he hstanding

/-- A rotation of the owner's own entry. -/
theorem Holds.rotates_self (h : B.Holds o k b) (hfree : B.Free k' b') : (B.rotate k k' b b').Holds o k' b' := by
  have hne : k' ≠ k := Ne.symm (hfree.ne h.active)
  refine ⟨?_, ?_, fun k₁ e howner he hstanding => ?_⟩
  · rw [entries_rotate, if_neg hne, if_pos rfl]
  · rw [owner_rotate, if_pos rfl, h.owner]
  · by_contra hk₁'
    rw [owner_rotate, if_neg hk₁'] at howner
    rw [entries_rotate, if_neg hk₁'] at he
    split_ifs at he with hk₁
    · cases he
      exact hstanding rfl
    · exact hk₁ (h.only k₁ e howner he hstanding)

theorem Fresh.holds (h : B.Fresh o k) : (B.activate k b).Holds o k b := by
  refine ⟨?_, h.owner, fun k₁ _ howner _ _ => h.only k₁ howner⟩
  rw [entries_activate, if_pos rfl]

end

end Book

/-! ### Registers -/

/-- What an owner has written down of its entry. -/
structure Holding (κ : Type u) (β : Type w) where
  id : κ
  bound : β
  settled : Bool

structure Register (κ : Type u) (ο : Type v) (β : Type w) (γ : Type x) extends Book κ ο β where
  holding : ο → Option (Holding κ β)
  /-- The writes under way: whose, and of which entry. -/
  pending : γ → Option (ο × κ × β)

namespace Register

variable {κ : Type u} {ο : Type v} {β : Type w} {γ : Type x} (R : Register κ ο β γ)

inductive Move [DecidableEq κ] [DecidableEq ο] [DecidableEq γ] : Register κ ο β γ → Prop where
  | stages (k : κ) (b : β) (new : R.entries k = none) : Move ⟨R.stage k b none, R.holding, R.pending⟩
  | activates (k : κ) (b : β) (staged : R.entries k = some ⟨b, .staged⟩) : Move ⟨R.activate k b, R.holding, R.pending⟩
  /-- A rotation that no settled owner makes. -/
  | rotates (k k' : κ) (b b' : β) (active : R.entries k = some ⟨b, .active⟩) (free : R.Free k' b')
      (outside : ∀ o hold, R.owner k = some o → R.holding o = some hold → hold.settled = false) :
      Move ⟨R.rotate k k' b b', R.holding, R.pending⟩
  | prepares (o : ο) (k : κ) (b : β) (new : R.entries k = none) (unheld : R.holding o = none) :
      Move ⟨R.stage k b (some o), update R.holding o (some ⟨k, b, false⟩), R.pending⟩
  | settles (o : ο) (k : κ) (b b' : β) (settled : Bool) (held : R.holding o = some ⟨k, b', settled⟩)
      (staged : R.entries k = some ⟨b, .staged⟩) :
      Move ⟨R.activate k b, update R.holding o (some ⟨k, b', true⟩), R.pending⟩
  /-- A settled owner rotates its entry; the successor is not yet written down. -/
  | succeeds (o : ο) (c : γ) (k k' : κ) (b b' b₀ : β) (held : R.holding o = some ⟨k, b₀, true⟩)
      (active : R.entries k = some ⟨b, .active⟩) (free : R.Free k' b') (idle : R.pending c = none) :
      Move ⟨R.rotate k k' b b', R.holding, update R.pending c (some (o, k', b'))⟩
  | writes (o : ο) (c : γ) (k : κ) (b : β) (hold : Holding κ β) (held : R.holding o = some hold)
      (pending : R.pending c = some (o, k, b)) :
      Move ⟨R.toBook, update R.holding o (some ⟨k, b, hold.settled⟩), update R.pending c none⟩

/-- The entry written down is the owner's one that is not retired. -/
structure Written (o : ο) (k : κ) (b : β) : Prop where
  idle : ∀ c k' b', R.pending c ≠ some (o, k', b')
  holds : R.Holds o k b

/-- The entry written down is retired; the successor is being written. -/
structure Superseded (c : γ) (o : ο) (k k' : κ) (b' : β) : Prop where
  pending : R.pending c = some (o, k', b')
  sole : ∀ d k'' b'', R.pending d = some (o, k'', b'') → d = c
  owner : R.owner k = some o
  retired : ∃ b, R.entries k = some ⟨b, .retired⟩
  holds : R.Holds o k' b'

structure Sound [DecidableEq κ] : Prop where
  book : R.toBook.Sound
  owned : ∀ k o, R.owner k = some o → ∃ hold, R.holding o = some hold
  known : ∀ o hold, R.holding o = some hold → ∃ e, R.entries hold.id = some e
  fresh : ∀ o k b b', R.holding o = some ⟨k, b', false⟩ → R.entries k = some ⟨b, .staged⟩ → b' = b ∧ R.Fresh o k
  waits : ∀ c o k b, R.pending c = some (o, k, b) → ∃ hold, R.holding o = some hold ∧ hold.settled = true
  current : ∀ o k b, R.holding o = some ⟨k, b, true⟩ → R.Written o k b ∨ ∃ c k' b', R.Superseded c o k k' b'

/-- The entry of `k` was written down by the settled owner `o`, and still is or
has been rotated away. -/
def Follows (o : ο) (k : κ) : Prop :=
  ∃ hold e, R.holding o = some hold ∧ hold.settled = true ∧ R.owner k = some o ∧ R.entries k = some e ∧
    e.standing ≠ .staged ∧ (hold.id = k ∨ e.standing = .retired)

section

variable {R} {R' : Register κ ο β γ} {o : ο} {k k' : κ} {b b' : β} {c : γ}

theorem Written.imp (h : R.Written o k b) (hpending : ∀ c k b, R'.pending c = some (o, k, b) ↔ R.pending c = some (o, k, b))
    (hholds : ∀ k b, R.Holds o k b → R'.Holds o k b) : R'.Written o k b :=
  ⟨fun c k' b' hc => h.idle c k' b' ((hpending c k' b').mp hc), hholds k b h.holds⟩

theorem Superseded.imp (h : R.Superseded c o k k' b')
    (hpending : ∀ c k b, R'.pending c = some (o, k, b) ↔ R.pending c = some (o, k, b))
    (hholds : ∀ k b, R.Holds o k b → R'.Holds o k b) (honward : Book.Onward R.toBook R'.toBook) :
    R'.Superseded c o k k' b' := by
  obtain ⟨b, hretired⟩ := h.retired
  obtain ⟨⟨b₁, standing⟩, he', -, howner, hretired'⟩ := honward k _ hretired
  obtain rfl : standing = .retired := hretired' rfl
  refine ⟨(hpending c k' b').mpr h.pending, fun d k'' b'' hd => h.sole d k'' b'' ((hpending d k'' b'').mp hd), ?_,
    ⟨b₁, he'⟩, hholds k' b' h.holds⟩
  rw [(howner (by simp)).2, h.owner]

/-- A settled owner's id is not staged. -/
theorem Sound.not_staged [DecidableEq κ] (h : R.Sound) {b₀ : β} (hheld : R.holding o = some ⟨k, b, true⟩) :
    R.entries k ≠ some ⟨b₀, .staged⟩ := by
  intro hstaged
  obtain hwritten | ⟨c, k', b', hsuperseded⟩ := h.current o k b hheld
  · cases hstaged.symm.trans hwritten.holds.active
  · obtain ⟨b₁, hretired⟩ := hsuperseded.retired
    cases hstaged.symm.trans hretired

/-- A settled owner with a write under way. -/
theorem Sound.superseded [DecidableEq κ] (h : R.Sound) {k₀ : κ} {b₀ : β} (hpending : R.pending c = some (o, k, b))
    (hheld : R.holding o = some ⟨k₀, b₀, true⟩) : R.Superseded c o k₀ k b := by
  obtain hwritten | ⟨d, k', b', hsuperseded⟩ := h.current o k₀ b₀ hheld
  · exact absurd hpending (hwritten.idle c k b)
  · obtain rfl : c = d := hsuperseded.sole c k b hpending
    cases hpending.symm.trans hsuperseded.pending
    exact hsuperseded

/-- The settled owner's entry is active just if no write is under way. -/
theorem Sound.written [DecidableEq κ] (h : R.Sound) {b₀ : β} (hactive : R.entries k = some ⟨b₀, .active⟩)
    (hheld : R.holding o = some ⟨k, b, true⟩) : R.Written o k b := by
  obtain hwritten | ⟨d, k', b', hsuperseded⟩ := h.current o k b hheld
  · exact hwritten
  · obtain ⟨b₁, hretired⟩ := hsuperseded.retired
    cases hactive.symm.trans hretired

/-- What a settled owner writes down it follows. -/
theorem Sound.follows [DecidableEq κ] (h : R.Sound) (hheld : R.holding o = some ⟨k, b, true⟩) : R.Follows o k := by
  obtain hwritten | ⟨c, k', b', hsuperseded⟩ := h.current o k b hheld
  · exact ⟨_, _, hheld, rfl, hwritten.holds.owner, hwritten.holds.active, by simp, .inl rfl⟩
  · obtain ⟨b₀, hretired⟩ := hsuperseded.retired
    exact ⟨_, _, hheld, rfl, hsuperseded.owner, hretired, by simp, .inl rfl⟩

/-- The writes of the other owners are as they were. -/
theorem pending_update [DecidableEq γ] {p : γ → Option (ο × κ × β)} {x : Option (ο × κ × β)} {o₀ : ο}
    (hold : ∀ k b, p c ≠ some (o₀, k, b)) (hnew : ∀ k b, x ≠ some (o₀, k, b)) (d : γ) (k : κ) (b : β) :
    update p c x d = some (o₀, k, b) ↔ p d = some (o₀, k, b) := by
  by_cases hd : d = c
  · rw [hd, update_self]
    exact iff_of_false (hnew k b) (hold k b)
  · rw [update_of_ne hd]

end

/-! ### What a move keeps -/

section

variable [DecidableEq κ] {R} {R' : Register κ ο β γ} {o : ο} {k k' : κ} {b b' : β} {c : γ}

/-- A move of the book keeps what owners have written down in it. -/
theorem Sound.known_onward (h : R.Sound) {B' : Book κ ο β} (honward : Book.Onward R.toBook B') {hold : Holding κ β}
    (hheld : R.holding o = some hold) : ∃ e, B'.entries hold.id = some e := by
  obtain ⟨e, he⟩ := h.known o hold hheld
  obtain ⟨e', he', -⟩ := honward hold.id e he
  exact ⟨e', he'⟩

/-- The book moves and the holder of `o` stays. -/
theorem Sound.current_imp (h : R.Sound) (hpending : ∀ c k b, R'.pending c = some (o, k, b) ↔ R.pending c = some (o, k, b))
    (hholds : ∀ k b, R.Holds o k b → R'.Holds o k b) (honward : Book.Onward R.toBook R'.toBook)
    (hheld : R.holding o = some ⟨k, b, true⟩) : R'.Written o k b ∨ ∃ c k' b', R'.Superseded c o k k' b' := by
  obtain hwritten | ⟨c, k', b', hsuperseded⟩ := h.current o k b hheld
  · exact .inl (hwritten.imp hpending hholds)
  · exact .inr ⟨c, k', b', hsuperseded.imp hpending hholds honward⟩

/-- A staging for `o'` that is not a settled owner. -/
theorem Sound.current_stage (h : R.Sound) {o' : Option ο} (hnew : R.entries k = none) (ho : o' ≠ some o) {k₀ : κ} {b₀ : β}
    (hholding : R'.pending = R.pending) (hbook : R'.toBook = R.stage k b o') (hheld : R.holding o = some ⟨k₀, b₀, true⟩) :
    R'.Written o k₀ b₀ ∨ ∃ c k' b', R'.Superseded c o k₀ k' b' := by
  refine h.current_imp (fun _ _ _ => by rw [hholding]) (fun k₁ b₁ hk => ?_) ?_ hheld
  · rw [hbook]
    exact hk.stages hnew ho
  · rw [hbook]
    exact (Book.Move.stages k b o' hnew).onward

theorem Sound.stages (h : R.Sound) (hnew : R.entries k = none) : Sound (⟨R.stage k b none, R.holding, R.pending⟩ : Register κ ο β γ) := by
  have hmove : Book.Move R.toBook (R.stage k b none) := .stages k b none hnew
  have howner : ∀ k₁, (R.stage k b none).owner k₁ = R.owner k₁ := by
    intro k₁
    rw [Book.owner_stage]
    split_ifs with hk
    · rw [hk, (h.book.unknown k hnew).1]
    · rfl
  refine ⟨hmove.sound h.book, fun k₀ o hk₀ => h.owned k₀ o (howner k₀ ▸ hk₀),
    fun o hold hheld => h.known_onward hmove.onward hheld, fun o k₀ b₀ b₁ hheld hstaged => ?_, h.waits,
    fun o k₀ b₀ hheld => h.current_stage hnew (by simp) rfl rfl hheld⟩
  have hne : k₀ ≠ k := by
    rintro rfl
    obtain ⟨e, he⟩ := h.known o _ hheld
    cases hnew.symm.trans he
  rw [Book.entries_stage, if_neg hne] at hstaged
  obtain ⟨hbound, hfresh⟩ := h.fresh o k₀ b₀ b₁ hheld hstaged
  exact ⟨hbound, (howner k₀).trans hfresh.owner, fun k₁ hk₁ => hfresh.only k₁ (howner k₁ ▸ hk₁)⟩

theorem Sound.activates (h : R.Sound) (hstaged : R.entries k = some ⟨b, .staged⟩) :
    Sound (⟨R.activate k b, R.holding, R.pending⟩ : Register κ ο β γ) := by
  have hmove : Book.Move R.toBook (R.activate k b) := .activates k b hstaged
  refine ⟨hmove.sound h.book, h.owned, fun o hold hheld => h.known_onward hmove.onward hheld,
    fun o k₀ b₀ b₁ hheld hstaged₀ => ?_, h.waits,
    fun o k₀ b₀ hheld => h.current_imp (fun _ _ _ => .rfl) (fun _ _ hk => hk.activates hstaged) hmove.onward hheld⟩
  rw [Book.entries_activate] at hstaged₀
  split_ifs at hstaged₀ with hk
  · cases hstaged₀
  · obtain ⟨hbound, hfresh⟩ := h.fresh o k₀ b₀ b₁ hheld hstaged₀
    exact ⟨hbound, hfresh.owner, hfresh.only⟩

theorem Sound.fresh_rotate (h : R.Sound) {k₀ : κ} {b₀ b₁ : β}
    (hheld : R.holding o = some ⟨k₀, b₁, false⟩)
    (hstaged : (R.rotate k k' b b').entries k₀ = some ⟨b₀, .staged⟩) : b₁ = b₀ ∧ (R.rotate k k' b b').Fresh o k₀ := by
  rw [Book.entries_rotate] at hstaged
  split_ifs at hstaged with hk hk'
  · cases hstaged
  · cases hstaged
  · obtain ⟨hbound, hfresh⟩ := h.fresh o k₀ b₀ b₁ hheld hstaged
    refine ⟨hbound, ?_, fun k₁ howner => ?_⟩
    · rw [Book.owner_rotate, if_neg hk', hfresh.owner]
    · rw [Book.owner_rotate] at howner
      split_ifs at howner with hk₁
      · exact absurd (hfresh.only k howner).symm hk
      · exact hfresh.only k₁ howner

theorem Sound.owned_rotate (h : R.Sound) {k₀ : κ} (howner : (R.rotate k k' b b').owner k₀ = some o) :
    ∃ hold, R.holding o = some hold := by
  rw [Book.owner_rotate] at howner
  split_ifs at howner with hk
  · exact h.owned k o howner
  · exact h.owned k₀ o howner

theorem Sound.rotates (h : R.Sound) (hactive : R.entries k = some ⟨b, .active⟩) (hfree : R.Free k' b')
    (houtside : ∀ o hold, R.owner k = some o → R.holding o = some hold → hold.settled = false) :
    Sound (⟨R.rotate k k' b b', R.holding, R.pending⟩ : Register κ ο β γ) := by
  have hmove : Book.Move R.toBook (R.rotate k k' b b') := .rotates k k' b b' hactive hfree
  refine ⟨hmove.sound h.book, fun k₀ o howner => h.owned_rotate howner,
    fun o hold hheld => h.known_onward hmove.onward hheld,
    fun o k₀ b₀ b₁ hheld hstaged => h.fresh_rotate hheld hstaged, h.waits, fun o k₀ b₀ hheld => ?_⟩
  refine h.current_imp (fun _ _ _ => .rfl) (fun k₁ b₁ hk => hk.rotates_other hactive hfree fun howner => ?_)
    hmove.onward hheld
  cases houtside o _ howner hheld

variable [DecidableEq ο]

theorem Sound.prepares (h : R.Sound) (hnew : R.entries k = none) (hunheld : R.holding o = none) :
    Sound (⟨R.stage k b (some o), update R.holding o (some ⟨k, b, false⟩), R.pending⟩ : Register κ ο β γ) := by
  have hmove : Book.Move R.toBook (R.stage k b (some o)) := .stages k b (some o) hnew
  have hunowned : ∀ k₀, R.owner k₀ ≠ some o := by
    intro k₀ howner
    obtain ⟨hold, hheld⟩ := h.owned k₀ o howner
    cases hunheld.symm.trans hheld
  refine ⟨hmove.sound h.book, fun k₀ o₀ howner => ?_, fun o₀ hold hheld => ?_, fun o₀ k₀ b₀ b₁ hheld hstaged => ?_,
    fun c o₀ k₀ b₀ hpending => ?_, fun o₀ k₀ b₀ hheld => ?_⟩
  · dsimp only at *
    by_cases ho : o₀ = o
    · exact ⟨_, by rw [ho, update_self]⟩
    · rw [Book.owner_stage] at howner
      split_ifs at howner with hk
      · exact absurd (Option.some.inj howner).symm ho
      · obtain ⟨hold, hheld⟩ := h.owned k₀ o₀ howner
        exact ⟨hold, by rw [update_of_ne ho, hheld]⟩
  · dsimp only at *
    by_cases ho : o₀ = o
    · rw [ho, update_self] at hheld
      cases hheld
      exact ⟨_, by rw [Book.entries_stage, if_pos rfl]⟩
    · rw [update_of_ne ho] at hheld
      exact h.known_onward hmove.onward hheld
  · dsimp only at *
    by_cases ho : o₀ = o
    · rw [ho, update_self] at hheld
      cases hheld
      rw [Book.entries_stage, if_pos rfl] at hstaged
      cases hstaged
      refine ⟨rfl, by rw [Book.owner_stage, if_pos rfl, ho], fun k₁ howner => ?_⟩
      rw [Book.owner_stage, ho] at howner
      split_ifs at howner with hk₁
      · exact hk₁
      · exact absurd howner (hunowned k₁)
    · rw [update_of_ne ho] at hheld
      have hne : k₀ ≠ k := by
        rintro rfl
        obtain ⟨e, he⟩ := h.known o₀ _ hheld
        cases hnew.symm.trans he
      rw [Book.entries_stage, if_neg hne] at hstaged
      obtain ⟨hbound, hfresh⟩ := h.fresh o₀ k₀ b₀ b₁ hheld hstaged
      refine ⟨hbound, by rw [Book.owner_stage, if_neg hne, hfresh.owner], fun k₁ howner => ?_⟩
      rw [Book.owner_stage] at howner
      split_ifs at howner with hk₁
      · exact absurd (Option.some.inj howner).symm ho
      · exact hfresh.only k₁ howner
  · obtain ⟨hold, hheld, hsettled⟩ := h.waits c o₀ k₀ b₀ hpending
    have ho : o₀ ≠ o := by
      rintro rfl
      cases hunheld.symm.trans hheld
    exact ⟨hold, (update_of_ne ho _ R.holding).trans hheld, hsettled⟩
  · dsimp only at *
    by_cases ho : o₀ = o
    · rw [ho, update_self] at hheld
      cases hheld
    · rw [update_of_ne ho] at hheld
      exact h.current_stage hnew (fun heq => ho (Option.some.inj heq).symm) rfl rfl hheld

/-- The owner `o` is settled, or writes down its entry again. -/
theorem Sound.held (h : R.Sound) {pending : γ → Option (ο × κ × β)}
    (hpending : ∀ o₀, o₀ ≠ o → ∀ c k b, pending c = some (o₀, k, b) ↔ R.pending c = some (o₀, k, b))
    (hwritten : Written (⟨R.toBook, update R.holding o (some ⟨k, b, true⟩), pending⟩ : Register κ ο β γ) o k b) :
    Sound (⟨R.toBook, update R.holding o (some ⟨k, b, true⟩), pending⟩ : Register κ ο β γ) := by
  refine ⟨h.book, fun k₀ o₀ howner => ?_, fun o₀ hold hheld => ?_, fun o₀ k₀ b₀ b₁ hheld hstaged => ?_,
    fun c o₀ k₀ b₀ hc => ?_, fun o₀ k₀ b₀ hheld => ?_⟩
  · dsimp only at *
    by_cases ho : o₀ = o
    · exact ⟨_, by rw [ho, update_self]⟩
    · obtain ⟨hold, hheld⟩ := h.owned k₀ o₀ howner
      exact ⟨hold, by rw [update_of_ne ho, hheld]⟩
  · dsimp only at *
    by_cases ho : o₀ = o
    · rw [ho, update_self] at hheld
      cases hheld
      exact ⟨_, hwritten.holds.active⟩
    · rw [update_of_ne ho] at hheld
      exact h.known o₀ hold hheld
  · dsimp only at *
    by_cases ho : o₀ = o
    · rw [ho, update_self] at hheld
      cases hheld
    · rw [update_of_ne ho] at hheld
      exact h.fresh o₀ k₀ b₀ b₁ hheld hstaged
  · dsimp only at *
    by_cases ho : o₀ = o
    · exact ⟨_, by rw [ho, update_self], rfl⟩
    · obtain ⟨hold, hheld, hsettled⟩ := h.waits c o₀ k₀ b₀ ((hpending o₀ ho c k₀ b₀).mp hc)
      exact ⟨hold, by rw [update_of_ne ho, hheld], hsettled⟩
  · dsimp only at *
    by_cases ho : o₀ = o
    · rw [ho, update_self] at hheld
      cases hheld
      rw [ho]
      exact .inl hwritten
    · rw [update_of_ne ho] at hheld
      exact h.current_imp (hpending o₀ ho) (fun _ _ hk => hk) .refl hheld

theorem Sound.settles (h : R.Sound) {settled : Bool} (hheld : R.holding o = some ⟨k, b', settled⟩)
    (hstaged : R.entries k = some ⟨b, .staged⟩) :
    Sound (⟨R.activate k b, update R.holding o (some ⟨k, b', true⟩), R.pending⟩ : Register κ ο β γ) := by
  have hactivated := h.activates hstaged
  cases settled with
  | true => exact absurd hstaged (h.not_staged hheld)
  | false =>
    obtain ⟨rfl, hfresh⟩ := h.fresh o k b b' hheld hstaged
    refine hactivated.held (fun _ _ _ _ _ => .rfl) ⟨fun c k' b₁ hpending => ?_, hfresh.holds⟩
    obtain ⟨hold, hheld', hsettled⟩ := h.waits c o k' b₁ hpending
    obtain rfl := Option.some.inj (hheld.symm.trans hheld')
    cases hsettled

variable [DecidableEq γ]

theorem Sound.succeeds (h : R.Sound) {b₀ : β} (hheld : R.holding o = some ⟨k, b₀, true⟩)
    (hactive : R.entries k = some ⟨b, .active⟩) (hfree : R.Free k' b') (hidle : R.pending c = none) :
    Sound (⟨R.rotate k k' b b', R.holding, update R.pending c (some (o, k', b'))⟩ : Register κ ο β γ) := by
  have hmove : Book.Move R.toBook (R.rotate k k' b b') := .rotates k k' b b' hactive hfree
  have hwritten := h.written hactive hheld
  obtain rfl : b₀ = b := by
    cases hactive.symm.trans hwritten.holds.active
    rfl
  refine ⟨hmove.sound h.book, fun k₀ o₀ howner => h.owned_rotate howner,
    fun o₀ hold hheld₀ => h.known_onward hmove.onward hheld₀,
    fun o₀ k₀ b₀ b₁ hheld₀ hstaged => h.fresh_rotate hheld₀ hstaged, fun d o₀ k₀ b₁ hpending => ?_,
    fun o₀ k₀ b₁ hheld₀ => ?_⟩
  · by_cases ho : o₀ = o
    · rw [ho]
      exact ⟨_, hheld, rfl⟩
    · have hother := pending_update (c := c) (p := R.pending) (x := some (o, k', b')) (fun _ _ => by simp [hidle])
        (fun _ _ heq => ho (Prod.mk.inj (Option.some.inj heq)).1.symm)
      exact h.waits d o₀ k₀ b₁ ((hother d k₀ b₁).mp hpending)
  · by_cases ho : o₀ = o
    · subst ho
      obtain rfl : k₀ = k := by
        cases hheld.symm.trans hheld₀
        rfl
      refine .inr ⟨c, k', b', by simp, fun d k'' b'' hd => ?_, ?_, ⟨b₀, ?_⟩, hwritten.holds.rotates_self hfree⟩
      · by_contra hdc
        dsimp only at hd
        rw [update_of_ne hdc] at hd
        exact hwritten.idle d k'' b'' hd
      · rw [Book.owner_rotate, if_neg (hfree.ne hactive), hwritten.holds.owner]
      · rw [Book.entries_rotate, if_pos rfl]
    · refine h.current_imp (pending_update (fun _ _ => by simp [hidle])
        (fun _ _ heq => ho (Prod.mk.inj (Option.some.inj heq)).1.symm)) (fun k₁ b₁ hk => ?_) hmove.onward hheld₀
      refine hk.rotates_other hactive hfree fun howner => ho ?_
      exact Option.some.inj (howner.symm.trans hwritten.holds.owner)

theorem Sound.writes (h : R.Sound) {hold : Holding κ β} (hheld : R.holding o = some hold)
    (hpending : R.pending c = some (o, k, b)) :
    Sound (⟨R.toBook, update R.holding o (some ⟨k, b, hold.settled⟩), update R.pending c none⟩ : Register κ ο β γ) := by
  obtain ⟨k₀, b₀, settled⟩ := hold
  obtain rfl : settled = true := by
    obtain ⟨hold, hheld', hsettled⟩ := h.waits c o k b hpending
    cases hheld.symm.trans hheld'
    exact hsettled
  have hsuperseded := h.superseded hpending hheld
  refine h.held (fun o₀ ho => pending_update (fun _ _ heq => ?_) (by simp)) ⟨fun d k' b' hd => ?_, hsuperseded.holds⟩
  · rw [hpending] at heq
    exact ho (Prod.mk.inj (Option.some.inj heq)).1.symm
  · dsimp only at hd
    by_cases hdc : d = c
    · rw [hdc, update_self] at hd
      cases hd
    · rw [update_of_ne hdc] at hd
      exact hdc (hsuperseded.sole d k' b' hd)

/-- **One move keeps a register sound.** -/
theorem Move.sound (h : Move R R') (hsound : R.Sound) : R'.Sound := by
  cases h with
  | stages k b new => exact hsound.stages new
  | activates k b staged => exact hsound.activates staged
  | rotates k k' b b' active free outside => exact hsound.rotates active free outside
  | prepares o k b new unheld => exact hsound.prepares new unheld
  | settles o k b b' settled held staged => exact hsound.settles held staged
  | succeeds o c k k' b b' b₀ held active free idle => exact hsound.succeeds held active free idle
  | writes o c k b hold held pending => exact hsound.writes held pending

/-- **One move leads its book onward.** -/
theorem Move.onward (h : Move R R') : Book.Onward R.toBook R'.toBook := by
  cases h with
  | stages k b new => exact (Book.Move.stages k b none new).onward
  | activates k b staged => exact (Book.Move.activates k b staged).onward
  | rotates k k' b b' active free outside => exact (Book.Move.rotates k k' b b' active free).onward
  | prepares o k b new unheld => exact (Book.Move.stages k b (some o) new).onward
  | settles o k b b' settled held staged => exact (Book.Move.activates k b staged).onward
  | succeeds o c k k' b b' b₀ held active free idle => exact (Book.Move.rotates k k' b b' active free).onward
  | writes o c k b hold held pending => exact .refl

theorem Follows.move (h : R.Follows o k) (hsound : R.Sound) (hmove : Move R R') : R'.Follows o k := by
  obtain ⟨hold, e, hheld, hsettled, howner, he, hstaged, hid⟩ := h
  obtain ⟨e', he', -, hkeeps, hretired⟩ := hmove.onward k e he
  obtain ⟨hstaged', howner'⟩ := hkeeps hstaged
  -- the owner's holding stays, or names another entry once this one is retired
  have hheld' : ∃ hold', R'.holding o = some hold' ∧ hold'.settled = true ∧ (hold'.id = k ∨ e.standing = .retired) := by
    cases hmove with
    | stages k b new => exact ⟨hold, hheld, hsettled, hid⟩
    | activates k b staged => exact ⟨hold, hheld, hsettled, hid⟩
    | rotates k k' b b' active free outside => exact ⟨hold, hheld, hsettled, hid⟩
    | prepares o₀ k b new unheld =>
      have ho : o ≠ o₀ := by
        rintro rfl
        cases unheld.symm.trans hheld
      exact ⟨hold, (update_of_ne ho _ R.holding).trans hheld, hsettled, hid⟩
    | settles o₀ k b b' settled held staged =>
      by_cases ho : o = o₀
      · subst ho
        cases hheld.symm.trans held
        exact ⟨⟨k, b', true⟩, update_self o _ R.holding, rfl, hid⟩
      · exact ⟨hold, (update_of_ne ho _ R.holding).trans hheld, hsettled, hid⟩
    | succeeds o c k k' b b' b₀ held active free idle => exact ⟨hold, hheld, hsettled, hid⟩
    | writes o₀ c k b hold₀ held pending =>
      by_cases ho : o = o₀
      · subst ho
        cases hheld.symm.trans held
        refine ⟨⟨k, b, hold.settled⟩, update_self o _ R.holding, hsettled, .inr ?_⟩
        obtain hk | hretired := hid
        · obtain ⟨k₀, b₀, settled⟩ := hold
          obtain rfl : settled = true := hsettled
          obtain ⟨b₁, hretired⟩ := (hsound.superseded pending hheld).retired
          have hid : R.entries k₀ = some e := by
            rw [← he]
            exact congrArg R.entries hk
          obtain rfl := Option.some.inj (hid.symm.trans hretired)
          rfl
        · exact hretired
      · exact ⟨hold, (update_of_ne ho _ R.holding).trans hheld, hsettled, hid⟩
  obtain ⟨hold', hhold', hsettled', hid'⟩ := hheld'
  exact ⟨hold', e', hhold', hsettled', howner'.trans howner, he', hstaged', hid'.imp id hretired⟩

end

end Register

end Lib
