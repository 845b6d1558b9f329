/-
# Locks and live listings

A marketplace holds the lock of exactly the batteries it has a live listing
of, one listing each, and while it does the recorded owner is the seller. The
fact is spread over the marketplace and the ownership registry: each call that
ends a listing's life must give back the lock, and no call of another account
can take it or give it.
-/
import Evllm.Contracts.Coherence

namespace Evllm
namespace Contracts

open Lib Function

variable {D : Deployment}

/-- A listing that is active or matched. -/
def ListingState.live (state : ListingState) : Prop := state = .active ∨ state = .matched

/-- The locks of the marketplace at the address `holder` and its live listings. -/
structure Locked (holder : Address) (m : Marketplace) (b : Batteries) : Prop where
  held : ∀ id, (m.listings id).state.live → Held holder (b (m.listings id).batteryId)
  owner : ∀ id, (m.listings id).state.live →
    (b (m.listings id).batteryId).recordedOwnerOrganizationId = (m.listings id).sellerOrganizationId
  listed : ∀ x, (b x).marketplaceLock = holder → ∃ id, (m.listings id).state.live ∧ (m.listings id).batteryId = x
  single : ∀ i j, (m.listings i).state.live → (m.listings j).state.live →
    (m.listings i).batteryId = (m.listings j).batteryId → i = j

theorem deployed_locked {self : Address} (hself : self ≠ 0) : Locked self .deployed fun _ => ⟨0, 0, false⟩ where
  held _ h := by simp [Marketplace.deployed, ListingState.live] at h
  owner _ h := by simp [Marketplace.deployed, ListingState.live] at h
  listed _ h := absurd h.symm hself
  single _ _ h := by simp [Marketplace.deployed, ListingState.live] at h

section Changes

variable {self : Address} {m m' : Marketplace} {b b' : Batteries}

/-- Other accounts cannot touch a lock that is held, nor set one. -/
theorem foreign_locked (h : Foreign self b b') (hm : Locked self m b) : Locked self m b' := by
  have hkept : ∀ id, (m.listings id).state.live → b' (m.listings id).batteryId = b (m.listings id).batteryId :=
    fun id hlive => (h _).1 (hm.held id hlive)
  constructor
  · intro id hlive
    rw [hkept id hlive]
    exact hm.held id hlive
  · intro id hlive
    rw [hkept id hlive]
    exact hm.owner id hlive
  · intro x hx
    refine hm.listed x ?_
    rw [← (h x).2 hx]
    exact hx
  · exact hm.single

/-- A listing changes in nothing that the lock depends on. -/
theorem locked_of_listing (id : Bytes32) (l : Listing) (hlive : l.state.live ↔ (m.listings id).state.live)
    (hbattery : l.batteryId = (m.listings id).batteryId)
    (hseller : l.sellerOrganizationId = (m.listings id).sellerOrganizationId)
    (hlistings : m'.listings = update m.listings id l) (hm : Locked self m b) : Locked self m' b := by
  have hfields : ∀ x, ((m'.listings x).state.live ↔ (m.listings x).state.live) ∧
      (m'.listings x).batteryId = (m.listings x).batteryId ∧
      (m'.listings x).sellerOrganizationId = (m.listings x).sellerOrganizationId := by
    intro x
    rw [hlistings]
    by_cases hx : x = id
    · subst hx
      rw [update_self]
      exact ⟨hlive, hbattery, hseller⟩
    · rw [update_of_ne hx]
      exact ⟨Iff.rfl, rfl, rfl⟩
  constructor
  · intro x hx
    rw [(hfields x).1] at hx
    rw [(hfields x).2.1]
    exact hm.held x hx
  · intro x hx
    rw [(hfields x).1] at hx
    rw [(hfields x).2.1, (hfields x).2.2]
    exact hm.owner x hx
  · intro x hx
    obtain ⟨y, hy, hyx⟩ := hm.listed x hx
    exact ⟨y, (hfields y).1.mpr hy, (hfields y).2.1.trans hyx⟩
  · intro i j hi hj hij
    rw [(hfields i).1] at hi
    rw [(hfields j).1] at hj
    rw [(hfields i).2.1, (hfields j).2.1] at hij
    exact hm.single i j hi hj hij

theorem locked_of_same (hlistings : m'.listings = m.listings) (hm : Locked self m b) : Locked self m' b := by
  constructor
  · rw [hlistings]
    exact hm.held
  · rw [hlistings]
    exact hm.owner
  · rw [hlistings]
    exact hm.listed
  · rw [hlistings]
    exact hm.single

/-- A free battery is listed and locked. -/
theorem locked_of_list (hself : self ≠ 0) (id : Bytes32) (l : Listing)
    (hold : ¬(m.listings id).state.live) (hactive : l.state.live)
    (hreg : (b l.batteryId).registered = true)
    (howner : (b l.batteryId).recordedOwnerOrganizationId = l.sellerOrganizationId)
    (hfree : (b l.batteryId).marketplaceLock = 0) (hlistings : m'.listings = update m.listings id l)
    (hm : Locked self m b) : Locked self m' (withLock b l.batteryId self) := by
  -- no live listing is of a battery whose lock is free
  have hne : ∀ x, (m.listings x).state.live → (m.listings x).batteryId ≠ l.batteryId := by
    intro x hx h
    have hheld := (hm.held x hx).2
    rw [h, hfree] at hheld
    exact hself hheld.symm
  have hkept : ∀ x, x ≠ id → m'.listings x = m.listings x := fun x hx => by rw [hlistings, update_of_ne hx]
  have hnew : m'.listings id = l := by rw [hlistings, update_self]
  unfold withLock
  constructor
  · intro x hx
    by_cases hid : x = id
    · rw [hid, hnew, update_self]
      exact ⟨hreg, rfl⟩
    · rw [hkept x hid] at hx ⊢
      rw [update_of_ne (hne x hx)]
      exact hm.held x hx
  · intro x hx
    by_cases hid : x = id
    · rw [hid, hnew, update_self]
      exact howner
    · rw [hkept x hid] at hx ⊢
      rw [update_of_ne (hne x hx)]
      exact hm.owner x hx
  · intro x hx
    by_cases hb : x = l.batteryId
    · exact ⟨id, by rw [hnew]; exact hactive, by rw [hnew, hb]⟩
    · rw [update_of_ne hb] at hx
      obtain ⟨y, hy, hyx⟩ := hm.listed x hx
      have hyid : y ≠ id := fun h => hold (h ▸ hy)
      exact ⟨y, by rwa [hkept y hyid], by rwa [hkept y hyid]⟩
  · intro i j hi hj hij
    by_cases hii : i = id
    · by_cases hjj : j = id
      · rw [hii, hjj]
      · rw [hkept j hjj] at hj hij
        rw [hii, hnew] at hij
        exact absurd hij.symm (hne j hj)
    · rw [hkept i hii] at hi hij
      by_cases hjj : j = id
      · rw [hjj, hnew] at hij
        exact absurd hij (hne i hi)
      · rw [hkept j hjj] at hj hij
        exact hm.single i j hi hj hij

/-- A live listing ends and its battery is unlocked. -/
theorem locked_of_end (hself : self ≠ 0) (id : Bytes32) (l : Listing) (battery : Battery)
    (hlive : (m.listings id).state.live) (hended : ¬l.state.live) (hfree : battery.marketplaceLock = 0)
    (hlistings : m'.listings = update m.listings id l) (hm : Locked self m b) :
    Locked self m' (update b (m.listings id).batteryId battery) := by
  -- a listing that is live after was live before, and of another battery
  have hkept : ∀ x, (m'.listings x).state.live → x ≠ id ∧ m'.listings x = m.listings x := by
    intro x hx
    by_cases hid : x = id
    · rw [hid, hlistings, update_self] at hx
      exact absurd hx hended
    · exact ⟨hid, by rw [hlistings, update_of_ne hid]⟩
  have hother : ∀ x, x ≠ id → (m.listings x).state.live → (m.listings x).batteryId ≠ (m.listings id).batteryId :=
    fun x hid hx h => hid (hm.single x id hx hlive h)
  constructor
  · intro x hx
    obtain ⟨hid, heq⟩ := hkept x hx
    rw [heq] at hx ⊢
    rw [update_of_ne (hother x hid hx)]
    exact hm.held x hx
  · intro x hx
    obtain ⟨hid, heq⟩ := hkept x hx
    rw [heq] at hx ⊢
    rw [update_of_ne (hother x hid hx)]
    exact hm.owner x hx
  · intro x hx
    by_cases hb : x = (m.listings id).batteryId
    · rw [hb, update_self, hfree] at hx
      exact absurd hx.symm hself
    · rw [update_of_ne hb] at hx
      obtain ⟨y, hy, hyx⟩ := hm.listed x hx
      have hyid : y ≠ id := fun h => hb (hyx.symm.trans (congrArg (fun z => (m.listings z).batteryId) h))
      exact ⟨y, by rwa [hlistings, update_of_ne hyid], by rwa [hlistings, update_of_ne hyid]⟩
  · intro i j hi hj hij
    obtain ⟨_, heqi⟩ := hkept i hi
    obtain ⟨_, heqj⟩ := hkept j hj
    rw [heqi] at hi hij
    rw [heqj] at hj hij
    exact hm.single i j hi hj hij

/-- An open agreement closes: its listing was matched, and its battery is the
listing's. -/
theorem locked_of_close (hself : self ≠ 0) (id : Bytes32) (s : ListingState) (battery : Battery)
    (hopen : (m.agreements id).state.listingState = .matched) (hset : (m.agreements id).isSet) (hs : ¬s.live)
    (hfree : battery.marketplaceLock = 0)
    (hlistings : m'.listings = update m.listings (m.agreements id).listingId
      { m.listings (m.agreements id).listingId with state := s })
    (hcoherent : Coherent m) (hm : Locked self m b) :
    Locked self m' (update b (m.agreements id).batteryId battery) := by
  have hagrees := hcoherent.agrees id hset
  rw [hagrees.batteryId]
  exact locked_of_end hself _ _ battery (.inr (hagrees.listingState.trans hopen)) hs hfree hlistings hm

end Changes

/-! ### Every trade and every run -/

theorem trade_locked {self : Address} {m m' : Marketplace} {b b' : Batteries} (hself : self ≠ 0)
    (h : Trade self m b m' b') (hcoherent : Coherent m) (hm : Locked self m b) : Locked self m' b' := by
  cases h with
  | list id l hunset hactive hreg howner hfree =>
    exact locked_of_list (m := m) hself id l (by simp [ListingState.live, hunset]) (.inl hactive) hreg howner
      hfree rfl hm
  | closeListing id s hs hactive _ =>
    refine locked_of_end (m := m) hself id _ _ (.inl hactive) ?_ rfl rfl hm
    rcases hs with rfl | rfl <;> simp [ListingState.live]
  | select input hactive _ _ _ =>
    refine locked_of_listing (m := m) input.listingId
      { m.listings input.listingId with state := .matched, acceptedOfferId := input.offerId } ?_ rfl rfl rfl hm
    simp [ListingState.live, hactive]
  | submit | closeOffer | advance | fund => exact locked_of_same (m := m) rfl hm
  | release id credit hstate _ _ =>
    refine locked_of_close (m := m) hself id .closedSettled _ ?_ ?_ (by simp [ListingState.live]) rfl rfl hcoherent hm
    · rcases hstate with hs | hs | hs <;> rw [hs] <;> rfl
    · rcases hstate with hs | hs | hs <;> simp [Agreement.isSet, hs]
  | refund id credit hstate _ _ =>
    refine locked_of_close (m := m) hself id .closedCancelled _ ?_ ?_ (by simp [ListingState.live]) rfl rfl hcoherent hm
    · rcases hstate with hs | hs | hs <;> rw [hs] <;> rfl
    · rcases hstate with hs | hs | hs <;> simp [Agreement.isSet, hs]
  | cancel id hstate _ =>
    refine locked_of_close (m := m) hself id .closedCancelled _ ?_ ?_ (by simp [ListingState.live]) rfl rfl hcoherent hm
    · rcases hstate with hs | hs <;> rw [hs] <;> rfl
    · rcases hstate with hs | hs <;> simp [Agreement.isSet, hs]

theorem after_locked (D : Deployment) (self : D.Market) (ls : List D.Step) :
    Locked self.1 ((after D ls).state.markets self) (after D ls).state.batteries := by
  have hself := market_ne_zero self
  have h := trade_rule self (I := fun m b _ => Coherent m ∧ Locked self.1 m b)
    (fun m b m' b' ps ht hm => ⟨trade_coherent ht hm.1, trade_locked hself ht hm.1 hm.2⟩)
    (fun m b b' ps hf hm => ⟨hm.1, foreign_locked hf hm.2⟩)
    (fun m m' amount b ps msg hw hm => by
      obtain ⟨_, _, rfl⟩ := withdrawCredits_ok hw
      exact ⟨coherent_of_same (m := m) rfl rfl rfl hm.1, locked_of_same (m := m) rfl hm.2⟩)
    (fun m b ps recipient amount hm =>
      ⟨coherent_of_same (m := m) rfl rfl rfl hm.1, locked_of_same (m := m) rfl hm.2⟩)
    ls (s := ⟨Chain.deployed D, []⟩) ⟨deployed_coherent, deployed_locked hself⟩
  exact h.now.2

/-- **Lock and live listing agree**: after any calls of this marketplace, of
others, of registrars and of governance, a battery is locked by the
marketplace if and only if the marketplace has a listing of it that is active
or matched; there is then exactly one, and its seller is the recorded owner. -/
theorem lock_iff_live_listing (D : Deployment) (self : D.Market) (ls : List D.Step) (batteryId : Bytes32) :
    let m := (after D ls).state.markets self
    let battery := (after D ls).state.registries.ownership.batteries batteryId
    (battery.marketplaceLock = self.1 ↔ ∃ id, (m.listings id).batteryId = batteryId ∧
      ((m.listings id).state = .active ∨ (m.listings id).state = .matched)) ∧
    (battery.marketplaceLock = self.1 → ∃! id, (m.listings id).batteryId = batteryId ∧
      ((m.listings id).state = .active ∨ (m.listings id).state = .matched)) ∧
    ∀ id, (m.listings id).batteryId = batteryId →
      ((m.listings id).state = .active ∨ (m.listings id).state = .matched) →
      battery.recordedOwnerOrganizationId = (m.listings id).sellerOrganizationId := by
  intro m battery
  have h : Locked self.1 m (after D ls).state.batteries := after_locked D self ls
  refine ⟨⟨fun hlock => ?_, ?_⟩, fun hlock => ?_, ?_⟩
  · obtain ⟨id, hlive, hid⟩ := h.listed batteryId hlock
    exact ⟨id, hid, hlive⟩
  · rintro ⟨id, rfl, hlive⟩
    exact (h.held id hlive).2
  · obtain ⟨id, hlive, hid⟩ := h.listed batteryId hlock
    refine ⟨id, ⟨hid, hlive⟩, ?_⟩
    rintro j ⟨hj, hjlive⟩
    exact h.single j id hjlive hlive (hj.trans hid.symm)
  · rintro id rfl hlive
    exact h.owner id hlive

end Contracts
end Evllm
