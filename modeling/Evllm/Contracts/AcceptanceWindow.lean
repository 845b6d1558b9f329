/-
# The acceptance window

A delivered agreement waits for its buyer until `deliveryDeadline +
acceptanceWindow`; from then on anyone may refer it. Both calls compute the sum
in 64 bits, and no call that makes an agreement looks at the window. Where the
sum is a word, one of the two calls succeeds at every time and the other fails;
where it is not, both revert, at every time.

Key definitions: `DeliveryDecided`.
Key theorems: `acceptDelivery_iff`, `acceptanceTimeout_iff`,
`acceptance_window_decides`.
-/
import Evllm.Contracts.Admission
import Evllm.Contracts.Settlement

namespace Evllm
namespace Contracts

open Lib Function Marketplace

/-! ### The two calls -/

section Calls

variable {im : Immutables} {regs : Registries} {m : Marketplace} {msg : Msg} {id : Bytes32}

theorem checkedAdd_ok_iff {w : ℕ} {x y : BitVec w} : (∃ sum, checkedAdd x y = .ok sum) ↔ x.toNat + y.toNat < 2 ^ w := by
  unfold checkedAdd
  split_ifs with h <;> simp [h]

/-- The last instant, as a number, after which a buyer is late. -/
def Agreement.acceptanceEnd (agreement : Agreement) (im : Immutables) : ℕ :=
  agreement.deliveryDeadline.toNat + im.acceptanceWindow.toNat

theorem acceptDelivery_iff (hstate : (m.agreements id).state = .delivered) (hbuyer : (m.agreements id).buyer = msg.sender) :
    (∃ m', m.acceptDelivery im msg id = .ok m') ↔
      m.entered = false ∧ (m.agreements id).acceptanceEnd im < 2 ^ 64 ∧
        msg.timestamp < (m.agreements id).acceptanceEnd im := by
  unfold Agreement.acceptanceEnd
  constructor
  · rintro ⟨m', h⟩
    simp only [acceptDelivery, nonReentrant, bind_eq_ok, throwIf_eq_ok] at h
    obtain ⟨_, hguard, _, _, _, _, sum, hsum, _, htime, _⟩ := h
    rw [checkedAdd_eq_ok hsum] at htime
    exact ⟨by simpa using hguard, checkedAdd_ok_iff.mp ⟨sum, hsum⟩, not_le.mp htime⟩
  · rintro ⟨hguard, hfits, htime⟩
    obtain ⟨sum, hsum⟩ := checkedAdd_ok_iff.mpr hfits
    have hopen : ¬sum.toNat ≤ msg.timestamp := by
      rw [checkedAdd_eq_ok hsum]
      exact not_le.mpr htime
    unfold acceptDelivery nonReentrant
    dsimp only
    rw [throwIf_bind_of_not (by simp [hguard]), throwIf_bind_of_not (not_not.mpr hstate),
      throwIf_bind_of_not (not_not.mpr hbuyer), hsum]
    exact ⟨_, throwIf_bind_of_not hopen⟩

theorem acceptanceTimeout_iff (hstate : (m.agreements id).state = .delivered) :
    (∃ m', m.applyDeliveryOrAcceptanceTimeout im msg id = .ok m') ↔
      m.entered = false ∧ (m.agreements id).acceptanceEnd im < 2 ^ 64 ∧
        (m.agreements id).acceptanceEnd im ≤ msg.timestamp := by
  unfold Agreement.acceptanceEnd
  constructor
  · rintro ⟨m', h⟩
    simp only [applyDeliveryOrAcceptanceTimeout, acceptanceLate, hstate, if_true, nonReentrant, bind_eq_ok,
      throwIf_eq_ok, pure_eq_ok] at h
    obtain ⟨_, hguard, late, ⟨sum, hsum, rfl⟩, _, hlate, _⟩ := h
    rw [checkedAdd_eq_ok hsum] at hlate
    refine ⟨by simpa using hguard, checkedAdd_ok_iff.mp ⟨sum, hsum⟩, ?_⟩
    by_contra htime
    exact hlate (by simp [htime])
  · rintro ⟨hguard, hfits, htime⟩
    obtain ⟨sum, hsum⟩ := checkedAdd_ok_iff.mpr hfits
    have hlate : acceptanceLate im msg (m.agreements id) = .ok true := by
      have htimeout : decide (sum.toNat ≤ msg.timestamp) = true := by
        rw [checkedAdd_eq_ok hsum]
        exact decide_eq_true htime
      unfold acceptanceLate
      rw [if_pos hstate, hsum]
      exact congrArg Except.ok htimeout
    unfold applyDeliveryOrAcceptanceTimeout nonReentrant
    dsimp only
    rw [throwIf_bind_of_not (by simp [hguard]), hlate]
    exact ⟨_, throwIf_bind_of_not (by simp)⟩

end Calls

/-! ### Every run -/

variable {D : Deployment}

/-- The sum can be computed, and at every time the buyer may accept or anyone
may refer the agreement, and not both. -/
def DeliveryDecided (c : Chain D) (self : D.Market) (id : Bytes32) : Prop :=
  let agreement := (c.markets self).agreements id
  (∃ sum, checkedAdd agreement.deliveryDeadline (D.acceptanceWindow self.1) = .ok sum) ∧
    ∀ caller timestamp,
      Xor (∃ c', exec c ⟨agreement.buyer, timestamp⟩ (.market self (.acceptDelivery id)) = .ok c')
        (∃ c', exec c ⟨caller, timestamp⟩ (.market self (.applyDeliveryOrAcceptanceTimeout id)) = .ok c')

/-- A call that keeps the registries completes just if its function does. -/
theorem exec_keeping_iff {c : Chain D} {self : D.Market} {msg : Msg} {op : MarketOp} {result : Except Revert Marketplace}
    (hop : op.exec (D.immutables self) c.registries (c.markets self) msg = keeping c.registries result) :
    (∃ c', exec c msg (.market self op) = .ok c') ↔ ∃ m', result = .ok m' := by
  simp only [exec, hop, keeping, bind_eq_ok, pure_eq_ok]
  constructor
  · rintro ⟨_, _, ⟨m', hm', _⟩, _⟩
    exact ⟨m', hm'⟩
  · rintro ⟨m', hm'⟩
    exact ⟨_, _, ⟨m', hm', rfl⟩, rfl⟩

theorem deliveryDecided_iff {c : Chain D} {self : D.Market} {id : Bytes32}
    (hstate : ((c.markets self).agreements id).state = .delivered) :
    DeliveryDecided c self id ↔ (c.markets self).entered = false ∧
      ((c.markets self).agreements id).acceptanceEnd (D.immutables self) < 2 ^ 64 := by
  have haccept : ∀ timestamp, (∃ c', exec c ⟨((c.markets self).agreements id).buyer, timestamp⟩
      (.market self (.acceptDelivery id)) = .ok c') ↔ _ :=
    fun timestamp => (exec_keeping_iff rfl).trans (acceptDelivery_iff hstate rfl)
  have htimeout : ∀ caller timestamp, (∃ c', exec c ⟨caller, timestamp⟩
      (.market self (.applyDeliveryOrAcceptanceTimeout id)) = .ok c') ↔ _ :=
    fun caller timestamp => (exec_keeping_iff rfl).trans (acceptanceTimeout_iff hstate)
  constructor
  · rintro ⟨-, hone⟩
    -- one of the two succeeds, now say, and either needs both
    obtain ⟨hbuyer, -⟩ | ⟨hothers, -⟩ := hone 0 0
    · obtain ⟨hguard, hfits, -⟩ := (haccept 0).mp hbuyer
      exact ⟨hguard, hfits⟩
    · obtain ⟨hguard, hfits, -⟩ := (htimeout 0 0).mp hothers
      exact ⟨hguard, hfits⟩
  · rintro ⟨hguard, hfits⟩
    refine ⟨checkedAdd_ok_iff.mpr hfits, fun caller timestamp => ?_⟩
    obtain htime | htime := lt_or_ge timestamp (((c.markets self).agreements id).acceptanceEnd (D.immutables self))
    · refine .inl ⟨(haccept timestamp).mpr ⟨hguard, hfits, htime⟩, fun hothers => ?_⟩
      exact absurd ((htimeout caller timestamp).mp hothers).2.2 (not_le.mpr htime)
    · refine .inr ⟨(htimeout caller timestamp).mpr ⟨hguard, hfits, htime⟩, fun hbuyer => ?_⟩
      exact absurd ((haccept timestamp).mp hbuyer).2.2 (not_lt.mpr htime)

/-- The sum is a word for every agreement. -/
def DeadlinesFit (D : Deployment) (self : D.Market) (m : Marketplace) : Prop :=
  ∀ id, (m.agreements id).isSet → (m.agreements id).acceptanceEnd (D.immutables self) < 2 ^ 64

theorem market_deadlinesFit {self : D.Market} {regs regs' : Registries} {m m' : Marketplace} {msg : Msg} {op : MarketOp}
    (hinput : ∀ input, op = .selectOfferAndCreateAgreement input →
      input.deliveryDeadline.toNat + (D.acceptanceWindow self.1).toNat < 2 ^ 64)
    (h : op.exec (D.immutables self) regs m msg = .ok (regs', m')) (hm : DeadlinesFit D self m) :
    DeadlinesFit D self m' := by
  intro id hset
  by_cases hold : (m.agreements id).isSet
  · obtain ⟨-, hterms⟩ := trade_hasTerms (market_trade h) ⟨hold, rfl⟩
    have hdeadline : (m'.agreements id).terms.deliveryDeadline = (m.agreements id).terms.deliveryDeadline := by
      rw [hterms]
    change (m'.agreements id).deliveryDeadline = (m.agreements id).deliveryDeadline at hdeadline
    unfold Agreement.acceptanceEnd
    rw [hdeadline]
    exact hm id hold
  · obtain ⟨input, rfl, hdeadline⟩ := market_agreement_new h hold hset
    unfold Agreement.acceptanceEnd
    rw [hdeadline]
    exact hinput input rfl

/-- **The acceptance window decides** about a delivered agreement, in every
state of every run, just if the sum of its deadline and the window is a word
and the marketplace is not paying out; and so it does in every state of a run
that selects no offer with a deadline for which the sum is none. -/
theorem acceptance_window_decides (D : Deployment) (self : D.Market) (ls : List D.Step) :
    let c := (after D ls).state
    (∀ id, ((c.markets self).agreements id).state = .delivered →
      (DeliveryDecided c self id ↔ (c.markets self).entered = false ∧
        ((c.markets self).agreements id).deliveryDeadline.toNat + (D.acceptanceWindow self.1).toNat < 2 ^ 64)) ∧
    ((∀ request input, Act.call (request, Op.market self (.selectOfferAndCreateAgreement input)) ∈ ls →
        input.deliveryDeadline.toNat + (D.acceptanceWindow self.1).toNat < 2 ^ 64) →
      paying self ((after D ls).pending.map Pending.frame) = [] →
      ∀ id, ((c.markets self).agreements id).state = .delivered → DeliveryDecided c self id) := by
  intro c
  refine ⟨fun id hstate => deliveryDecided_iff hstate, fun hls hidle id hstate => ?_⟩
  have hfits : DeadlinesFit D self (c.markets self) := by
    refine (market_rule self (I := DeadlinesFit D self)
      (P := fun op => ∀ input, op = .selectOfferAndCreateAgreement input →
        input.deliveryDeadline.toNat + (D.acceptanceWindow self.1).toNat < 2 ^ 64) ?_ ?_ ls ?_
      (s := ⟨Chain.deployed D, []⟩) ?_).now
    · intro m m' _ _ hagreements hm
      unfold DeadlinesFit
      rw [hagreements]
      exact hm
    · intro regs regs' m m' msg op hinput _ hop hm
      exact market_deadlinesFit hinput hop hm
    · rintro request op hop input rfl
      exact hls request input hop
    · exact fun id hset => absurd rfl hset
  refine (deliveryDecided_iff hstate).mpr ⟨after_entered self ls hidle, hfits id ?_⟩
  exact isSet_of_eq hstate (by simp)

namespace Sample

/-- The sample's deployment, with one more hash. -/
def lateDeployment : Deployment :=
  { deployment with
    crypto := { deployment.crypto with
      keccak256 := fun bytes =>
        if bytes = abiEncode [13, 24] then 0x9f54e10f2b34037c7b3dbc8b147ae978b2f5629a4965b815941ce1b59e8e3e80
        else deployment.crypto.keccak256 bytes } }

def lateMarket : lateDeployment.Market := market

/-- A step of the sample, in the other deployment. -/
def lateStep : deployment.Step → lateDeployment.Step
  | .call (request, op) =>
    .call (⟨request.caller, request.timestamp⟩,
      match op with
      | .authority op => .authority op
      | .bundles op => .bundles op
      | .ownership op => .ownership op
      | .deployment op => .deployment op
      | .market self op => .market self op)
  | .enter (request, self) => .enter (⟨request.caller, request.timestamp⟩, self)
  | .leave accepted => .leave accepted

/-- The sample's agreement, delivered, with the delivery deadline `deadline`. -/
def deliveredBy (deadline : Uint64) : List lateDeployment.Step :=
  List.map lateStep <| accounts ++ modules ++ bundle 21 31 (Marketplace.listingBundleType deployment.crypto) ++
    bundle 22 32 (Marketplace.agreementBundleType deployment.crypto) ++
    [call seller 2 (.market market (.createListing ⟨31, 5, 1, 11, 21, 41, 100, 9, 10⟩)),
      call buyer 3 (.market market (.submitOffer ⟨33, 31, 2, 12, 90, 8, 44, 9⟩)),
      call seller 4 (.market market (.selectOfferAndCreateAgreement ⟨32, 31, 33, 22, 41, 45, 20, deadline⟩)),
      call buyer 5 (.market market (.confirmAgreement 32 45)),
      call buyer 6 (.market market (.fundAgreement 32 90))] ++
    bundle 23 34 (Marketplace.logisticsBundleType deployment.crypto) ++
    [call seller 7 (.market market (.recordDispatch 32 ⟨34, 23, 41, 1, 11⟩))] ++
    bundle 24 35 (Marketplace.logisticsBundleType deployment.crypto) ++
    [call seller 8 (.market market (.recordDelivery 32 ⟨35, 24, 41, 1, 11⟩))]

theorem delivered_reached :
    (((after lateDeployment (deliveredBy 30)).state.markets lateMarket).agreements 32).state = .delivered ∧
      (((after lateDeployment (deliveredBy 30)).state.markets lateMarket).agreements 32).deliveryDeadline = 30 ∧
      ((after lateDeployment (deliveredBy 30)).state.markets lateMarket).entered = false := by
  decide +kernel

theorem late_reached :
    (((after lateDeployment (deliveredBy (2 ^ 64 - 1))).state.markets lateMarket).agreements 32).state = .delivered ∧
      (((after lateDeployment (deliveredBy (2 ^ 64 - 1))).state.markets lateMarket).agreements 32).deliveryDeadline =
        2 ^ 64 - 1 ∧
      paying lateMarket ((after lateDeployment (deliveredBy (2 ^ 64 - 1))).pending.map Pending.frame) = [] := by
  decide +kernel

end Sample

open Sample in
/-- With the deadline 30 and a window of 10 the calls are decided. -/
theorem acceptance_window_decides_delivered :
    DeliveryDecided (after lateDeployment (deliveredBy 30)).state lateMarket 32 := by
  obtain ⟨hstate, hdeadline, hguard⟩ := delivered_reached
  refine ((acceptance_window_decides lateDeployment lateMarket (deliveredBy 30)).1 32 hstate).mpr ⟨hguard, ?_⟩
  rw [hdeadline]
  decide

open Sample in
/-- A deadline at the end of the range is admitted, and the agreement is
delivered; then at no time either call succeeds. -/
theorem acceptance_window_overflows :
    ¬∀ (D : Deployment) (self : D.Market) (ls : List D.Step) (id : Bytes32),
      paying self ((after D ls).pending.map Pending.frame) = [] →
      (((after D ls).state.markets self).agreements id).state = .delivered →
      DeliveryDecided (after D ls).state self id := by
  intro h
  obtain ⟨hstate, hdeadline, hidle⟩ := late_reached
  obtain ⟨-, hfits⟩ := (deliveryDecided_iff hstate).mp (h lateDeployment lateMarket _ 32 hidle hstate)
  unfold Agreement.acceptanceEnd at hfits
  rw [hdeadline] at hfits
  exact absurd hfits (by decide +kernel)

end Contracts
end Evllm
