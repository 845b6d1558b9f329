/-
# Proofs are used once

However the calls of any number of services interleave, no two that succeed
share an attestation, finalization or acknowledgement nonce of their service,
or a key-operation nonce or authorization of the repository; and a call whose
proofs are refused takes back exactly the nonces it had consumed.

A repository records what it accepts and accepts nothing that clashes with a
record (`Repository.Sound`, `Accepts`); for PostgreSQL this rests on the
advisory lock for the nonce and on the primary key for the authorization. The
nonces that calls hold are in the stores of their service, and no two calls
hold the same one (`OneUse`).

Key theorems: `Repository.Sound.submit`, `Repository.Sound.step`,
`oneUse_after`, `proofs_used_once`.
-/
import Evllm.Evidence.Workflow
import Mathlib

namespace Evllm
namespace Evidence

open Lib Contracts Function

/-! ### The database -/

section Database

variable {lockHash : NonceScope → ℕ} {db : Database} {t : ℕ} {a b : Transaction}

/-- Two open transactions hold different locks, and have inserted rows with
different primary keys. -/
def Compatible (lockHash : NonceScope → ℕ) (a b : Transaction) : Prop :=
  (a.holdsLock → b.holdsLock → lockHash a.request.nonceScope ≠ lockHash b.request.nonceScope) ∧
    (a.phase = .inserted → b.phase = .inserted → a.request.key ≠ b.request.key)

theorem Compatible.symm (h : Compatible lockHash a b) : Compatible lockHash b a :=
  ⟨fun hb ha => (h.1 ha hb).symm, fun hb ha => (h.2 ha hb).symm⟩

/-- The nonce of a transaction that has looked is still free, and the primary
key of one that has inserted. -/
structure Database.Sound (lockHash : NonceScope → ℕ) (db : Database) : Prop where
  compatible : db.transactions.Pairwise (Compatible lockHash)
  scopeFree : ∀ a ∈ db.transactions, a.phase = .checked ∨ a.phase = .inserted →
    ∀ row ∈ db.rows, row.nonceScope ≠ a.request.nonceScope
  keyFree : ∀ a ∈ db.transactions, a.phase = .inserted → ∀ row ∈ db.rows, row.key ≠ a.request.key

theorem Database.Sound.others (h : db.Sound lockHash) (ht : db.transactions[t]? = some a) :
    ∀ b ∈ db.transactions.eraseIdx t, Compatible lockHash a b := by
  obtain ⟨hlt, rfl⟩ := List.getElem?_eq_some_iff.mp ht
  have hperm := List.getElem_cons_eraseIdx_perm hlt
  have hpairs := (hperm.pairwise_iff Compatible.symm).mpr h.compatible
  exact (List.pairwise_cons.mp hpairs).1

theorem Database.Sound.close (h : db.Sound lockHash) (t : ℕ) : (db.close t).Sound lockHash :=
  ⟨h.compatible.sublist (List.eraseIdx_sublist _ _), fun a ha => h.scopeFree a (List.mem_of_mem_eraseIdx ha),
    fun a ha => h.keyFree a (List.mem_of_mem_eraseIdx ha)⟩

/-- The transaction `t` changes. -/
theorem Database.Sound.replace (h : db.Sound lockHash) (ht : t < db.transactions.length)
    (hcompatible : ∀ other ∈ db.transactions.eraseIdx t, Compatible lockHash b other)
    (hscope : b.phase = .checked ∨ b.phase = .inserted → ∀ row ∈ db.rows, row.nonceScope ≠ b.request.nonceScope)
    (hkey : b.phase = .inserted → ∀ row ∈ db.rows, row.key ≠ b.request.key) :
    Database.Sound lockHash { db with transactions := db.transactions.set t b } := by
  refine ⟨?_, fun a ha => ?_, fun a ha => ?_⟩
  · rw [(List.set_perm_cons_eraseIdx ht b).pairwise_iff Compatible.symm, List.pairwise_cons]
    exact ⟨hcompatible, h.compatible.sublist (List.eraseIdx_sublist _ _)⟩
  · rcases List.mem_or_eq_of_mem_set ha with hold | rfl
    · exact h.scopeFree a hold
    · exact hscope
  · rcases List.mem_or_eq_of_mem_set ha with hold | rfl
    · exact h.keyFree a hold
    · exact hkey

/-- A committed row does not take the nonce or the key of a transaction that
counts on it. -/
theorem Database.Sound.commit (h : db.Sound lockHash) (ht : db.transactions[t]? = some a) (ha : a.phase = .inserted) :
    Database.Sound lockHash { db.close t with rows := db.rows ++ [a.request] } := by
  have hothers := h.others ht
  have hclosed := h.close t
  have hlock : ∀ b : Transaction, b.phase = .checked ∨ b.phase = .inserted → b.holdsLock = true := by
    intro b hb
    simp only [Transaction.holdsLock, decide_eq_true_eq]
    exact .inr hb
  refine ⟨hclosed.compatible, fun b hb hphase row hrow => ?_, fun b hb hphase row hrow => ?_⟩
  · rcases List.mem_append.mp hrow with hold | hnew
    · exact hclosed.scopeFree b hb hphase row hold
    · rw [List.mem_singleton.mp hnew]
      exact fun heq => (hothers b hb).1 (hlock a (.inr ha)) (hlock b hphase) (congrArg lockHash heq)
  · rcases List.mem_append.mp hrow with hold | hnew
    · exact hclosed.keyFree b hb hphase row hold
    · rw [List.mem_singleton.mp hnew]
      exact (hothers b hb).2 ha hphase

/-- What an event of the database keeps and does. -/
structure DatabaseStep (lockHash : NonceScope → ℕ) (db db' : Database) (settled : Option Settlement) : Prop where
  sound : db'.Sound lockHash
  rows : ∀ row ∈ db.rows, row ∈ db'.rows
  opened : ∀ a ∈ db'.transactions, ∀ c, a.call = some c → ∃ b ∈ db.transactions, b.call = some c ∧ b.request = a.request
  accepted : ∀ c, settled = some (c, .ok ()) → ∃ b ∈ db.transactions, b.call = some c ∧ b.request ∈ db'.rows ∧
    ∀ row ∈ db.rows, ¬row.Clashes b.request

theorem DatabaseStep.refl (h : db.Sound lockHash) : DatabaseStep lockHash db db none :=
  ⟨h, fun _ hrow => hrow, fun a ha c hc => ⟨a, ha, hc, rfl⟩, fun _ hc => by simp at hc⟩

theorem DatabaseStep.close (h : db.Sound lockHash) (a : Transaction) (e : RepositoryError) :
    DatabaseStep lockHash db (db.close t) (a.settle (.error e)) :=
  ⟨h.close t, fun _ hrow => hrow, fun a ha c hc => ⟨a, List.mem_of_mem_eraseIdx ha, hc, rfl⟩,
    fun _ hc => by simp [Transaction.settle] at hc⟩

/-- A transaction moves to a phase in which it counts on no more than it knows. -/
theorem DatabaseStep.moveTo {phase : TransactionPhase} (h : db.Sound lockHash) (ht : db.transactions[t]? = some a)
    (hcompatible : ∀ other ∈ db.transactions.eraseIdx t, Compatible lockHash { a with phase } other)
    (hscope : phase = .checked ∨ phase = .inserted → ∀ row ∈ db.rows, row.nonceScope ≠ a.request.nonceScope)
    (hkey : phase = .inserted → ∀ row ∈ db.rows, row.key ≠ a.request.key) :
    DatabaseStep lockHash db (db.moveTo t a phase) none := by
  obtain ⟨hlt, -⟩ := List.getElem?_eq_some_iff.mp ht
  refine ⟨h.replace hlt hcompatible hscope hkey, fun _ hrow => hrow, fun b hb c hc => ?_, fun _ hc => by simp at hc⟩
  rcases List.mem_or_eq_of_mem_set hb with hold | rfl
  · exact ⟨b, hold, hc, rfl⟩
  · exact ⟨a, List.mem_of_getElem? ht, hc, rfl⟩

theorem Database.Sound.advance (h : db.Sound lockHash) (t : ℕ) :
    DatabaseStep lockHash db (db.advance lockHash t).1 (db.advance lockHash t).2 := by
  unfold Database.advance
  rcases ht : db.transactions[t]? with _ | a
  · exact .refl h
  have hothers := h.others ht
  have hmem := List.mem_of_getElem? ht
  rcases hphase : a.phase with _ | _ | _ | _ | _
  · -- BEGIN
    simp only [hphase]
    exact .moveTo h ht (fun b hb => ⟨by simp [Transaction.holdsLock], by simp⟩) (by simp) (by simp)
  · -- the advisory lock
    simp only [hphase]
    split_ifs with htaken
    · exact .refl h
    · refine .moveTo h ht (fun b hb => ⟨fun _ hlock heq => htaken ?_, by simp⟩) (by simp) (by simp)
      exact List.any_eq_true.mpr ⟨b, hb, by simp [hlock, heq.symm]⟩
  · -- SELECT: the lock is held already
    simp only [hphase]
    split_ifs with hclash
    · exact .close h a .replay
    · refine .moveTo h ht (fun b hb => ⟨fun _ => (hothers b hb).1 (by simp [Transaction.holdsLock, hphase]), by simp⟩)
        (fun _ row hrow heq => hclash ?_) (by simp)
      exact List.any_eq_true.mpr ⟨row, hrow, by simp [ConsumeRequest.Clashes, heq]⟩
  · -- INSERT
    simp only [hphase]
    split_ifs with hpending hkey
    · exact .refl h
    · exact .close h a .replay
    · refine .moveTo h ht (fun b hb => ⟨fun _ => (hothers b hb).1 (by simp [Transaction.holdsLock, hphase]),
        fun _ hb' heq => hpending ?_⟩) (fun _ => h.scopeFree a hmem (.inl hphase)) (fun _ row hrow heq => hkey ?_)
      · exact List.any_eq_true.mpr ⟨b, hb, by simp [hb', heq.symm]⟩
      · exact List.any_eq_true.mpr ⟨row, hrow, by simp [heq]⟩
  · -- COMMIT
    simp only [hphase]
    refine ⟨h.commit ht hphase, fun row hrow => List.mem_append_left _ hrow,
      fun b hb c hc => ⟨b, List.mem_of_mem_eraseIdx hb, hc, rfl⟩, fun c hc => ⟨a, hmem, ?_, by simp, ?_⟩⟩
    · simpa [Transaction.settle] using hc
    · intro row hrow hclash
      rcases hclash with hkey | hscope
      · exact h.keyFree a hmem hphase row hrow hkey
      · exact h.scopeFree a hmem (.inr hphase) row hrow hscope

theorem Database.Sound.fail (h : db.Sound lockHash) (t : ℕ) :
    DatabaseStep lockHash db (db.fail t).1 (db.fail t).2 := by
  unfold Database.fail
  split
  · exact .refl h
  · exact .close h _ _

theorem Database.Sound.disconnect (h : db.Sound lockHash) (t : ℕ) :
    DatabaseStep lockHash db (db.disconnect t).1 (db.disconnect t).2 := by
  unfold Database.disconnect
  split
  · exact .refl h
  next a ht =>
    obtain ⟨hlt, -⟩ := List.getElem?_eq_some_iff.mp ht
    have hmem := List.mem_of_getElem? ht
    refine ⟨h.replace hlt (fun b hb => h.others ht b hb) (h.scopeFree a hmem) (h.keyFree a hmem), fun _ hrow => hrow, fun b hb c hc => ?_,
      fun _ hc => by simp [Transaction.settle] at hc⟩
    rcases List.mem_or_eq_of_mem_set hb with hold | rfl
    · exact ⟨b, hold, hc, rfl⟩
    · simp at hc

end Database

/-! ### Repositories -/

namespace Repository

/-- The repository has a record of the request. -/
def Consumed : Repository → ConsumeRequest → Prop
  | .memory authorizations nonceScopes, request =>
    authorizations.has (authorizationKey request.record.authorizationId request.record.authorizationVersion) ∧
      request.nonceScope ∈ nonceScopes
  | .postgres _ db, request => request ∈ db.rows

/-- A transaction is open for the call. -/
def Open : Repository → ℕ → ConsumeRequest → Prop
  | .memory _ _, _, _ => False
  | .postgres _ db, c, request => ∃ a ∈ db.transactions, a.call = some c ∧ a.request = request

def Sound : Repository → Prop
  | .memory _ _ => True
  | .postgres lockHash db => db.Sound lockHash

end Repository

/-- The repository `R` has accepted `request` and become `R'`: it clashes with
nothing that was recorded, and is recorded. -/
def Accepts (R R' : Repository) (request : ConsumeRequest) : Prop :=
  R'.Consumed request ∧ ∀ r, R.Consumed r → ¬r.Clashes request

namespace Repository

variable {R : Repository} {c : ℕ} {request : ConsumeRequest}

theorem IsNew.sound (h : R.IsNew) : R.Sound := by
  cases h with
  | memory => trivial
  | postgres lockHash => exact ⟨List.Pairwise.nil, by simp, by simp⟩

theorem IsNew.not_open (h : R.IsNew) : ¬R.Open c request := by
  cases h with
  | memory => exact id
  | postgres lockHash => simp [Open]

/-- What `submit` keeps and does. -/
structure SubmitStep (R R' : Repository) (c : ℕ) (request : ConsumeRequest)
    (outcome : Option (Except RepositoryError Unit)) : Prop where
  sound : R'.Sound
  consumed : ∀ r, R.Consumed r → R'.Consumed r
  opened : ∀ d r, R'.Open d r → R.Open d r ∨ d = c ∧ r = request
  accepted : outcome = some (.ok ()) → Accepts R R' request

theorem Sound.submit (h : R.Sound) (c : ℕ) (request : ConsumeRequest) :
    SubmitStep R (R.submit c request).1 c request (R.submit c request).2 := by
  cases R with
  | memory authorizations nonceScopes =>
    simp only [Repository.submit]
    split_ifs with hused
    · exact ⟨trivial, fun _ hr => hr, fun _ _ hopen => hopen.elim, by simp⟩
    · have hfresh := not_or.mp hused
      refine ⟨trivial, fun r hr => ⟨?_, Finset.mem_insert_of_mem hr.2⟩, fun _ _ hopen => hopen.elim,
        fun _ => ⟨⟨by simp [JsMap.has], Finset.mem_insert_self _ _⟩, fun r hr hclash => ?_⟩⟩
      · have hget := hr.1
        simp only [JsMap.has, JsMap.get_set] at hget ⊢
        split_ifs
        · rfl
        · exact hget
      · rcases hclash with hkey | hscope
        · obtain ⟨hid, hversion⟩ := Prod.mk.inj hkey
          rw [← hid, ← hversion] at hfresh
          exact hfresh.1 hr.1
        · rw [← hscope] at hfresh
          exact hfresh.2 hr.2
  | postgres lockHash db =>
    have hdb : db.Sound lockHash := h
    refine ⟨⟨?_, fun a ha hphase => ?_, fun a ha hphase => ?_⟩, fun _ hr => hr, fun d r hopen => ?_, by simp [Repository.submit]⟩
    · refine List.pairwise_append.mpr ⟨hdb.compatible, List.pairwise_singleton _ _, fun a _ b hb => ?_⟩
      rw [List.mem_singleton.mp hb]
      exact ⟨by simp [Transaction.holdsLock], by simp⟩
    · rcases List.mem_append.mp ha with hold | hnew
      · exact hdb.scopeFree a hold hphase
      · rw [List.mem_singleton.mp hnew] at hphase
        simp at hphase
    · rcases List.mem_append.mp ha with hold | hnew
      · exact hdb.keyFree a hold hphase
      · rw [List.mem_singleton.mp hnew] at hphase
        simp at hphase
    · obtain ⟨a, ha, hcall, hrequest⟩ := hopen
      rcases List.mem_append.mp ha with hold | hnew
      · exact .inl ⟨a, hold, hcall, hrequest⟩
      · rw [List.mem_singleton.mp hnew] at hcall hrequest
        exact .inr ⟨(Option.some.inj hcall).symm, hrequest.symm⟩

/-- What the repository keeps and does when it goes on. -/
structure Step (R R' : Repository) (settled : Option Settlement) : Prop where
  sound : R'.Sound
  consumed : ∀ r, R.Consumed r → R'.Consumed r
  opened : ∀ d r, R'.Open d r → R.Open d r
  accepted : ∀ c, settled = some (c, .ok ()) → ∃ request, R.Open c request ∧ Accepts R R' request

theorem Step.ofDatabase {lockHash : NonceScope → ℕ} {db db' : Database} {settled : Option Settlement}
    (h : DatabaseStep lockHash db db' settled) : Step (.postgres lockHash db) (.postgres lockHash db') settled := by
  refine ⟨h.sound, h.rows, fun d r hopen => ?_, fun c hc => ?_⟩
  · obtain ⟨a, ha, hcall, hrequest⟩ := hopen
    obtain ⟨b, hb, hcall', hrequest'⟩ := h.opened a ha d hcall
    exact ⟨b, hb, hcall', hrequest'.trans hrequest⟩
  · obtain ⟨b, hb, hcall, hrow, hfree⟩ := h.accepted c hc
    exact ⟨b.request, ⟨b, hb, hcall, rfl⟩, hrow, hfree⟩

theorem Sound.step (h : R.Sound) (event : RepositoryEvent) : Step R (R.step event).1 (R.step event).2 := by
  cases R with
  | memory authorizations nonceScopes => exact ⟨trivial, fun _ hr => hr, fun _ _ hopen => hopen, fun c hc => by cases hc⟩
  | postgres lockHash db =>
    have hdb : db.Sound lockHash := h
    cases event with
    | advance t => exact .ofDatabase (hdb.advance t)
    | fail t => exact .ofDatabase (hdb.fail t)
    | disconnect t => exact .ofDatabase (hdb.disconnect t)

end Repository

/-! ### Local nonces -/

section Nonces

variable {stores stores' : NonceStoreName → NonceStore} {p q : PendingNonceConsumption}

/-- The nonce is in its store. -/
def Held (stores : NonceStoreName → NonceStore) (p : PendingNonceConsumption) : Prop := p.scope ∈ stores p.store

theorem stores_ext (h : ∀ p, Held stores p ↔ Held stores' p) : stores = stores' := by
  funext name
  ext scope
  exact h ⟨name, scope⟩

theorem held_consume {store : NonceStore} (h : (stores p.store).consume p.scope = .ok store) :
    ¬Held stores p ∧ ∀ q, Held (update stores p.store store) q ↔ q = p ∨ Held stores q := by
  unfold NonceStore.consume at h
  split_ifs at h with hmem
  refine ⟨hmem, fun q => ?_⟩
  obtain rfl := Except.ok.inj h
  rcases p with ⟨name, scope⟩
  rcases q with ⟨name', scope'⟩
  by_cases hname : name' = name
  · subst hname
    simp [Held]
  · simp [Held, hname]

theorem held_rollback (q : PendingNonceConsumption) :
    Held (update stores p.store ((stores p.store).rollback p.scope)) q ↔ Held stores q ∧ q ≠ p := by
  rcases p with ⟨name, scope⟩
  rcases q with ⟨name', scope'⟩
  by_cases hname : name' = name
  · subst hname
    simp [Held, NonceStore.rollback, and_comm]
  · simp [Held, hname]

theorem held_rollbackLocalNonces (q : PendingNonceConsumption) : ∀ (consumed : List PendingNonceConsumption)
    (stores : NonceStoreName → NonceStore),
    Held (rollbackLocalNonces stores consumed) q ↔ Held stores q ∧ q ∉ consumed
  | [], stores => by simp [rollbackLocalNonces]
  | p :: consumed, stores => by
    have ih := held_rollbackLocalNonces q consumed (update stores p.store ((stores p.store).rollback p.scope))
    rw [rollbackLocalNonces, List.foldl_cons, ← rollbackLocalNonces, ih, held_rollback, List.mem_cons, not_or, and_assoc]

/-- The loop takes nonces from the front, all of them unless one is used. -/
theorem consumeLocalNonces_spec : ∀ (pending consumed : List PendingNonceConsumption)
    (stores : NonceStoreName → NonceStore), ∃ taken,
    (consumeLocalNonces stores consumed pending).2.1 = consumed ++ taken ∧
    ((consumeLocalNonces stores consumed pending).2.2 = true → taken = pending) ∧
    (∀ q, Held (consumeLocalNonces stores consumed pending).1 q ↔ q ∈ taken ∨ Held stores q) ∧
    ∀ q ∈ taken, ¬Held stores q
  | [], consumed, stores => ⟨[], by simp [consumeLocalNonces]⟩
  | p :: pending, consumed, stores => by
    rw [consumeLocalNonces]
    rcases hp : (stores p.store).consume p.scope with e | store
    · exact ⟨[], by simp⟩
    · obtain ⟨hnot, hheld⟩ := held_consume hp
      obtain ⟨taken, htaken, hall, hheld', hfree⟩ :=
        consumeLocalNonces_spec pending (consumed ++ [p]) (update stores p.store store)
      refine ⟨p :: taken, by simp [htaken], fun h => by rw [hall h], fun q => ?_, fun q hq => ?_⟩
      · rw [hheld', hheld, List.mem_cons]
        tauto
      · rcases List.mem_cons.mp hq with rfl | hq
        · exact hnot
        · exact fun hheldq => hfree q hq ((hheld q).mpr (.inr hheldq))

/-- Taking back what was consumed restores the stores. -/
theorem rollback_consumeLocalNonces (stores : NonceStoreName → NonceStore) (pending : List PendingNonceConsumption) :
    rollbackLocalNonces (consumeLocalNonces stores [] pending).1 (consumeLocalNonces stores [] pending).2.1 = stores := by
  obtain ⟨taken, htaken, -, hheld, hfree⟩ := consumeLocalNonces_spec pending [] stores
  refine stores_ext fun q => ?_
  rw [held_rollbackLocalNonces, hheld, htaken, List.nil_append]
  constructor
  · rintro ⟨htake | hq, hnot⟩
    · exact absurd htake hnot
    · exact hq
  · exact fun hq => ⟨.inr hq, fun htake => hfree q htake hq⟩

end Nonces

/-! ### What a call uses -/

namespace Operation

/-- The nonces that a call consumes in the stores of its service. -/
def localNonces : Operation → List PendingNonceConsumption
  | .finalize input _ => finalizeNonces input
  | .rotate input _ =>
    [⟨.keyMaterialAcknowledgement, nonceScope keyMaterialAcknowledgementProfile input.keyMaterialAcknowledgement.proof.message⟩]
  | .grant input _ =>
    [⟨.keyMaterialAcknowledgement, nonceScope keyMaterialAcknowledgementProfile input.keyMaterialAcknowledgement.proof.message⟩]
  | .prepare _ _ _ | .retrieve _ _ | .promote _ _ => []

/-- The key-operation authorization that a call consumes in the repository. -/
def authorization : Operation → Option SignedKeyOperationAuthorization
  | .finalize input _ => some input.keyOperationAuthorization
  | .rotate input _ => some input.keyOperationAuthorization
  | .grant input _ => some input.keyOperationAuthorization
  | .retrieve input _ => some input.keyOperationAuthorization
  | .prepare _ _ _ | .promote _ _ => none

def keyOperationScope (operation : Operation) : Option NonceScope :=
  operation.authorization.map fun authorization =>
    nonceScope keyOperationAuthorizationProfile authorization.proof.message

/-- The authorization id and version. -/
def authorizationVersion (operation : Operation) : Option (String × ℕ) :=
  operation.authorization.map fun authorization =>
    (authorization.claims.authorizationId, authorization.claims.authorizationVersion)

end Operation

/-- The request is for the operation's authorization and its nonce. -/
def Requests (operation : Operation) (request : Option ConsumeRequest) : Prop :=
  request.map ConsumeRequest.nonceScope = operation.keyOperationScope ∧
    request.map ConsumeRequest.key = operation.authorizationVersion

section Checks

variable {F : Externals} {config : Config} {service : BundleService} {request : ConsumeRequest}

theorem prepareKeyOperationAuthorization_ok {target : KeyOperationTarget}
    {authorization : SignedKeyOperationAuthorization} {time : ℕ}
    (h : prepareKeyOperationAuthorization F config service target authorization time = .ok request) :
    request.nonceScope = nonceScope keyOperationAuthorizationProfile authorization.proof.message ∧
      request.key = (authorization.claims.authorizationId, authorization.claims.authorizationVersion) := by
  obtain ⟨-, binding, -, -, verified, -, -, rfl⟩ := prepareKeyOperationAuthorization_eq_ok.mp h
  exact ⟨rfl, rfl⟩

theorem verifyKeyMaterialAcknowledgement_ok {acknowledged : AcknowledgedTarget}
    {acknowledgement : SignedKeyMaterialAcknowledgement} {publicKey : PublicKey} {time : ℕ} {scope : NonceScope}
    (h : verifyKeyMaterialAcknowledgement F config service acknowledged acknowledgement publicKey time = .ok scope) :
    scope = nonceScope keyMaterialAcknowledgementProfile acknowledgement.proof.message := by
  simp only [verifyKeyMaterialAcknowledgement, bind_eq_ok, pure_eq_ok] at h
  obtain ⟨-, -, ⟨credential, address⟩, -, binding, -, -, -, -, -, -, -, rfl⟩ := h
  rfl

theorem checkFinalize_requests {input : FinalizeInput} {ref : Ref}
    (h : checkFinalize F config service input = .ok (ref, request)) : Requests (.finalize input ref) (some request) := by
  simp only [checkFinalize, bind_eq_ok, pure_eq_ok, Prod.mk.injEq] at h
  obtain ⟨-, -, -, -, -, -, request', hrequest, -, rfl⟩ := h
  obtain ⟨hscope, hkey⟩ := prepareKeyOperationAuthorization_ok hrequest
  exact ⟨congrArg some hscope, congrArg some hkey⟩

theorem checkRotate_requests {input : RotateInput} {ref : Ref} {scope : NonceScope}
    (h : checkRotate F config service input = .ok (ref, scope, request)) :
    Requests (.rotate input ref) (some request) ∧
      [⟨.keyMaterialAcknowledgement, scope⟩] = Operation.localNonces (.rotate input ref) := by
  simp only [checkRotate, bind_eq_ok, pure_eq_ok, Prod.mk.injEq] at h
  obtain ⟨_, _, -, -, scope', hscope', request', hrequest, -, rfl, rfl⟩ := h
  obtain ⟨hscope, hkey⟩ := prepareKeyOperationAuthorization_ok hrequest
  rw [verifyKeyMaterialAcknowledgement_ok hscope']
  exact ⟨⟨congrArg some hscope, congrArg some hkey⟩, rfl⟩

theorem checkGrant_requests {input : GrantInput} {ref : Ref} {scope : NonceScope}
    (h : checkGrant F config service input = .ok (ref, scope, request)) :
    Requests (.grant input ref) (some request) ∧
      [⟨.keyMaterialAcknowledgement, scope⟩] = Operation.localNonces (.grant input ref) := by
  simp only [checkGrant, bind_eq_ok, pure_eq_ok, Prod.mk.injEq] at h
  obtain ⟨_, _, -, -, scope', hscope', request', hrequest, -, rfl, rfl⟩ := h
  obtain ⟨hscope, hkey⟩ := prepareKeyOperationAuthorization_ok hrequest
  rw [verifyKeyMaterialAcknowledgement_ok hscope']
  exact ⟨⟨congrArg some hscope, congrArg some hkey⟩, rfl⟩

theorem checkRetrieve_requests {input : RetrieveInput} {ref : Ref}
    (h : checkRetrieve F config service input = .ok (ref, request)) : Requests (.retrieve input ref) (some request) := by
  simp only [checkRetrieve, bind_eq_ok, pure_eq_ok, Prod.mk.injEq] at h
  obtain ⟨-, -, -, -, -, -, request', hrequest, -, rfl⟩ := h
  obtain ⟨hscope, hkey⟩ := prepareKeyOperationAuthorization_ok hrequest
  exact ⟨congrArg some hscope, congrArg some hkey⟩

end Checks

/-! ### The invariant -/

/-- The call has passed `consumeValidatedProofs` and not failed since. -/
def Call.Passed (a : Call) : Prop := a.phase ≠ .failed ∧ a.phase ≠ .consuming ∧ a.phase ≠ .rejected

/-- Two calls hold no nonce in common, and have not both passed with requests
that clash. -/
def Apart (a b : Call) : Prop :=
  (a.service = b.service → ∀ p ∈ a.nonces, p ∉ b.nonces) ∧
    (a.Passed → b.Passed → ∀ r ∈ a.request, ∀ r' ∈ b.request, ¬r.Clashes r')

theorem Apart.symm {a b : Call} (h : Apart a b) : Apart b a := by
  refine ⟨fun hs p hp hp' => h.1 hs.symm p hp' hp, fun hb ha r hr r' hr' hclash => h.2 ha hb r' hr' r hr ?_⟩
  exact hclash.imp Eq.symm Eq.symm

/-- A call holds all its nonces until it fails, and uses what it was given. -/
structure Call.WellFormed (a : Call) : Prop where
  requests : Requests a.operation a.request
  nonces : a.phase ≠ .failed → a.nonces = a.operation.localNonces

structure OneUse (S : System) : Prop where
  sound : S.repository.Sound
  wellFormed : ∀ a ∈ S.calls, a.WellFormed
  held : ∀ a ∈ S.calls, ∀ p ∈ a.nonces, Held (S.services a.service).nonces p
  consumed : ∀ a ∈ S.calls, a.Passed → ∀ r ∈ a.request, S.repository.Consumed r
  opened : ∀ c r, S.repository.Open c r → ∃ a, S.calls[c]? = some a ∧ a.request = some r
  apart : S.calls.Pairwise Apart

section Invariant

variable {S : System} {a b : Call} {c : ℕ}

theorem oneUse_newSystem {repository : Repository} (h : repository.IsNew) : OneUse (newSystem repository) :=
  ⟨h.sound, by simp [newSystem], by simp [newSystem], by simp [newSystem], fun c r hopen => absurd hopen h.not_open,
    List.Pairwise.nil⟩

/-- Services change without their nonces. -/
theorem OneUse.setServices {services : ℕ → BundleService} (h : OneUse S)
    (hsame : ∀ i, (services i).nonces = (S.services i).nonces) : OneUse { S with services } :=
  ⟨h.sound, h.wellFormed, fun a ha p hp => by rw [hsame]; exact h.held a ha p hp, h.consumed, h.opened, h.apart⟩

theorem OneUse.setService {i : ℕ} {service : BundleService} (h : OneUse S)
    (hsame : service.nonces = (S.services i).nonces) : OneUse (S.setService i service) := by
  refine h.setServices fun j => ?_
  by_cases hj : j = i
  · subst hj
    simpa using hsame
  · simp [hj]

theorem OneUse.others (h : OneUse S) (hc : S.calls[c]? = some a) : ∀ b ∈ S.calls.eraseIdx c, Apart a b := by
  obtain ⟨hlt, rfl⟩ := List.getElem?_eq_some_iff.mp hc
  have hpairs := ((List.getElem_cons_eraseIdx_perm hlt).pairwise_iff Apart.symm).mpr h.apart
  exact (List.pairwise_cons.mp hpairs).1

/-- A call changes that keeps its identity and gains no nonce; if it passes, its
request is recorded and clashes with that of no other call that passed. -/
theorem OneUse.setCall (h : OneUse S) (hc : S.calls[c]? = some a) (hservice : b.service = a.service)
    (hrequest : b.request = a.request) (hnonces : ∀ p ∈ b.nonces, p ∈ a.nonces) (hwf : b.WellFormed)
    (hpassed : b.Passed → ¬a.Passed → ∀ r ∈ a.request, S.repository.Consumed r ∧
      ∀ other ∈ S.calls.eraseIdx c, other.Passed → ∀ r' ∈ other.request, ¬r.Clashes r') :
    OneUse { S with calls := S.calls.set c b } := by
  have hlt : c < S.calls.length := (List.getElem?_eq_some_iff.mp hc).1
  have hmem := List.mem_of_getElem? hc
  have hothers := h.others hc
  refine ⟨h.sound, fun x hx => ?_, fun x hx p hp => ?_, fun x hx hx' r hr => ?_, fun d r hopen => ?_, ?_⟩
  · rcases List.mem_or_eq_of_mem_set hx with hold | rfl
    · exact h.wellFormed x hold
    · exact hwf
  · rcases List.mem_or_eq_of_mem_set hx with hold | rfl
    · exact h.held x hold p hp
    · rw [hservice]
      exact h.held a hmem p (hnonces p hp)
  · rcases List.mem_or_eq_of_mem_set hx with hold | rfl
    · exact h.consumed x hold hx' r hr
    · rw [hrequest] at hr
      by_cases ha : a.Passed
      · exact h.consumed a hmem ha r hr
      · exact (hpassed hx' ha r hr).1
  · obtain ⟨x, hx, hxr⟩ := h.opened d r hopen
    by_cases hcd : c = d
    · subst hcd
      obtain rfl : a = x := Option.some.inj (hc.symm.trans hx)
      exact ⟨b, by simp [hlt], hrequest.trans hxr⟩
    · exact ⟨x, by rw [List.getElem?_set_ne hcd, hx], hxr⟩
  · rw [(List.set_perm_cons_eraseIdx hlt b).pairwise_iff Apart.symm, List.pairwise_cons]
    refine ⟨fun other hother => ⟨fun hs p hp => ?_, fun hb ho r hr r' hr' => ?_⟩,
      h.apart.sublist (List.eraseIdx_sublist _ _)⟩
    · exact (hothers other hother).1 (hservice.symm.trans hs) p (hnonces p hp)
    · rw [hrequest] at hr
      by_cases ha : a.Passed
      · exact (hothers other hother).2 ha ho r hr r' hr'
      · exact (hpassed hb ha r hr).2 other hother ho r' hr'

/-- A call is added that holds nonces no other call holds. -/
theorem OneUse.addCall (h : OneUse S) (hwf : a.WellFormed) (hheld : ∀ p ∈ a.nonces, Held (S.services a.service).nonces p)
    (hconsumed : a.Passed → ∀ r ∈ a.request, S.repository.Consumed r) (hapart : ∀ b ∈ S.calls, Apart b a) :
    OneUse (S.addCall a) := by
  have hsplit : ∀ x ∈ S.calls ++ [a], x ∈ S.calls ∨ x = a := by simp
  refine ⟨h.sound, fun x hx => ?_, fun x hx p hp => ?_, fun x hx hx' r hr => ?_, fun d r hopen => ?_, ?_⟩
  · rcases hsplit x hx with hold | rfl
    · exact h.wellFormed x hold
    · exact hwf
  · rcases hsplit x hx with hold | rfl
    · exact h.held x hold p hp
    · exact hheld p hp
  · rcases hsplit x hx with hold | rfl
    · exact h.consumed x hold hx' r hr
    · exact hconsumed hx' r hr
  · obtain ⟨x, hx, hxr⟩ := h.opened d r hopen
    have hd : d < S.calls.length := (List.getElem?_eq_some_iff.mp hx).1
    exact ⟨x, by rw [System.addCall, List.getElem?_append_left hd, hx], hxr⟩
  · exact List.pairwise_append.mpr ⟨h.apart, List.pairwise_singleton _ _,
      fun b hb x hx => by rw [List.mem_singleton.mp hx]; exact hapart b hb⟩

end Invariant

/-! ### Steps -/

section Steps

variable {S : System} {i : ℕ} {operation : Operation} {pending : List PendingNonceConsumption} {request : ConsumeRequest}

/-- `consumeValidatedProofs` refuses and leaves every store as it was, or the
call takes its nonces, none of which was used. -/
def Consuming (S S' : System) (i : ℕ) (pending : List PendingNonceConsumption) (request : ConsumeRequest) (a : Call) :
    Prop :=
  (a.phase = .failed ∧ a.nonces = [] ∧ ∀ j, (S'.services j).nonces = (S.services j).nonces) ∨
    (a.nonces = pending ∧ (∀ p ∈ pending, ¬Held (S.services i).nonces p) ∧
      (∀ j, j ≠ i → S'.services j = S.services j) ∧
      (∀ q, Held (S'.services i).nonces q ↔ q ∈ pending ∨ Held (S.services i).nonces q) ∧
      (a.phase = .consuming ∨ a.phase = .working ∧ Accepts S.repository S'.repository request))

/-- The stores of the other services stay, and those of `i` are given. -/
theorem setNonces_nonces (S : System) (i j : ℕ) {stores : NonceStoreName → NonceStore}
    (h : stores = (S.services i).nonces) :
    ((S.setService i ((S.services i).setNonces stores)).services j).nonces = (S.services j).nonces := by
  by_cases hj : j = i
  · subst hj
    simp [System.setService, BundleService.setNonces, h]
  · simp [System.setService, hj]

/-- What `consumeValidatedProofs` does up to its `await`, for the new call `a`. -/
structure ProofsConsumed (S S' : System) (i : ℕ) (op : Operation) (pending : List PendingNonceConsumption)
    (r : ConsumeRequest) (a : Call) : Prop where
  calls : S'.calls = S.calls ++ [a]
  service : a.service = i
  operation : a.operation = op
  request : a.request = some r
  sound : S'.repository.Sound
  consumed : ∀ r', S.repository.Consumed r' → S'.repository.Consumed r'
  opened : ∀ d r', S'.repository.Open d r' → S.repository.Open d r' ∨ d = S.calls.length ∧ r' = r
  consuming : Consuming S S' i pending r a

theorem consumeValidatedProofs_cases (h : S.repository.Sound) (i : ℕ) (operation : Operation)
    (pending : List PendingNonceConsumption) (request : ConsumeRequest) :
    ∃ a, ProofsConsumed S (consumeValidatedProofs S i operation pending request) i operation pending request a := by
  have hrollback := rollback_consumeLocalNonces (S.services i).nonces pending
  obtain ⟨taken, htaken, hall, hheld, hfree⟩ := consumeLocalNonces_spec pending [] (S.services i).nonces
  have hsubmit := h.submit S.calls.length request
  generalize hS' : consumeValidatedProofs S i operation pending request = S'
  unfold consumeValidatedProofs at hS'
  rcases hloop : consumeLocalNonces (S.services i).nonces [] pending with ⟨stores, consumed, ok⟩
  rw [hloop] at hrollback htaken hall hheld
  rcases ok with _ | _
  · simp only [hloop] at hS'
    subst hS'
    exact ⟨_, rfl, rfl, rfl, rfl, h, fun _ hr => hr, fun _ _ ho => .inl ho,
      .inl ⟨rfl, rfl, fun j => setNonces_nonces S i j hrollback⟩⟩
  · obtain rfl : taken = pending := hall rfl
    obtain rfl : consumed = taken := by simpa using htaken
    rcases hout : S.repository.submit S.calls.length request with ⟨repository, outcome⟩
    rw [hout] at hsubmit
    have hstores : ∀ q, Held ((S.setService i ((S.services i).setNonces stores)).services i).nonces q ↔
        q ∈ consumed ∨ Held (S.services i).nonces q := by
      simpa [System.setService, BundleService.setNonces] using hheld
    have hframe : ∀ j, j ≠ i → (S.setService i ((S.services i).setNonces stores)).services j = S.services j := by
      intro j hj
      simp [System.setService, hj]
    rcases outcome with _ | (e | u)
    · simp only [hloop, hout] at hS'
      subst hS'
      exact ⟨_, rfl, rfl, rfl, rfl, hsubmit.sound, hsubmit.consumed, hsubmit.opened,
        .inr ⟨rfl, hfree, hframe, hstores, .inl rfl⟩⟩
    · simp only [hloop, hout] at hS'
      subst hS'
      exact ⟨_, rfl, rfl, rfl, rfl, hsubmit.sound, hsubmit.consumed, hsubmit.opened,
        .inl ⟨rfl, rfl, fun j => setNonces_nonces S i j hrollback⟩⟩
    · simp only [hloop, hout] at hS'
      subst hS'
      exact ⟨_, rfl, rfl, rfl, rfl, hsubmit.sound, hsubmit.consumed, hsubmit.opened,
        .inr ⟨rfl, hfree, hframe, hstores, .inr ⟨rfl, hsubmit.accepted rfl⟩⟩⟩

/-- What the repository records and opens may grow before the new call is added. -/
theorem OneUse.consumeValidatedProofs (h : OneUse S) (i : ℕ) (hrequests : Requests operation (some request))
    (hnonces : pending = operation.localNonces) :
    OneUse (consumeValidatedProofs S i operation pending request) := by
  obtain ⟨a, hstep⟩ := consumeValidatedProofs_cases h.sound i operation pending request
  generalize Evidence.consumeValidatedProofs S i operation pending request = S' at hstep
  have hheldOld : ∀ b ∈ S.calls, ∀ p ∈ b.nonces, Held (S'.services b.service).nonces p := by
    intro b hb p hp
    have hold := h.held b hb p hp
    rcases hstep.consuming with ⟨-, -, hsame⟩ | ⟨-, -, hframe, hheld, -⟩
    · rwa [hsame]
    · by_cases hbi : b.service = i
      · rw [hbi] at hold ⊢
        exact (hheld p).mpr (.inr hold)
      · rwa [hframe _ hbi]
  have hpassed : a.Passed → Accepts S.repository S'.repository request := by
    intro ha
    rcases hstep.consuming with ⟨hfailed, -⟩ | ⟨-, -, -, -, hwaits | ⟨-, haccepts⟩⟩
    · exact absurd hfailed ha.1
    · exact absurd hwaits ha.2.1
    · exact haccepts
  have hsplit : ∀ x ∈ S'.calls, x ∈ S.calls ∨ x = a := by
    rw [hstep.calls]
    simp
  refine ⟨hstep.sound, fun x hx => ?_, fun x hx p hp => ?_, fun x hx hx' r hr => ?_, fun d r hopen => ?_, ?_⟩
  · rcases hsplit x hx with hold | rfl
    · exact h.wellFormed x hold
    · refine ⟨by rw [hstep.operation, hstep.request]; exact hrequests, fun hlive => ?_⟩
      rcases hstep.consuming with ⟨hfailed, -⟩ | ⟨htaken, -⟩
      · exact absurd hfailed hlive
      · rw [htaken, hnonces, hstep.operation]
  · rcases hsplit x hx with hold | rfl
    · exact hheldOld x hold p hp
    · rcases hstep.consuming with ⟨-, hnil, -⟩ | ⟨htaken, -, -, hheld, -⟩
      · simp [hnil] at hp
      · rw [hstep.service]
        exact (hheld p).mpr (.inl (htaken ▸ hp))
  · rcases hsplit x hx with hold | rfl
    · exact hstep.consumed r (h.consumed x hold hx' r hr)
    · obtain rfl : request = r := by simpa [hstep.request] using hr
      exact (hpassed hx').1
  · rw [hstep.calls]
    rcases hstep.opened d r hopen with hold | ⟨rfl, rfl⟩
    · obtain ⟨x, hx, hxr⟩ := h.opened d r hold
      exact ⟨x, by rw [List.getElem?_append_left (List.getElem?_eq_some_iff.mp hx).1, hx], hxr⟩
    · exact ⟨a, by simp, hstep.request⟩
  · rw [hstep.calls]
    refine List.pairwise_append.mpr ⟨h.apart, List.pairwise_singleton _ _, fun b hb x hx => ?_⟩
    rw [List.mem_singleton.mp hx]
    refine ⟨fun hs p hp hpa => ?_, fun hb' ha r hr r' hr' => ?_⟩
    · -- the nonces of the new call were not used, those of the old are
      rcases hstep.consuming with ⟨-, hnil, -⟩ | ⟨htaken, hfree, -⟩
      · simp [hnil] at hpa
      · have hheld := h.held b hb p hp
        rw [hs.trans hstep.service] at hheld
        exact hfree p (htaken ▸ hpa) hheld
    · obtain rfl : request = r' := by simpa [hstep.request] using hr'
      exact (hpassed ha).2 r (h.consumed b hb hb' r hr)

theorem OneUse.startChecked {α : Type} {checked : Except ServiceError α} {operation : α → Operation}
    {localNonces : α → List PendingNonceConsumption} {request : α → ConsumeRequest} (h : OneUse S) (i : ℕ)
    (hok : ∀ x, checked = .ok x → Requests (operation x) (some (request x)) ∧ localNonces x = (operation x).localNonces) :
    OneUse (startChecked S i checked operation localNonces request) := by
  rcases checked with e | x
  · exact h
  · obtain ⟨hrequests, hnonces⟩ := hok x rfl
    exact h.consumeValidatedProofs i hrequests hnonces

end Steps

/-! ### Every step keeps the invariant -/

section Step

variable {F : Externals} {configs : ℕ → Config} {S : System} {c : ℕ} {a : Call}

/-- A call without proofs is added. -/
theorem OneUse.addProofless (h : OneUse S) (i : ℕ) {operation : Operation} (hlocal : operation.localNonces = [])
    (hnone : operation.authorization = none) (phase : Phase) : OneUse (S.addCall ⟨i, operation, [], none, phase⟩) := by
  refine h.addCall ⟨⟨?_, ?_⟩, fun _ => hlocal.symm⟩ (by simp) (by simp) fun b _ => ⟨by simp, by simp⟩
  · simp [Operation.keyOperationScope, hnone]
  · simp [Operation.authorizationVersion, hnone]

theorem OneUse.startPrepare (h : OneUse S) (i : ℕ) (input : PrepareEvidenceInput) :
    OneUse (startPrepare F S i input) := by
  unfold Evidence.startPrepare
  dsimp only
  split_ifs
  · exact h.addProofless i rfl rfl _
  · split
    · exact h.addProofless i rfl rfl _
    · exact h.addProofless i rfl rfl _

theorem OneUse.startPromote (h : OneUse S) (i : ℕ) (bundleId replicaObjectId : String) :
    OneUse (startPromote S i bundleId replicaObjectId) := by
  unfold Evidence.startPromote
  split
  · exact h
  · split_ifs
    · exact h
    · exact (h.setService (by rfl)).addProofless i rfl rfl _

/-- A promise that the repository fulfils lets its call pass: what it accepted
clashes with the request of no call that passed before. -/
theorem OneUse.stepRepository (h : OneUse S) (event : RepositoryEvent) : OneUse (stepRepository S event) := by
  have hstep := h.sound.step event
  unfold Evidence.stepRepository
  generalize S.repository.step event = out at hstep ⊢
  rcases out with ⟨R, settled⟩
  dsimp only at hstep ⊢
  have hmoved : OneUse { S with repository := R } :=
    ⟨hstep.sound, h.wellFormed, h.held, fun a ha hpassed r hr => hstep.consumed r (h.consumed a ha hpassed r hr),
      fun d r hopen => h.opened d r (hstep.opened d r hopen), h.apart⟩
  obtain hsame | ⟨c, a, result, rfl, hc, hwaits, hset⟩ := settleCall_cases { S with repository := R } settled
  · rw [hsame]
    exact hmoved
  · rw [hset]
    have hwf := h.wellFormed a (List.mem_of_getElem? hc)
    refine hmoved.setCall hc rfl rfl (fun p hp => hp) ⟨hwf.requests, fun _ => hwf.nonces (by simp [hwaits])⟩ ?_
    intro hpassed _ r hr
    rcases result with e | u
    · exact absurd rfl hpassed.2.2
    obtain ⟨r', hopen, hrecorded, hfree⟩ := hstep.accepted c rfl
    obtain ⟨x, hx, hxr⟩ := h.opened c r' hopen
    obtain rfl : a = x := Option.some.inj (hc.symm.trans hx)
    obtain rfl : r = r' := Option.some.inj (hr.symm.trans hxr)
    refine ⟨hrecorded, fun other hother hpassed' r' hr' hclash => ?_⟩
    have hold := h.consumed other (List.mem_of_mem_eraseIdx hother) hpassed' r' hr'
    exact hfree r' hold (hclash.imp Eq.symm Eq.symm)

/-- A refused call takes its nonces back; no other call held one of them. -/
theorem OneUse.rollbackProofs (h : OneUse S) (hc : S.calls[c]? = some a) : OneUse (rollbackProofs S c a) := by
  have hlt : c < S.calls.length := (List.getElem?_eq_some_iff.mp hc).1
  have hothers := h.others hc
  have hdropped : OneUse { S with calls := S.calls.set c { a with nonces := [], phase := .failed } } :=
    h.setCall hc rfl rfl (by simp) ⟨(h.wellFormed a (List.mem_of_getElem? hc)).requests, fun hlive => absurd rfl hlive⟩
      fun hpassed => absurd rfl hpassed.1
  refine ⟨hdropped.sound, hdropped.wellFormed, fun b hb p hp => ?_, hdropped.consumed, hdropped.opened, hdropped.apart⟩
  have hheld := hdropped.held b hb p hp
  rcases List.mem_cons.mp ((List.set_perm_cons_eraseIdx hlt _).mem_iff.mp hb) with rfl | hother
  · simp at hp
  · by_cases hs : b.service = a.service
    · simp only [Evidence.rollbackProofs, System.setService, hs, update_self, BundleService.setNonces]
      rw [held_rollbackLocalNonces]
      rw [hs] at hheld
      exact ⟨hheld, fun hpa => (hothers b hother).1 hs.symm p hpa hp⟩
    · simpa [Evidence.rollbackProofs, System.setService, hs] using hheld

theorem OneUse.resumeCall (h : OneUse S) (hc : S.calls[c]? = some a) (result : AwaitResult) :
    OneUse (resumeCall F configs S c a result) := by
  have hwf := h.wellFormed a (List.mem_of_getElem? hc)
  unfold Evidence.resumeCall
  split
  · exact h.rollbackProofs hc
  · exact h
  · exact h
  · exact h
  next hrejected hconsuming hreturned hfailed =>
    have hmoves : Moves F (configs a.service) (S.services a.service) a.phase result a.operation
        (continueCall F (configs a.service) (S.services a.service) a.phase result a.operation).1 := moves_call a.operation
    have hpassed : a.Passed := ⟨hfailed, hconsuming, hrejected⟩
    exact (h.setService hmoves.nonces).setCall hc rfl rfl (fun p hp => hp)
      ⟨hwf.requests, fun _ => hwf.nonces hfailed⟩ fun _ hnot => absurd hpassed hnot

theorem OneUse.step (h : OneUse S) (event : Event) : OneUse (step F configs S event) := by
  cases event with
  | prepare i input => exact h.startPrepare i input
  | finalize i input => exact h.startChecked i fun x hx => ⟨checkFinalize_requests hx, rfl⟩
  | rotateControllerEnvelope i input => exact h.startChecked i fun x hx => checkRotate_requests hx
  | grantRecipient i input => exact h.startChecked i fun x hx => checkGrant_requests hx
  | retrieveWithGrant i input => exact h.startChecked i fun x hx => ⟨checkRetrieve_requests hx, rfl⟩
  | promoteToDecisionCritical i bundleId replicaObjectId => exact h.startPromote i bundleId replicaObjectId
  | repository event => exact h.stepRepository event
  | resume c result =>
    rcases hc : S.calls[c]? with _ | a
    · simpa [Evidence.step, hc] using h
    · simpa [Evidence.step, hc] using h.resumeCall hc result
  | keyLifecycle i event => exact h.setService rfl

end Step

/-- **The invariant holds in every state reached.** -/
theorem oneUse_after {F : Externals} {configs : ℕ → Config} {repository : Repository} (hnew : repository.IsNew)
    (ls : List Event) : OneUse (after F configs repository ls) :=
  run_invariant (fun _ event h => h.step event) ls (oneUse_newSystem hnew)

/-! ### What a call does to the stores -/

/-- The nonces in the stores of all services. -/
def System.held (S : System) : Set (ℕ × PendingNonceConsumption) := {q | Held (S.services q.1).nonces q.2}

/-- The local nonces that a call consumes, in the stores of its service. -/
def Call.own (a : Call) : Set (ℕ × PendingNonceConsumption) := {q | q.1 = a.service ∧ q.2 ∈ a.operation.localNonces}

/-- The nonces that a call has consumed and not taken back. -/
def Call.taken (a : Call) : Set (ℕ × PendingNonceConsumption) := {q | q.1 = a.service ∧ q.2 ∈ a.nonces}

section Stores

variable {F : Externals} {configs : ℕ → Config} {S S' : System} {c : ℕ} {a : Call}

theorem held_congr (h : ∀ i, (S'.services i).nonces = (S.services i).nonces) : S'.held = S.held := by
  ext q
  simp only [System.held, Set.mem_ofPred_eq, h]

theorem held_setService {i : ℕ} {service : BundleService} (h : service.nonces = (S.services i).nonces) :
    (S.setService i service).held = S.held := by
  refine held_congr fun j => ?_
  by_cases hj : j = i
  · subst hj
    simpa [System.setService] using h
  · simp [System.setService, hj]

/-- What the stores hold when the new call `a` stands after its first step. -/
def Started (S S' : System) (a : Call) : Prop :=
  (a.phase = .failed ∧ S'.held = S.held) ∨
    (a.phase ≠ .failed ∧ Disjoint S.held a.own ∧ S'.held = S.held ∪ a.own)

theorem ProofsConsumed.started {i : ℕ} {operation : Operation} {request : ConsumeRequest}
    (h : ProofsConsumed S S' i operation operation.localNonces request a) : Started S S' a := by
  obtain ⟨hfailed, -, hsame⟩ | ⟨-, hfree, hframe, hheld, hphase⟩ := h.consuming
  · exact .inl ⟨hfailed, held_congr hsame⟩
  · refine .inr ⟨?_, ?_, ?_⟩
    · rcases hphase with hwaits | ⟨hworks, -⟩
      · simp [hwaits]
      · simp [hworks]
    · rw [Set.disjoint_right]
      rintro ⟨j, p⟩ ⟨hj, hp⟩ hold
      obtain rfl : j = i := hj.trans h.service
      exact hfree p (by rw [← h.operation]; exact hp) hold
    · ext ⟨j, p⟩
      simp only [System.held, Call.own, Set.mem_union, Set.mem_ofPred_eq, h.service, h.operation]
      by_cases hj : j = i
      · subst hj
        rw [hheld]
        tauto
      · simp [hframe j hj, hj]

theorem started_addCall (h : S'.held = S.held) (hlocal : a.operation.localNonces = []) :
    Started S (S'.addCall a) a := by
  by_cases hfailed : a.phase = .failed
  · exact .inl ⟨hfailed, h⟩
  · have hown : a.own = ∅ := by
      ext q
      simp [Call.own, hlocal]
    refine .inr ⟨hfailed, by simp [hown], ?_⟩
    rw [hown, Set.union_empty]
    exact h

/-- The call has gone on as the same call; one that has failed stays so. -/
structure Call.Becomes (a b : Call) : Prop where
  service : b.service = a.service
  operation : b.operation = a.operation
  failed : a.phase = .failed → b.phase = .failed

/-- A step makes a call, moves one, or leaves the calls as they are. -/
inductive CallsStep (S S' : System) : Prop where
  | same (h : S'.calls = S.calls)
  | made (a : Call) (h : S'.calls = S.calls ++ [a]) (started : Started S S' a)
  | moved (c : ℕ) (a b : Call) (hc : S.calls[c]? = some a) (becomes : a.Becomes b) (h : S'.calls = S.calls.set c b)

theorem callsStep_startChecked {α : Type} {checked : Except ServiceError α} {operation : α → Operation}
    {localNonces : α → List PendingNonceConsumption} {request : α → ConsumeRequest} (h : OneUse S) (i : ℕ)
    (hlocal : ∀ x, checked = .ok x → localNonces x = (operation x).localNonces) :
    CallsStep S (startChecked S i checked operation localNonces request) := by
  rcases checked with e | x
  · exact .same rfl
  · simp only [startChecked, hlocal x rfl]
    obtain ⟨a, ha⟩ := consumeValidatedProofs_cases h.sound i (operation x) (operation x).localNonces (request x)
    exact .made a ha.calls ha.started

theorem callsStep_resumeCall (hc : S.calls[c]? = some a) (result : AwaitResult) :
    CallsStep S (resumeCall F configs S c a result) := by
  unfold resumeCall
  split
  · refine .moved c a _ hc ?_ rfl
    exact ⟨rfl, rfl, fun _ => rfl⟩
  · exact .same rfl
  · exact .same rfl
  · exact .same rfl
  next hfailed =>
    refine .moved c a _ hc ?_ rfl
    exact ⟨rfl, rfl, fun h => absurd h hfailed⟩

theorem callsStep (h : OneUse S) (event : Event) : CallsStep S (step F configs S event) := by
  cases event with
  | prepare i input =>
    simp only [step, startPrepare]
    split_ifs
    · exact .made _ rfl (started_addCall rfl rfl)
    · split
      · exact .made _ rfl (started_addCall rfl rfl)
      · exact .made _ rfl (started_addCall rfl rfl)
  | finalize i input => exact callsStep_startChecked h i fun x hx => rfl
  | rotateControllerEnvelope i input => exact callsStep_startChecked h i fun x hx => (checkRotate_requests hx).2
  | grantRecipient i input => exact callsStep_startChecked h i fun x hx => (checkGrant_requests hx).2
  | retrieveWithGrant i input => exact callsStep_startChecked h i fun x hx => rfl
  | promoteToDecisionCritical i bundleId replicaObjectId =>
    simp only [step, startPromote]
    split
    · exact .same rfl
    · split_ifs
      · exact .same rfl
      · exact .made _ rfl (started_addCall (held_setService rfl) rfl)
  | repository event =>
    simp only [step, stepRepository]
    obtain hsame | ⟨c, a, result, -, hc, hwaits, hset⟩ :=
      settleCall_cases { S with repository := (S.repository.step event).1 } (S.repository.step event).2
    · exact .same (by rw [hsame])
    · rw [hset]
      refine .moved c a _ hc ?_ rfl
      refine ⟨rfl, rfl, fun hfailed => ?_⟩
      rw [hwaits] at hfailed
      cases hfailed
  | resume c result =>
    rcases hc : S.calls[c]? with _ | a
    · simp only [step, hc]
      exact .same rfl
    · simp only [step, hc]
      exact callsStep_resumeCall hc result
  | keyLifecycle i event => exact .same rfl

/-- The event that makes the call numbered `S.calls.length`. -/
theorem CallsStep.started (h : CallsStep S S') (ha : S'.calls[S.calls.length]? = some a) : Started S S' a := by
  cases h with
  | same h => simp [h] at ha
  | made b h started =>
    obtain rfl : b = a := by simpa [h] using ha
    exact started
  | moved c b b' hc becomes h => simp [h] at ha

theorem CallsStep.becomes (h : CallsStep S S') (ha : S.calls[c]? = some a) : ∃ b, S'.calls[c]? = some b ∧ a.Becomes b := by
  have hlt : c < S.calls.length := (List.getElem?_eq_some_iff.mp ha).1
  have hrefl : a.Becomes a := ⟨rfl, rfl, id⟩
  cases h with
  | same h => exact ⟨a, by rw [h, ha], hrefl⟩
  | made b h started => exact ⟨a, by rw [h, List.getElem?_append_left hlt, ha], hrefl⟩
  | moved d x b hd becomes h =>
    by_cases hcd : d = c
    · subst hcd
      obtain rfl : x = a := Option.some.inj (hd.symm.trans ha)
      exact ⟨b, by simp [h, hlt], becomes⟩
    · exact ⟨a, by rw [h, List.getElem?_set_ne hcd, ha], hrefl⟩

/-- A call stays the same call along a run. -/
theorem run_becomes (h : OneUse S) (ha : S.calls[c]? = some a) (ls : List Event) :
    ∃ b, (run (step F configs) S ls).calls[c]? = some b ∧ a.Becomes b := by
  refine (run_invariant (I := fun S => OneUse S ∧ ∃ b, S.calls[c]? = some b ∧ a.Becomes b) ?_ ls
    ⟨h, a, ha, rfl, rfl, id⟩).2
  rintro S event ⟨h, b, hb, hab⟩
  obtain ⟨b', hb', hbb'⟩ := (callsStep h event).becomes hb
  exact ⟨h.step event, b', hb', hbb'.service.trans hab.service, hbb'.operation.trans hab.operation,
    fun hfailed => hbb'.failed (hab.failed hfailed)⟩

/-- The rollback takes exactly its own nonces out of the stores. -/
theorem held_rollbackProofs (S : System) (c : ℕ) (a : Call) : (rollbackProofs S c a).held = S.held \ a.taken := by
  ext ⟨j, p⟩
  simp only [System.held, Call.taken, Set.mem_sdiff, Set.mem_ofPred_eq, rollbackProofs, System.setService]
  by_cases hj : j = a.service
  · subst hj
    simp only [update_self, BundleService.setNonces, true_and]
    exact held_rollbackLocalNonces p a.nonces _
  · simp [hj]

end Stores

/-! ### Results -/

section Results

variable {F : Externals} {configs : ℕ → Config} {repository : Repository}

theorem OneUse.pair {S : System} {c d : ℕ} {a b : Call} (h : OneUse S) (hcd : c ≠ d) (ha : S.calls[c]? = some a)
    (hb : S.calls[d]? = some b) : Apart a b := by
  refine h.others ha b ?_
  rw [List.mem_eraseIdx_iff_getElem?]
  exact ⟨d, hcd.symm, hb⟩

/-- Two calls use no local nonce of one service, no key-operation nonce and no
version of an authorization in common. -/
structure UseApart (a b : Call) : Prop where
  localNonces : a.service = b.service → ∀ p ∈ a.operation.localNonces, p ∉ b.operation.localNonces
  keyOperationScope : ∀ scope ∈ a.operation.keyOperationScope, scope ∉ b.operation.keyOperationScope
  authorizationVersion : ∀ version ∈ a.operation.authorizationVersion, version ∉ b.operation.authorizationVersion

theorem Apart.useApart {a b : Call} (h : Apart a b) (ha : a.WellFormed) (hb : b.WellFormed)
    (ha' : a.phase = .returned) (hb' : b.phase = .returned) : UseApart a b := by
  have hpassed : ∀ x : Call, x.phase = .returned → x.Passed := by
    intro x hx
    simp [Call.Passed, hx]
  have hrequests := h.2 (hpassed a ha') (hpassed b hb')
  refine ⟨fun hs => ?_, fun scope hscope hscope' => ?_, fun version hversion hversion' => ?_⟩
  · rw [← ha.nonces (by simp [ha']), ← hb.nonces (by simp [hb'])]
    exact h.1 hs
  · rw [← ha.requests.1] at hscope
    rw [← hb.requests.1] at hscope'
    obtain ⟨r, hr, rfl⟩ := Option.mem_map.mp hscope
    obtain ⟨r', hr', heq⟩ := Option.mem_map.mp hscope'
    exact hrequests r hr r' hr' (.inr heq.symm)
  · rw [← ha.requests.2] at hversion
    rw [← hb.requests.2] at hversion'
    obtain ⟨r, hr, rfl⟩ := Option.mem_map.mp hversion
    obtain ⟨r', hr', heq⟩ := Option.mem_map.mp hversion'
    exact hrequests r hr r' hr' (.inl heq.symm)

/-- The call `b`, numbered `c`, is made in the step from `S` to `made`, stands
refused in `refused` and has gone on in `ended`: what it put into the stores was
in none before, it takes back that and nothing else, and whatever another call
has taken stays. If the stores did not change meanwhile, they are again what
they were. -/
structure TakesBack (S made refused ended : System) (c : ℕ) (b : Call) : Prop where
  fresh : Disjoint S.held b.own
  consumed : made.held = S.held ∪ b.own
  restored : ended.held = refused.held \ b.own
  undisturbed : refused.held = made.held → ended.held = S.held
  others : ∀ d other, d ≠ c → refused.calls[d]? = some other → other.taken ⊆ ended.held

theorem takesBack {S S' : System} {event : Event} {a b : Call} (h : OneUse S) (h' : OneUse S') (result : AwaitResult)
    (ha : (step F configs S event).calls[S.calls.length]? = some a) (hab : a.Becomes b)
    (hb : S'.calls[S.calls.length]? = some b) (hrejected : b.phase = .rejected) :
    TakesBack S (step F configs S event) S' (step F configs S' (.resume S.calls.length result)) S.calls.length b := by
  have hlive : b.phase ≠ .failed := by simp [hrejected]
  have hown : b.own = a.own := by simp only [Call.own, hab.service, hab.operation]
  have htaken : b.taken = b.own := by
    simp only [Call.own, Call.taken, (h'.wellFormed b (List.mem_of_getElem? hb)).nonces hlive]
  have hended : step F configs S' (.resume S.calls.length result) = rollbackProofs S' S.calls.length b := by
    simp only [step, hb, resumeCall, hrejected]
  have hrestored : (rollbackProofs S' S.calls.length b).held = S'.held \ b.own := by
    rw [held_rollbackProofs, htaken]
  obtain ⟨hfailed, -⟩ | ⟨-, hfresh, hmade⟩ := (callsStep h event).started ha
  · exact absurd (hab.failed hfailed) hlive
  rw [hended]
  refine ⟨by rwa [hown], by rwa [hown], hrestored, fun hsame => ?_, fun d other hd hother => ?_⟩
  · rw [hrestored, hsame, hmade, hown, Set.union_sdiff_right]
    exact hfresh.sdiff_eq_left
  · rintro ⟨j, p⟩ ⟨rfl, hp⟩
    rw [hrestored]
    refine ⟨h'.held other (List.mem_of_getElem? hother) p hp, ?_⟩
    rintro ⟨hs, hpb⟩
    have hapart := h'.pair hd.symm hb hother
    rw [← (h'.wellFormed b (List.mem_of_getElem? hb)).nonces hlive] at hpb
    exact hapart.1 hs.symm p hpb hp

/-- **Proofs are used once.** In every run of any number of services over one
repository, two calls that returned use nothing in common; a call that is
refused at once leaves the stores of all services as they were; and one that
the repository refuses after any interleaving takes back its own nonces and no
others. -/
theorem proofs_used_once (F : Externals) (configs : ℕ → Config) (hnew : repository.IsNew) (ls : List Event) {S : System}
    (hS : S = after F configs repository ls) :
    (∀ (c d : ℕ) (a b : Call), c ≠ d → S.calls[c]? = some a → S.calls[d]? = some b →
      a.phase = .returned → b.phase = .returned → UseApart a b) ∧
    ∀ (event : Event) (a : Call), (step F configs S event).calls[S.calls.length]? = some a →
      (a.phase = .failed → (step F configs S event).held = S.held) ∧
      ∀ (ms : List Event) (b : Call) (result : AwaitResult) (S' : System),
        S' = after F configs repository (ls ++ event :: ms) → S'.calls[S.calls.length]? = some b → b.phase = .rejected →
        TakesBack S (step F configs S event) S' (step F configs S' (.resume S.calls.length result)) S.calls.length b := by
  subst hS
  have h : OneUse (after F configs repository ls) := oneUse_after hnew ls
  refine ⟨fun c d a b hcd ha hb ha' hb' => ?_, fun event a ha => ⟨fun hfailed => ?_, ?_⟩⟩
  · exact (h.pair hcd ha hb).useApart (h.wellFormed a (List.mem_of_getElem? ha)) (h.wellFormed b (List.mem_of_getElem? hb))
      ha' hb'
  · obtain ⟨-, hsame⟩ | ⟨hlive, -⟩ := (callsStep h event).started ha
    · exact hsame
    · exact absurd hfailed hlive
  · rintro ms b result S' rfl hb hrejected
    have hrun : after F configs repository (ls ++ event :: ms) =
        run (step F configs) (step F configs (after F configs repository ls) event) ms := run_append _ _ ls (event :: ms)
    obtain ⟨b', hb', hab⟩ : ∃ b', (run (step F configs) _ ms).calls[_]? = some b' ∧ a.Becomes b' :=
      run_becomes (h.step event) ha ms
    rw [← hrun, hb] at hb'
    obtain rfl := Option.some.inj hb'
    exact takesBack h (oneUse_after hnew _) result ha hab hb hrejected

/-- A new database. -/
def Sample.database : Repository := .postgres (fun _ => 0) ⟨[], []⟩

/-- The bundle is about to be finalized when the connection to the database fails. -/
def Sample.refused : System :=
  after Sample.externals (fun _ => Sample.config) Sample.database
    (Sample.preparation ++ [.finalize 0 Sample.finalizeInput, .repository (.fail 0)])

theorem proofs_used_once_unavailable : ∃ b, Sample.refused.calls[1]? = some b ∧ b.phase = .rejected ∧
    b.operation.localNonces.length = 2 ∧
    TakesBack (Sample.prepared Sample.database)
      (step Sample.externals (fun _ => Sample.config) (Sample.prepared Sample.database) (.finalize 0 Sample.finalizeInput))
      Sample.refused (step Sample.externals (fun _ => Sample.config) Sample.refused (.resume 1 .done)) 1 b := by
  have hmade := Sample.step_finalize Sample.database
  have hcall : (step Sample.externals (fun _ => Sample.config) (Sample.prepared Sample.database)
      (.finalize 0 Sample.finalizeInput)).calls[1]? = some ⟨0, .finalize Sample.finalizeInput 0,
        finalizeNonces Sample.finalizeInput, some Sample.request, .consuming⟩ := by
    rw [hmade]
    rfl
  have hrefused : Sample.refused = run (step Sample.externals fun _ => Sample.config) (Sample.prepared Sample.database)
      [.finalize 0 Sample.finalizeInput, .repository (.fail 0)] := run_append _ _ _ _
  have hcall' : Sample.refused.calls[1]? = some ⟨0, .finalize Sample.finalizeInput 0,
      finalizeNonces Sample.finalizeInput, some Sample.request, .rejected⟩ := by
    rw [hrefused, run_cons, hmade]
    rfl
  have hmain := proofs_used_once Sample.externals (fun _ => Sample.config) (.postgres _) Sample.preparation
    (rfl : Sample.prepared Sample.database = _)
  exact ⟨_, hcall', rfl, rfl, (hmain.2 _ _ hcall).2 [.repository (.fail 0)] _ .done Sample.refused rfl hcall' rfl⟩

end Results

end Evidence
end Evllm
