/-
# Wallet sessions

`WalletSessionManager`: a challenge is issued for an identity and stored; `verify`
takes it out of the store, awaits two checks, and issues a session under the digest
of a fresh token; `require` and `logout` look that up. `verify` is cut at its two
awaits, so that other calls run in between. Every call of `now()` is a reading of
its own: the last segment of `verify` reads the clock twice, once to compare it
with the expiry and once for the time of issue.

Key definitions: `WalletSessionManager`, `challenge`, `verify`, `issueSession`,
`requireSession`, `logout`, `SessionEvent`.
Key theorems: `taken_after`, `standing_after`, `sessions_sound`.
-/
import Mathlib.Data.List.Induction
import Evllm.Assistant.Service

namespace Evllm
namespace Assistant

open Lib

/-! ### Records -/

structure Identity where
  actorId : String
  organizationId : String
  credentialId : String
  address : String
  deriving DecidableEq, Repr

/-- `/^0x[0-9a-f]{40}$/u`. -/
def isAddress (text : String) : Bool :=
  match text.toList with
  | '0' :: 'x' :: digits => digits.length = 40 ∧ digits.all fun c => c.isDigit ∨ ('a' ≤ c ∧ c ≤ 'f')
  | _ => false

/-- `identity.parse` accepts the record. -/
def Identity.accepted (input : Identity) : Bool :=
  input.actorId.startsWith "urn:evllm:actor:" ∧ input.organizationId.startsWith "urn:evllm:org:" ∧
    input.credentialId.startsWith "urn:evllm:credential:" ∧ isAddress input.address

structure Challenge extends Identity where
  challengeId : String
  message : String
  expiresAt : ℕ
  deriving DecidableEq, Repr

/-- The codes of `SessionError`, a record that the schema refuses, and a check that throws. -/
inductive SessionFailure where
  | capacity
  | expired
  | invalid
  | replay
  | schema
  | thrown
  deriving DecidableEq, Repr

/-- What the manager is built with; the constructor checks that the numbers are positive. -/
structure SessionConfig where
  digest : String → String
  challengeLifetimeSeconds : ℕ
  maxChallenges : ℕ
  maxSessions : ℕ
  sessionLifetimeSeconds : ℕ
  challengeLifetime_pos : 0 < challengeLifetimeSeconds
  maxChallenges_pos : 0 < maxChallenges
  maxSessions_pos : 0 < maxSessions
  sessionLifetime_pos : 0 < sessionLifetimeSeconds

/-- What a call of `verify` awaits, or how it ended. -/
inductive VerifyStage where
  | credential
  | signature
  | settled (result : Except SessionFailure (String × ActorSession))
  deriving DecidableEq

/-- A call of `verify`, with the challenge that it took. -/
structure Verification where
  challengeId : String
  signature : String
  challenge : Option Challenge
  stage : VerifyStage

structure WalletSessionManager where
  challenges : JsMap String Challenge
  sessions : JsMap String ActorSession
  verifications : List Verification

def newManager : WalletSessionManager := ⟨JsMap.empty, JsMap.empty, []⟩

/-! ### Operations -/

section Operations

variable (C : SessionConfig) (M : WalletSessionManager)

def removeExpired (currentTime : ℕ) (retainedSessionKey : Option String) : WalletSessionManager :=
  { M with
    challenges := M.challenges.filter fun _ challenge => currentTime < challenge.expiresAt
    sessions := M.sessions.filter fun key session => retainedSessionKey = some key ∨ currentTime < session.expiresAt }

/-- The challenge for an identity, issued at `issuedAt`. -/
def newChallenge (input : Identity) (issuedAt : ℕ) (challengeId nonce : String) : Challenge :=
  let expiresAt := issuedAt + C.challengeLifetimeSeconds
  let message := "\n".intercalate
    ["EVLLM wallet session v1", "challenge=" ++ challengeId, "actor=" ++ input.actorId,
      "organization=" ++ input.organizationId, "credential=" ++ input.credentialId, "address=" ++ input.address,
      "nonce=" ++ nonce, "expires_at=" ++ toString expiresAt]
  { toIdentity := input, challengeId := challengeId, message := message, expiresAt := expiresAt }

/-- What `challenge` answers. -/
structure OfferedChallenge where
  challengeId : String
  message : String
  expiresAt : ℕ
  deriving DecidableEq, Repr

def challenge (raw : Option Identity) (issuedAt : ℕ) (challengeId nonce : String) :
    Except SessionFailure OfferedChallenge × WalletSessionManager :=
  match raw.filter Identity.accepted with
  | none => (.error .schema, M)
  | some input =>
    let M := removeExpired M issuedAt none
    if M.challenges.size ≥ C.maxChallenges then
      (.error .capacity, M)
    else
      let issued := newChallenge C input issuedAt challengeId nonce
      (.ok ⟨challengeId, issued.message, issued.expiresAt⟩,
        { M with challenges := M.challenges.set challengeId issued })

def addVerification (verification : Verification) : WalletSessionManager :=
  { M with verifications := M.verifications ++ [verification] }

/-- `verify`, up to its first await. -/
def verify (challengeId signature : String) (verificationStartedAt : ℕ) : WalletSessionManager :=
  match M.challenges.get challengeId with
  | none => addVerification M ⟨challengeId, signature, none, .settled (.error .replay)⟩
  | some challenge =>
    let M := removeExpired { M with challenges := M.challenges.delete challengeId } verificationStartedAt none
    if challenge.expiresAt ≤ verificationStartedAt then
      addVerification M ⟨challengeId, signature, some challenge, .settled (.error .expired)⟩
    else
      addVerification M ⟨challengeId, signature, some challenge, .credential⟩

/-- The session for a challenge, issued at `issuedAt`. -/
def sessionOf (challenge : Challenge) (issuedAt : ℕ) (sessionId : String) : ActorSession :=
  ⟨"urn:evllm:session:" ++ sessionId, challenge.actorId, challenge.organizationId, challenge.credentialId,
    challenge.address, issuedAt, issuedAt + C.sessionLifetimeSeconds⟩

/-- The end of `verify`, after both checks: the clock reads `checked`, then `issuedAt`. -/
def issueSession (challenge : Challenge) (checked issuedAt : ℕ) (token sessionId : String) :
    Except SessionFailure (String × ActorSession) × WalletSessionManager :=
  if challenge.expiresAt ≤ checked then
    (.error .expired, M)
  else
    let M := removeExpired M issuedAt none
    if M.sessions.size ≥ C.maxSessions then
      (.error .capacity, M)
    else
      let session := sessionOf C challenge issuedAt sessionId
      (.ok (token, session), { M with sessions := M.sessions.set (C.digest token) session })

def setStage (call : ℕ) (verification : Verification) (stage : VerifyStage) : WalletSessionManager :=
  { M with verifications := M.verifications.set call { verification with stage := stage } }

/-- A failed check; `none` where it throws. -/
def refusedStage : Option Bool → VerifyStage
  | none => .settled (.error .thrown)
  | some _ => .settled (.error .invalid)

/-- `credentialIsCurrent` answers a call of `verify`. -/
def credentialAnswers (call : ℕ) (answer : Option Bool) : WalletSessionManager :=
  match M.verifications[call]? with
  | some ⟨challengeId, signature, challenge, .credential⟩ =>
    setStage M call ⟨challengeId, signature, challenge, .credential⟩
      (if answer = some true then .signature else refusedStage answer)
  | _ => M

/-- `verifySignature` answers a call of `verify`, which then runs to its end. -/
def signatureAnswers (call : ℕ) (answer : Option Bool) (checked issuedAt : ℕ) (token sessionId : String) :
    WalletSessionManager :=
  match M.verifications[call]? with
  | some ⟨challengeId, signature, some challenge, .signature⟩ =>
    if answer = some true then
      let (result, M) := issueSession C M challenge checked issuedAt token sessionId
      setStage M call ⟨challengeId, signature, some challenge, .signature⟩ (.settled result)
    else
      setStage M call ⟨challengeId, signature, some challenge, .signature⟩ (refusedStage answer)
  | _ => M

/-- `require`. -/
def requireSession (token : String) (currentTime : ℕ) : Except SessionFailure ActorSession × WalletSessionManager :=
  let key := C.digest token
  match M.sessions.get key with
  | none => (.error .invalid, M)
  | some session =>
    let M := removeExpired M currentTime (some key)
    if session.expiresAt ≤ currentTime then
      (.error .expired, { M with sessions := M.sessions.delete key })
    else
      (.ok session, M)

def logout (token : String) (currentTime : ℕ) : WalletSessionManager :=
  let M := removeExpired M currentTime none
  { M with sessions := M.sessions.delete (C.digest token) }

/-- A call, or an answer that a call of `verify` awaits, with what the clock reads
and what is drawn at random. -/
inductive SessionEvent where
  | challenge (raw : Option Identity) (issuedAt : ℕ) (challengeId nonce : String)
  | verify (challengeId signature : String) (startedAt : ℕ)
  | credential (call : ℕ) (answer : Option Bool)
  | signature (call : ℕ) (answer : Option Bool) (checked issuedAt : ℕ) (token sessionId : String)
  | require (token : String) (currentTime : ℕ)
  | logout (token : String) (currentTime : ℕ)
  deriving DecidableEq

def sessionStep : SessionEvent → WalletSessionManager
  | .challenge raw issuedAt challengeId nonce => (challenge C M raw issuedAt challengeId nonce).2
  | .verify challengeId signature startedAt => verify M challengeId signature startedAt
  | .credential call answer => credentialAnswers M call answer
  | .signature call answer checked issuedAt token sessionId =>
    signatureAnswers C M call answer checked issuedAt token sessionId
  | .require token currentTime => (requireSession C M token currentTime).2
  | .logout token currentTime => logout C M token currentTime

/-- The manager after the events `ls`. -/
def managerAfter (ls : List SessionEvent) : WalletSessionManager := run (sessionStep C) newManager ls

end Operations

variable {C : SessionConfig} {M M' : WalletSessionManager} {ls : List SessionEvent}

theorem managerAfter_concat (C : SessionConfig) (ls : List SessionEvent) (l : SessionEvent) :
    managerAfter C (ls ++ [l]) = sessionStep C (managerAfter C ls) l := run_append _ _ _ _

/-! ### What a step does -/

@[simp] theorem removeExpired_challenges {now : ℕ} {retained : Option String} {id : String} {ch : Challenge} :
    (removeExpired M now retained).challenges.get id = some ch ↔
      M.challenges.get id = some ch ∧ now < ch.expiresAt := by
  simp [removeExpired, JsMap.get_filter]

@[simp] theorem removeExpired_sessions {now : ℕ} {retained : Option String} {key : String} {session : ActorSession} :
    (removeExpired M now retained).sessions.get key = some session ↔
      M.sessions.get key = some session ∧ (retained = some key ∨ now < session.expiresAt) := by
  simp [removeExpired, JsMap.get_filter]

@[simp] theorem removeExpired_verifications {now : ℕ} {retained : Option String} :
    (removeExpired M now retained).verifications = M.verifications := rfl

/-- A session is issued before the expiry, as the first reading has it, and below the capacity. -/
theorem issueSession_cases (C : SessionConfig) (M : WalletSessionManager) (ch : Challenge) (checked issuedAt : ℕ)
    (token sessionId : String) :
    (∃ e M', issueSession C M ch checked issuedAt token sessionId = (.error e, M') ∧
        (M' = M ∨ M' = removeExpired M issuedAt none)) ∨
      (checked < ch.expiresAt ∧ (removeExpired M issuedAt none).sessions.size < C.maxSessions ∧
        issueSession C M ch checked issuedAt token sessionId =
          (.ok (token, sessionOf C ch issuedAt sessionId),
            { removeExpired M issuedAt none with
              sessions := (removeExpired M issuedAt none).sessions.set (C.digest token)
                (sessionOf C ch issuedAt sessionId) })) := by
  unfold issueSession
  dsimp only
  split_ifs with hexpired hcapacity
  · exact Or.inl ⟨_, _, rfl, Or.inl rfl⟩
  · exact Or.inl ⟨_, _, rfl, Or.inr rfl⟩
  · exact Or.inr ⟨not_le.mp hexpired, not_le.mp hcapacity, rfl⟩

/-- The event ends a call of `verify` with a session. -/
structure Yields (C : SessionConfig) (M : WalletSessionManager) (l : SessionEvent) (call : ℕ) (ch : Challenge)
    (token : String) (session : ActorSession) : Prop where
  pending : ∃ v, M.verifications[call]? = some v ∧ v.challenge = some ch ∧ v.stage = .signature
  ended : ∃ v, (sessionStep C M l).verifications[call]? = some v ∧ v.challenge = some ch ∧
    v.stage = .settled (.ok (token, session))
  answered : ∃ checked issuedAt sessionId, l = .signature call (some true) checked issuedAt token sessionId ∧
    checked < ch.expiresAt ∧ session = sessionOf C ch issuedAt sessionId

/-- How a check's answer changes the manager. -/
theorem signatureAnswers_cases (C : SessionConfig) (M : WalletSessionManager) (call : ℕ) (answer : Option Bool)
    (checked issuedAt : ℕ) (token sessionId : String) :
    signatureAnswers C M call answer checked issuedAt token sessionId = M ∨
      ∃ v ch, M.verifications[call]? = some v ∧ v.challenge = some ch ∧ v.stage = .signature ∧
        ((∃ e M', (M' = M ∨ M' = removeExpired M issuedAt none) ∧
            signatureAnswers C M call answer checked issuedAt token sessionId = setStage M' call v (.settled (.error e))) ∨
          (answer = some true ∧ checked < ch.expiresAt ∧
            (removeExpired M issuedAt none).sessions.size < C.maxSessions ∧
            signatureAnswers C M call answer checked issuedAt token sessionId =
              setStage { removeExpired M issuedAt none with
                sessions := (removeExpired M issuedAt none).sessions.set (C.digest token)
                  (sessionOf C ch issuedAt sessionId) } call v
                (.settled (.ok (token, sessionOf C ch issuedAt sessionId))))) := by
  unfold signatureAnswers
  split
  next challengeId signature ch hv =>
    refine Or.inr ⟨_, ch, hv, rfl, rfl, ?_⟩
    split_ifs with hanswer
    · obtain ⟨e, M', hissue, hM'⟩ | ⟨hchecked, hsize, hissue⟩ :=
        issueSession_cases C M ch checked issuedAt token sessionId
      · rw [hissue]
        exact Or.inl ⟨e, M', hM', rfl⟩
      · rw [hissue]
        exact Or.inr ⟨hanswer, hchecked, hsize, rfl⟩
    · refine Or.inl ?_
      cases answer with
      | none => exact ⟨.thrown, M, Or.inl rfl, rfl⟩
      | some b => exact ⟨.invalid, M, Or.inl rfl, rfl⟩
  · exact Or.inl rfl

theorem credentialAnswers_cases (M : WalletSessionManager) (call : ℕ) (answer : Option Bool) :
    credentialAnswers M call answer = M ∨
      ∃ v stage, M.verifications[call]? = some v ∧ (∀ token session, stage ≠ .settled (.ok (token, session))) ∧
        credentialAnswers M call answer = setStage M call v stage := by
  unfold credentialAnswers
  split
  next challengeId signature ch hv =>
    refine Or.inr ⟨_, _, hv, fun token session => ?_, rfl⟩
    split_ifs
    · exact fun h => (nomatch h)
    · cases answer <;> exact fun h => (nomatch h)
  · exact Or.inl rfl

/-- A call of `verify` keeps the challenge that it took. -/
theorem setStage_cases {call i : ℕ} {v w : Verification} {stage : VerifyStage} (hv : M.verifications[call]? = some v)
    (hw : (setStage M call v stage).verifications[i]? = some w) :
    (M.verifications[i]? = some w ∧ i ≠ call) ∨ (i = call ∧ w = { v with stage := stage }) := by
  by_cases hi : call = i
  · subst hi
    have hset : (setStage M call v stage).verifications[call]? = some { v with stage := stage } :=
      List.getElem?_set_self (List.getElem?_eq_some_iff.mp hv).1
    exact Or.inr ⟨rfl, Option.some.inj (hw.symm.trans hset)⟩
  · have hset : (setStage M call v stage).verifications[i]? = M.verifications[i]? := List.getElem?_set_ne hi
    exact Or.inl ⟨hset ▸ hw, Ne.symm hi⟩

theorem setStage_challenge {call i : ℕ} {v w : Verification} {stage : VerifyStage} (hv : M.verifications[call]? = some v)
    (hw : (setStage M call v stage).verifications[i]? = some w) :
    ∃ v', M.verifications[i]? = some v' ∧ v'.challenge = w.challenge ∧ v'.challengeId = w.challengeId := by
  obtain ⟨hold, -⟩ | ⟨rfl, rfl⟩ := setStage_cases hv hw
  · exact ⟨w, hold, rfl, rfl⟩
  · exact ⟨v, hv, rfl, rfl⟩

/-! ### Capacity -/

structure Bounded (C : SessionConfig) (M : WalletSessionManager) : Prop where
  challenges : M.challenges.size ≤ C.maxChallenges
  sessions : M.sessions.size ≤ C.maxSessions

theorem Bounded.removeExpired (h : Bounded C M) (now : ℕ) (retained : Option String) :
    Bounded C (removeExpired M now retained) :=
  ⟨(JsMap.size_filter_le _ _).trans h.challenges, (JsMap.size_filter_le _ _).trans h.sessions⟩

theorem Bounded.step (h : Bounded C M) (l : SessionEvent) : Bounded C (sessionStep C M l) := by
  cases l with
  | challenge raw issuedAt challengeId nonce =>
    show Bounded C (challenge C M raw issuedAt challengeId nonce).2
    unfold Assistant.challenge
    split
    · exact h
    next input _ =>
      dsimp only
      split_ifs with hcapacity
      · exact h.removeExpired issuedAt none
      · refine ⟨(JsMap.size_set_le _ _ _).trans ?_, (h.removeExpired issuedAt none).sessions⟩
        exact not_le.mp hcapacity
  | verify challengeId signature startedAt =>
    show Bounded C (verify M challengeId signature startedAt)
    unfold Assistant.verify
    split
    · exact ⟨h.challenges, h.sessions⟩
    · have hdeleted : Bounded C { M with challenges := M.challenges.delete challengeId } :=
        ⟨(JsMap.size_delete_le _ _).trans h.challenges, h.sessions⟩
      have hremoved := hdeleted.removeExpired startedAt none
      dsimp only
      split_ifs
      · exact ⟨hremoved.challenges, hremoved.sessions⟩
      · exact ⟨hremoved.challenges, hremoved.sessions⟩
  | credential call answer =>
    show Bounded C (credentialAnswers M call answer)
    obtain heq | ⟨v, stage, -, -, heq⟩ := credentialAnswers_cases M call answer
    · rw [heq]
      exact h
    · rw [heq]
      exact ⟨h.challenges, h.sessions⟩
  | signature call answer checked issuedAt token sessionId =>
    show Bounded C (signatureAnswers C M call answer checked issuedAt token sessionId)
    have hremoved := h.removeExpired issuedAt none
    obtain heq | ⟨v, ch, -, -, -, ⟨e, M', hM', heq⟩ | ⟨-, -, hsize, heq⟩⟩ :=
      signatureAnswers_cases C M call answer checked issuedAt token sessionId
    · rw [heq]
      exact h
    · rw [heq]
      obtain rfl | rfl := hM'
      · exact ⟨h.challenges, h.sessions⟩
      · exact ⟨hremoved.challenges, hremoved.sessions⟩
    · rw [heq]
      exact ⟨hremoved.challenges, (JsMap.size_set_le _ _ _).trans hsize⟩
  | require token now =>
    show Bounded C (requireSession C M token now).2
    unfold requireSession
    dsimp only
    split
    · exact h
    · have hremoved := h.removeExpired now (some (C.digest token))
      split_ifs
      · exact ⟨hremoved.challenges, (JsMap.size_delete_le _ _).trans hremoved.sessions⟩
      · exact hremoved
  | logout token now =>
    have hremoved := h.removeExpired now none
    exact ⟨hremoved.challenges, (JsMap.size_delete_le _ _).trans hremoved.sessions⟩

/-! ### Challenges -/

/-- A challenge that `challenge` issued in the run `ls`. -/
def Challenged (C : SessionConfig) (ls : List SessionEvent) (ch : Challenge) : Prop :=
  ∃ input issuedAt challengeId nonce, .challenge (some input) issuedAt challengeId nonce ∈ ls ∧
    input.accepted = true ∧ ch = newChallenge C input issuedAt challengeId nonce

/-- The ids drawn in a run. -/
def challengeIds (ls : List SessionEvent) : List String :=
  ls.filterMap fun
    | .challenge _ _ challengeId _ => some challengeId
    | _ => none

theorem Challenged.mem {ch : Challenge} (h : Challenged C ls ch) : ch.challengeId ∈ challengeIds ls := by
  obtain ⟨input, issuedAt, challengeId, nonce, hmem, -, rfl⟩ := h
  exact List.mem_filterMap.mpr ⟨_, hmem, rfl⟩

theorem Challenged.mono {ch : Challenge} {ms : List SessionEvent} (h : Challenged C ls ch) (hsub : ls ⊆ ms) :
    Challenged C ms ch := by
  obtain ⟨input, issuedAt, challengeId, nonce, hmem, haccepted, heq⟩ := h
  exact ⟨input, issuedAt, challengeId, nonce, hsub hmem, haccepted, heq⟩

/-- A challenge is stored under its id until one call of `verify` takes it. -/
structure Taken (C : SessionConfig) (ls : List SessionEvent) (M : WalletSessionManager) : Prop where
  stored : ∀ id ch, M.challenges.get id = some ch → ch.challengeId = id ∧ Challenged C ls ch
  taken : ∀ (i : ℕ) (v : Verification) ch, M.verifications[i]? = some v → v.challenge = some ch →
    v.challengeId = ch.challengeId ∧ Challenged C ls ch ∧ M.challenges.get ch.challengeId = none
  once : ∀ (i j : ℕ) (v w : Verification) ch ch', M.verifications[i]? = some v → M.verifications[j]? = some w →
    v.challenge = some ch → w.challenge = some ch' → ch.challengeId = ch'.challengeId → i = j

/-- Nothing is stored or taken anew. -/
theorem Taken.shrink {ms : List SessionEvent} (h : Taken C ls M) (hsub : ls ⊆ ms)
    (hchallenges : ∀ id ch, M'.challenges.get id = some ch → M.challenges.get id = some ch)
    (hverifications : ∀ (i : ℕ) (w : Verification), M'.verifications[i]? = some w →
      ∃ v, M.verifications[i]? = some v ∧ v.challenge = w.challenge ∧ v.challengeId = w.challengeId) : Taken C ms M' where
  stored id ch hget := by
    obtain ⟨hid, hissued⟩ := h.stored id ch (hchallenges id ch hget)
    exact ⟨hid, hissued.mono hsub⟩
  taken i w ch hw hch := by
    obtain ⟨v, hv, hsame, hid⟩ := hverifications i w hw
    obtain ⟨hnamed, hissued, hnone⟩ := h.taken i v ch hv (hsame.trans hch)
    refine ⟨hid.symm.trans hnamed, hissued.mono hsub, Option.eq_none_iff_forall_ne_some.mpr fun ch' hget => ?_⟩
    rw [hchallenges _ ch' hget] at hnone
    cases hnone
  once i j w w' ch ch' hw hw' hch hch' hid := by
    obtain ⟨v, hv, hsame, -⟩ := hverifications i w hw
    obtain ⟨v', hv', hsame', -⟩ := hverifications j w' hw'
    exact h.once i j v v' ch ch' hv hv' (hsame.trans hch) (hsame'.trans hch') hid

theorem add_cases {v w : Verification} {i : ℕ} (h : (addVerification M v).verifications[i]? = some w) :
    M.verifications[i]? = some w ∨ (i = M.verifications.length ∧ w = v) := by
  unfold addVerification at h
  dsimp only at h
  rw [List.getElem?_append] at h
  split_ifs at h with hi
  · exact Or.inl h
  · obtain ⟨hlt, rfl⟩ := List.getElem?_eq_some_iff.mp h
    simp only [List.length_singleton] at hlt
    exact Or.inr ⟨by omega, by simp⟩

/-- A call of `verify` takes a challenge that no other has. -/
theorem Taken.add {v : Verification} (h : Taken C ls M) (hv : ∀ ch, v.challenge = some ch →
      v.challengeId = ch.challengeId ∧ Challenged C ls ch ∧ M.challenges.get ch.challengeId = none ∧
        ∀ (i : ℕ) (w : Verification) ch', M.verifications[i]? = some w → w.challenge = some ch' →
          ch'.challengeId ≠ ch.challengeId) : Taken C ls (addVerification M v) where
  stored := h.stored
  taken i w ch hw hch := by
    obtain hold | ⟨-, rfl⟩ := add_cases hw
    · exact h.taken i w ch hold hch
    · obtain ⟨hnamed, hissued, hnone, -⟩ := hv ch hch
      exact ⟨hnamed, hissued, hnone⟩
  once i j w w' ch ch' hw hw' hch hch' hid := by
    obtain hold | ⟨hi, rfl⟩ := add_cases hw
    · obtain hold' | ⟨-, rfl⟩ := add_cases hw'
      · exact h.once i j w w' ch ch' hold hold' hch hch' hid
      · exact absurd hid ((hv ch' hch').2.2.2 i w ch hold hch)
    · obtain hold' | ⟨hj, -⟩ := add_cases hw'
      · exact absurd hid.symm ((hv ch hch).2.2.2 j w' ch' hold' hch')
      · rw [hi, hj]

theorem Taken.step (h : Taken C ls M) {l : SessionEvent} (hnodup : (challengeIds (ls ++ [l])).Nodup) :
    Taken C (ls ++ [l]) (sessionStep C M l) := by
  have hsub : ls ⊆ ls ++ [l] := List.subset_append_left _ _
  have hsame : ∀ {M' : WalletSessionManager}, M'.verifications = M.verifications →
      ∀ (i : ℕ) (w : Verification), M'.verifications[i]? = some w →
        ∃ v, M.verifications[i]? = some v ∧ v.challenge = w.challenge ∧ v.challengeId = w.challengeId :=
    fun heq i w hw => ⟨w, heq ▸ hw, rfl, rfl⟩
  have hkeeps : ∀ (now : ℕ) (retained : Option String) {id : String} {ch : Challenge},
      (removeExpired M now retained).challenges.get id = some ch → M.challenges.get id = some ch :=
    fun _ _ _ _ hget => (removeExpired_challenges.mp hget).1
  cases l with
  | challenge raw issuedAt challengeId nonce =>
    show Taken C _ (challenge C M raw issuedAt challengeId nonce).2
    unfold Assistant.challenge
    split
    · exact h.shrink hsub (fun _ _ hget => hget) (hsame rfl)
    next input hinput =>
      obtain ⟨rfl, haccepted⟩ := Option.filter_eq_some_iff.mp hinput
      have hremoved : Taken C (ls ++ [.challenge (some input) issuedAt challengeId nonce]) (removeExpired M issuedAt none) :=
        h.shrink hsub (fun _ _ hget => hkeeps issuedAt none hget) (hsame rfl)
      dsimp only
      split_ifs
      · exact hremoved
      · have hfresh : challengeId ∉ challengeIds ls := by
          intro hmem
          rw [challengeIds, List.filterMap_append, List.nodup_append] at hnodup
          exact hnodup.2.2 challengeId hmem challengeId (by simp) rfl
        refine ⟨fun id ch hget => ?_, fun i v ch hv hch => ?_, hremoved.once⟩
        · rw [JsMap.get_set] at hget
          split_ifs at hget with hid
          · obtain rfl := Option.some.inj hget
            exact ⟨hid, input, issuedAt, challengeId, nonce, by simp, haccepted, rfl⟩
          · exact hremoved.stored id ch hget
        · obtain ⟨hnamed, hissued, hnone⟩ := hremoved.taken i v ch hv hch
          have hold := ((h.taken i v ch hv hch).2.1).mem
          refine ⟨hnamed, hissued, ?_⟩
          rw [JsMap.get_set, if_neg fun heq : challengeId = ch.challengeId => hfresh (heq ▸ hold)]
          exact hnone
  | verify challengeId signature startedAt =>
    show Taken C _ (verify M challengeId signature startedAt)
    unfold Assistant.verify
    split
    · exact (h.shrink hsub (fun _ _ hget => hget) (hsame rfl)).add fun _ hch => (nomatch hch)
    next ch hget =>
      obtain ⟨rfl, hissued⟩ := h.stored challengeId ch hget
      have hdeleted : Taken C (ls ++ [.verify ch.challengeId signature startedAt])
          (removeExpired { M with challenges := M.challenges.delete ch.challengeId } startedAt none) := by
        refine h.shrink hsub (fun id ch' hget' => ?_) (hsame rfl)
        have hafter := (removeExpired_challenges.mp hget').1
        rw [JsMap.get_delete] at hafter
        split_ifs at hafter
        exact hafter
      have hadd : ∀ stage, Taken C (ls ++ [.verify ch.challengeId signature startedAt])
          (addVerification (removeExpired { M with challenges := M.challenges.delete ch.challengeId } startedAt none)
            ⟨ch.challengeId, signature, some ch, stage⟩) := by
        refine fun stage => hdeleted.add fun ch' hch' => ?_
        obtain rfl := Option.some.inj hch'
        refine ⟨rfl, hissued.mono hsub, Option.eq_none_iff_forall_ne_some.mpr fun other hother => ?_, fun i w other hw hother => ?_⟩
        · have hafter := (removeExpired_challenges.mp hother).1
          rw [JsMap.get_delete, if_pos rfl] at hafter
          cases hafter
        · -- what is still stored has not been taken
          intro hid
          have hnone := (h.taken i w other hw hother).2.2
          rw [hid, hget] at hnone
          cases hnone
      dsimp only
      split_ifs
      · exact hadd _
      · exact hadd _
  | credential call answer =>
    show Taken C _ (credentialAnswers M call answer)
    obtain heq | ⟨v, stage, hv, -, heq⟩ := credentialAnswers_cases M call answer
    · rw [heq]
      exact h.shrink hsub (fun _ _ hget => hget) (hsame rfl)
    · rw [heq]
      exact h.shrink hsub (fun _ _ hget => hget) fun i w hw => setStage_challenge hv hw
  | signature call answer checked issuedAt token sessionId =>
    show Taken C _ (signatureAnswers C M call answer checked issuedAt token sessionId)
    obtain heq | ⟨v, ch, hv, -, -, ⟨e, M', hM', heq⟩ | ⟨-, -, -, heq⟩⟩ :=
      signatureAnswers_cases C M call answer checked issuedAt token sessionId
    · rw [heq]
      exact h.shrink hsub (fun _ _ hget => hget) (hsame rfl)
    · rw [heq]
      obtain rfl | rfl := hM'
      · exact h.shrink hsub (fun _ _ hget => hget) fun i w hw => setStage_challenge hv hw
      · exact h.shrink hsub (fun _ _ hget => hkeeps issuedAt none hget) fun i w hw => setStage_challenge hv hw
    · rw [heq]
      exact h.shrink hsub (fun _ _ hget => hkeeps issuedAt none hget) fun i w hw => setStage_challenge hv hw
  | require token now =>
    show Taken C _ (requireSession C M token now).2
    unfold requireSession
    dsimp only
    split
    · exact h.shrink hsub (fun _ _ hget => hget) (hsame rfl)
    · split_ifs
      · exact h.shrink hsub (fun _ _ hget => hkeeps now (some (C.digest token)) hget) (hsame rfl)
      · exact h.shrink hsub (fun _ _ hget => hkeeps now (some (C.digest token)) hget) (hsame rfl)
  | logout token now =>
    exact h.shrink hsub (fun _ _ hget => hkeeps now none hget) (hsame rfl)

theorem taken_after (C : SessionConfig) (ls : List SessionEvent) (hnodup : (challengeIds ls).Nodup) :
    Taken C ls (managerAfter C ls) := by
  induction ls using List.reverseRecOn with
  | nil => exact ⟨fun _ _ h => by simp [managerAfter, newManager] at h, fun _ _ _ h => by simp [managerAfter, newManager] at h,
      fun _ _ _ _ _ _ h => by simp [managerAfter, newManager] at h⟩
  | append_singleton ls l ih =>
    rw [managerAfter_concat]
    refine (ih ?_).step hnodup
    rw [challengeIds, List.filterMap_append] at hnodup
    exact hnodup.of_append_left

/-! ### Sessions -/

/-- A relation of every session to the challenge that its call of `verify` took. -/
def AllYielded (P : Challenge → ActorSession → Prop) (M : WalletSessionManager) : Prop :=
  ∀ v ∈ M.verifications, ∀ token session, v.stage = .settled (.ok (token, session)) →
    ∃ ch, v.challenge = some ch ∧ P ch session

theorem AllYielded.setStage {P : Challenge → ActorSession → Prop} (h : AllYielded P M)
    (hM' : M'.verifications = M.verifications) {call : ℕ} {v : Verification} {stage : VerifyStage}
    (hstage : ∀ token session, stage = .settled (.ok (token, session)) → ∃ ch, v.challenge = some ch ∧ P ch session) :
    AllYielded P (setStage M' call v stage) := by
  intro w hw token session hsettled
  have hw' : w ∈ M.verifications.set call { v with stage := stage } := by
    rw [← hM']
    exact hw
  obtain hold | rfl := List.mem_or_eq_of_mem_set hw'
  · exact h w hold token session hsettled
  · exact hstage token session hsettled

/-- What holds where a session is issued holds of all sessions. -/
theorem AllYielded.step {P : Challenge → ActorSession → Prop} (h : AllYielded P M) {l : SessionEvent}
    (hissued : ∀ call checked issuedAt token sessionId v ch,
      l = .signature call (some true) checked issuedAt token sessionId → M.verifications[call]? = some v →
      v.challenge = some ch → checked < ch.expiresAt → P ch (sessionOf C ch issuedAt sessionId)) :
    AllYielded P (sessionStep C M l) := by
  have hadd : ∀ {M' : WalletSessionManager} {v : Verification}, M'.verifications = M.verifications →
      (∀ token session, v.stage ≠ .settled (.ok (token, session))) → AllYielded P (addVerification M' v) := by
    intro M' v heq hv w hw token session hsettled
    obtain hold | hnew := List.mem_append.mp hw
    · exact h w (heq ▸ hold) token session hsettled
    · rw [List.mem_singleton.mp hnew] at hsettled
      exact absurd hsettled (hv token session)
  cases l with
  | challenge raw issuedAt challengeId nonce =>
    show AllYielded P (challenge C M raw issuedAt challengeId nonce).2
    unfold Assistant.challenge
    split
    · exact h
    · dsimp only
      split_ifs
      · exact h
      · exact h
  | verify challengeId signature startedAt =>
    show AllYielded P (verify M challengeId signature startedAt)
    unfold Assistant.verify
    split
    · exact hadd rfl fun _ _ hsettled => (nomatch hsettled)
    · dsimp only
      split_ifs
      · exact hadd rfl fun _ _ hsettled => (nomatch hsettled)
      · exact hadd rfl fun _ _ hsettled => (nomatch hsettled)
  | credential call answer =>
    show AllYielded P (credentialAnswers M call answer)
    obtain heq | ⟨v, stage, -, hstage, heq⟩ := credentialAnswers_cases M call answer
    · rw [heq]
      exact h
    · rw [heq]
      exact h.setStage rfl fun token session hsettled => absurd hsettled (hstage token session)
  | signature call answer checked issuedAt token sessionId =>
    show AllYielded P (signatureAnswers C M call answer checked issuedAt token sessionId)
    obtain heq | ⟨v, ch, hv, hch, -, ⟨e, M', hM', heq⟩ | ⟨hanswer, hchecked, -, heq⟩⟩ :=
      signatureAnswers_cases C M call answer checked issuedAt token sessionId
    · rw [heq]
      exact h
    · rw [heq]
      obtain rfl | rfl := hM'
      · exact h.setStage rfl fun _ _ hsettled => (nomatch hsettled)
      · exact h.setStage rfl fun _ _ hsettled => (nomatch hsettled)
    · rw [heq]
      refine h.setStage rfl fun token' session hsettled => ⟨ch, hch, ?_⟩
      obtain ⟨-, rfl⟩ := Prod.mk.inj (Except.ok.inj (VerifyStage.settled.inj hsettled))
      exact hissued call checked issuedAt token sessionId v ch (by rw [hanswer]) hv hch hchecked
  | require token now =>
    show AllYielded P (requireSession C M token now).2
    unfold requireSession
    dsimp only
    split
    · exact h
    · split_ifs
      · exact h
      · exact h
  | logout token now => exact h

/-- A stored session was stored before and was not logged out, or is issued by the event. -/
theorem sessions_step (C : SessionConfig) (M : WalletSessionManager) (l : SessionEvent) {key : String}
    {session : ActorSession} (h : (sessionStep C M l).sessions.get key = some session) :
    (M.sessions.get key = some session ∧ ∀ token now, l = .logout token now → C.digest token ≠ key) ∨
      ∃ call ch token, C.digest token = key ∧ Yields C M l call ch token session := by
  cases l with
  | challenge raw issuedAt challengeId nonce =>
    refine Or.inl ⟨?_, fun _ _ heq => (nomatch heq)⟩
    change (challenge C M raw issuedAt challengeId nonce).2.sessions.get key = some session at h
    unfold Assistant.challenge at h
    split at h
    · exact h
    · dsimp only at h
      split_ifs at h
      · exact (removeExpired_sessions.mp h).1
      · exact (removeExpired_sessions.mp h).1
  | verify challengeId signature startedAt =>
    refine Or.inl ⟨?_, fun _ _ heq => (nomatch heq)⟩
    change (verify M challengeId signature startedAt).sessions.get key = some session at h
    unfold Assistant.verify at h
    split at h
    · exact h
    · dsimp only at h
      split_ifs at h
      · exact (removeExpired_sessions.mp h).1
      · exact (removeExpired_sessions.mp h).1
  | credential call answer =>
    refine Or.inl ⟨?_, fun _ _ heq => (nomatch heq)⟩
    change (credentialAnswers M call answer).sessions.get key = some session at h
    obtain heq | ⟨v, stage, -, -, heq⟩ := credentialAnswers_cases M call answer
    · rwa [heq] at h
    · rw [heq] at h
      exact h
  | signature call answer checked issuedAt token sessionId =>
    have hstep : sessionStep C M (.signature call answer checked issuedAt token sessionId) =
        signatureAnswers C M call answer checked issuedAt token sessionId := rfl
    rw [hstep] at h
    obtain heq | ⟨v, ch, hv, hch, hpending, ⟨e, M', hM', heq⟩ | ⟨rfl, hchecked, -, heq⟩⟩ :=
      signatureAnswers_cases C M call answer checked issuedAt token sessionId
    · rw [heq] at h
      exact Or.inl ⟨h, fun _ _ heq => (nomatch heq)⟩
    · rw [heq] at h
      have hM : M'.sessions.get key = some session := h
      refine Or.inl ⟨?_, fun _ _ heq => (nomatch heq)⟩
      obtain rfl | rfl := hM'
      · exact hM
      · exact (removeExpired_sessions.mp hM).1
    · rw [heq] at h
      have hset : ((removeExpired M issuedAt none).sessions.set (C.digest token)
          (sessionOf C ch issuedAt sessionId)).get key = some session := h
      rw [JsMap.get_set] at hset
      split_ifs at hset with hkey
      · obtain rfl := Option.some.inj hset
        refine Or.inr ⟨call, ch, token, hkey, ⟨v, hv, hch, hpending⟩, ?_, checked, issuedAt, sessionId, rfl, hchecked, rfl⟩
        refine ⟨{ v with stage := .settled (.ok (token, sessionOf C ch issuedAt sessionId)) }, ?_, hch, rfl⟩
        rw [hstep, heq]
        exact List.getElem?_set_self (List.getElem?_eq_some_iff.mp hv).1
      · exact Or.inl ⟨(removeExpired_sessions.mp hset).1, fun _ _ heq => (nomatch heq)⟩
  | require token now =>
    refine Or.inl ⟨?_, fun _ _ heq => (nomatch heq)⟩
    change (requireSession C M token now).2.sessions.get key = some session at h
    unfold requireSession at h
    dsimp only at h
    split at h
    · exact h
    · split_ifs at h
      · rw [JsMap.get_delete] at h
        split_ifs at h
        exact (removeExpired_sessions.mp h).1
      · exact (removeExpired_sessions.mp h).1
  | logout token now =>
    have hdelete : ((removeExpired M now none).sessions.delete (C.digest token)).get key = some session := h
    rw [JsMap.get_delete] at hdelete
    split_ifs at hdelete with hkey
    refine Or.inl ⟨(removeExpired_sessions.mp hdelete).1, fun token' now' heq => ?_⟩
    obtain ⟨rfl, rfl⟩ := SessionEvent.logout.inj heq
    exact hkey

/-- A session that `verify` issued under the digest of `token`, and since then nobody logged it out. -/
def Standing (C : SessionConfig) (ls : List SessionEvent) (key token : String) (session : ActorSession) : Prop :=
  ∃ ms l rest call ch, ls = ms ++ l :: rest ∧ C.digest token = key ∧ Yields C (managerAfter C ms) l call ch token session ∧
    ∀ token' now, .logout token' now ∈ rest → C.digest token' ≠ key

theorem standing_after (C : SessionConfig) (ls : List SessionEvent) : ∀ key session,
    (managerAfter C ls).sessions.get key = some session → ∃ token, Standing C ls key token session := by
  induction ls using List.reverseRecOn with
  | nil => exact fun key session h => by simp [managerAfter, newManager] at h
  | append_singleton ls l ih =>
    intro key session h
    rw [managerAfter_concat] at h
    obtain ⟨hget, hlogout⟩ | ⟨call, ch, token, hkey, hyields⟩ := sessions_step C (managerAfter C ls) l h
    · obtain ⟨token, ms, k, rest, call, ch, rfl, hkey, hyields, hrest⟩ := ih key session hget
      refine ⟨token, ms, k, rest ++ [l], call, ch, by simp, hkey, hyields, fun token' now hmem => ?_⟩
      obtain hold | hnew := List.mem_append.mp hmem
      · exact hrest token' now hold
      · exact hlogout token' now (List.mem_singleton.mp hnew).symm
    · exact ⟨token, ls, l, [], call, ch, rfl, hkey, hyields, fun _ _ hmem => (nomatch hmem)⟩

theorem requireSession_ok {token : String} {now : ℕ} {session : ActorSession}
    (h : (requireSession C M token now).1 = .ok session) :
    M.sessions.get (C.digest token) = some session ∧ now < session.expiresAt := by
  unfold requireSession at h
  dsimp only at h
  split at h
  · cases h
  next found hget =>
    split_ifs at h with hexpired
    obtain rfl := Except.ok.inj h
    exact ⟨hget, not_le.mp hexpired⟩

/-! ### Runs -/

/-- The session belongs to the identity that was challenged. -/
structure Own (C : SessionConfig) (ch : Challenge) (session : ActorSession) : Prop where
  actorId : session.actorId = ch.actorId
  organizationId : session.organizationId = ch.organizationId
  credentialId : session.credentialId = ch.credentialId
  address : session.address = ch.address
  expiresAt : session.expiresAt = session.issuedAt + C.sessionLifetimeSeconds

/-- What holds of the manager after the run `ls`, whatever the clock reads. -/
structure Governed (C : SessionConfig) (ls : List SessionEvent) : Prop where
  /-- Of the calls of `verify` for a challenge at most one issues a session. -/
  once : ∀ (i j : ℕ) (v w : Verification) token token' session session',
    (managerAfter C ls).verifications[i]? = some v → (managerAfter C ls).verifications[j]? = some w →
    v.stage = .settled (.ok (token, session)) → w.stage = .settled (.ok (token', session')) →
    v.challengeId = w.challengeId → i = j
  /-- A session is issued for a challenge of its own identity. -/
  own : ∀ v ∈ (managerAfter C ls).verifications, ∀ token session, v.stage = .settled (.ok (token, session)) →
    ∃ ch, v.challenge = some ch ∧ v.challengeId = ch.challengeId ∧ Challenged C ls ch ∧ Own C ch session
  bounded : Bounded C (managerAfter C ls)
  /-- `require` returns only what `verify` issued for the token, before the expiry
  and not logged out since. -/
  required : ∀ token now session, (requireSession C (managerAfter C ls) token now).1 = .ok session →
    now < session.expiresAt ∧ ∃ ms l rest call ch, ls = ms ++ l :: rest ∧
      Yields C (managerAfter C ms) l call ch token session ∧ ∀ now', .logout token now' ∉ rest

/-- At the end of a call of `verify` the clock does not pass the expiry of the
challenge between the two readings. -/
def Unpassed (M : WalletSessionManager) : SessionEvent → Prop
  | .signature call _ checked issuedAt _ _ => ∀ v ch, M.verifications[call]? = some v → v.challenge = some ch →
    checked < ch.expiresAt → issuedAt < ch.expiresAt
  | _ => True

/-- Every session is issued before the expiry of its challenge. -/
def IssuedInTime (M : WalletSessionManager) : Prop := AllYielded (fun ch session => session.issuedAt < ch.expiresAt) M

theorem allYielded_new (P : Challenge → ActorSession → Prop) : AllYielded P newManager := fun _ hv => (nomatch hv)

theorem own_after (C : SessionConfig) (ls : List SessionEvent) : AllYielded (Own C) (managerAfter C ls) :=
  run_invariant (I := AllYielded (Own C)) (fun _ _ h => h.step fun _ _ _ _ _ _ _ _ _ _ _ => ⟨rfl, rfl, rfl, rfl, rfl⟩) ls
    (allYielded_new _)

theorem bounded_after (C : SessionConfig) (ls : List SessionEvent) : Bounded C (managerAfter C ls) :=
  run_invariant (I := Bounded C) (fun _ l h => h.step l) ls ⟨Nat.zero_le _, Nat.zero_le _⟩

/-- Where the readings agree, sessions are issued in time. -/
theorem issuedInTime_after (C : SessionConfig) (ls : List SessionEvent)
    (h : Guarded (sessionStep C) Unpassed newManager ls) : IssuedInTime (managerAfter C ls) := by
  refine run_guarded (I := IssuedInTime) (fun M l hguard hM => ?_) ls h (allYielded_new _)
  refine hM.step fun call checked issuedAt token sessionId v ch hl hv hch hchecked => ?_
  subst hl
  exact hguard v ch hv hch hchecked

theorem governed_after (C : SessionConfig) (ls : List SessionEvent) (hdigest : Function.Injective C.digest)
    (hids : (challengeIds ls).Nodup) : Governed C ls where
  once i j v w token token' session session' hv hw hsettled hsettled' hid := by
    have htaken := taken_after C ls hids
    obtain ⟨ch, hch, -⟩ := own_after C ls v (List.mem_of_getElem? hv) token session hsettled
    obtain ⟨ch', hch', -⟩ := own_after C ls w (List.mem_of_getElem? hw) token' session' hsettled'
    have hnamed := (htaken.taken i v ch hv hch).1
    have hnamed' := (htaken.taken j w ch' hw hch').1
    exact htaken.once i j v w ch ch' hv hw hch hch' (by rw [← hnamed, hid, hnamed'])
  own v hv token session hsettled := by
    obtain ⟨ch, hch, hown⟩ := own_after C ls v hv token session hsettled
    obtain ⟨i, hi⟩ := List.getElem?_of_mem hv
    obtain ⟨hnamed, hissued, -⟩ := (taken_after C ls hids).taken i v ch hi hch
    exact ⟨ch, hch, hnamed, hissued, hown⟩
  bounded := bounded_after C ls
  required token now session h := by
    obtain ⟨hget, hnow⟩ := requireSession_ok h
    obtain ⟨token', ms, l, rest, call, ch, hls, hkey, hyields, hrest⟩ := standing_after C ls _ session hget
    obtain rfl := hdigest hkey
    exact ⟨hnow, ms, l, rest, call, ch, hls, hyields, fun now' hmem => hrest token' now' hmem rfl⟩

/-- **Wallet sessions.** Every run of the manager is governed, and where the clock
does not pass an expiry between the two last readings of `verify`, every session is
issued before the expiry of its challenge. -/
theorem sessions_sound (C : SessionConfig) (ls : List SessionEvent) (hdigest : Function.Injective C.digest)
    (hids : (challengeIds ls).Nodup) :
    Governed C ls ∧ (Guarded (sessionStep C) Unpassed newManager ls → IssuedInTime (managerAfter C ls)) :=
  ⟨governed_after C ls hdigest hids, issuedInTime_after C ls⟩

/-! A manager with the default limits; one wallet that signs in. -/

def defaultSessions : SessionConfig where
  digest := id
  challengeLifetimeSeconds := 300
  maxChallenges := 1024
  maxSessions := 1024
  sessionLifetimeSeconds := 900
  challengeLifetime_pos := by decide
  maxChallenges_pos := by decide
  maxSessions_pos := by decide
  sessionLifetime_pos := by decide

def walletIdentity : Identity := ⟨"urn:evllm:actor:1", "urn:evllm:org:1", "urn:evllm:credential:1",
  "0x0000000000000000000000000000000000000001"⟩

/-- The wallet signs in; the clock reads `checked` and `issuedAt` at the end. -/
def signIn (checked issuedAt : ℕ) : List SessionEvent :=
  [.challenge (some walletIdentity) 0 "challenge" "nonce", .verify "challenge" "signature" 1, .credential 0 (some true),
    .signature 0 (some true) checked issuedAt "token" "session"]

/-- Signed in at once, the session is issued in time and can be used. -/
theorem signIn_sound : Governed defaultSessions (signIn 2 2) ∧ IssuedInTime (managerAfter defaultSessions (signIn 2 2)) ∧
    (requireSession defaultSessions (managerAfter defaultSessions (signIn 2 2)) "token" 3).1.isOk = true := by
  obtain ⟨hgoverned, hintime⟩ := sessions_sound defaultSessions (signIn 2 2) Function.injective_id (by decide)
  refine ⟨hgoverned, hintime ?_, by decide +kernel⟩
  refine ⟨trivial, trivial, trivial, fun v ch hv hch _ => ?_, trivial⟩
  have hexpiry : ((managerAfter defaultSessions (signIn 2 2 |>.take 3)).verifications[0]?.bind
      Verification.challenge).map Challenge.expiresAt = some 300 := by decide +kernel
  have hv' : (managerAfter defaultSessions (signIn 2 2 |>.take 3)).verifications[0]? = some v := hv
  rw [hv', Option.bind_some, hch, Option.map_some] at hexpiry
  rw [Option.some.inj hexpiry]
  decide

/-- When a session was issued. -/
def Verification.issuedAt (v : Verification) : Option ℕ :=
  match v.stage with
  | .settled (.ok (_, session)) => some session.issuedAt
  | _ => none

/-- **A session issued at the expiry of its challenge**: the clock reads 299 where
the expiry is checked and 300 where the session is issued. -/
theorem session_issued_late :
    [0, 1, 299, 300].Pairwise (· ≤ ·) ∧
      (managerAfter defaultSessions (signIn 299 300)).verifications.map
        (fun v => (v.challenge.map Challenge.expiresAt, v.issuedAt)) = [(some 300, some 300)] ∧
      ¬IssuedInTime (managerAfter defaultSessions (signIn 299 300)) := by
  have hlate : (managerAfter defaultSessions (signIn 299 300)).verifications.map
      (fun v => (v.challenge.map Challenge.expiresAt, v.issuedAt)) = [(some 300, some 300)] := by decide +kernel
  refine ⟨by decide, hlate, fun hintime => ?_⟩
  obtain ⟨v, hverifications, hv⟩ := List.map_eq_singleton_iff.mp hlate
  obtain ⟨hexpiry, hissued⟩ := Prod.mk.inj hv
  unfold Verification.issuedAt at hissued
  split at hissued
  next token session hsettled =>
    obtain ⟨ch, hch, hlt⟩ := hintime v (by rw [hverifications]; exact List.mem_singleton_self v) token session hsettled
    rw [hch] at hexpiry
    have hexpires : ch.expiresAt = 300 := Option.some.inj hexpiry
    have hissuedAt : session.issuedAt = 300 := Option.some.inj hissued
    omega
  · cases hissued

end Assistant
end Evllm
