/-
# What the wallet signs

The message of a challenge has a line for each field of the identity. The
schema asks the ids for their prefixes only, so an id may hold a line feed and
what looks like the next field. The message determines the identity just if no
id holds the marker of a field that can be read there: the organization's in the
actor or the organization, the credential's in the organization or the
credential.

Key definitions: `Identity.Unambiguous`.
Key theorems: `newChallenge_message_eq`, `message_determines_iff`.
-/
import Evllm.Assistant.Sessions
import Evllm.Lib.Marker

namespace Evllm
namespace Assistant

open Lib

/-! ### The message -/

def organizationField : List Char := '\n' :: "organization=".toList

def credentialField : List Char := '\n' :: "credential=".toList

def organizationPrefix : List Char := "urn:evllm:org:".toList

def credentialPrefix : List Char := "urn:evllm:credential:".toList

/-- The lines of the ids. -/
def idLines (actor organization credential : List Char) : List Char :=
  actor ++ (organizationField ++ (organization ++ (credentialField ++ credential)))

def Identity.idLines (input : Identity) : List Char :=
  Assistant.idLines input.actorId.toList input.organizationId.toList input.credentialId.toList

variable {C : SessionConfig} {M M' : WalletSessionManager} {a b : Identity}

theorem toList_intercalate_newline (first : String) (rest : List String) :
    ("\n".intercalate (first :: rest)).toList = first.toList ++ rest.flatMap fun line => '\n' :: line.toList := by
  rw [String.toList_intercalate]
  induction rest generalizing first with
  | nil => simp
  | cons second rest ih =>
    simp only [List.map_cons] at ih ⊢
    rw [List.intercalate_cons_cons, ih second, List.flatMap_cons, List.append_assoc]
    rfl

theorem newChallenge_message (C : SessionConfig) (input : Identity) (issuedAt : ℕ) (challengeId nonce : String) :
    (newChallenge C input issuedAt challengeId nonce).message.toList =
      "EVLLM wallet session v1".toList ++ '\n' :: ("challenge=" ++ challengeId).toList ++ '\n' :: "actor=".toList ++
        (input.idLines ++ ('\n' :: ("address=" ++ input.address).toList) ++
          ('\n' :: ("nonce=" ++ nonce).toList ++
            '\n' :: ("expires_at=" ++ toString (issuedAt + C.challengeLifetimeSeconds)).toList)) := by
  rw [newChallenge, toList_intercalate_newline]
  simp only [List.flatMap_cons, List.flatMap_nil, String.toList_append, Identity.idLines, idLines, organizationField,
    credentialField, List.append_assoc, List.cons_append, List.append_nil]

theorem address_length (h : a.accepted) : a.address.toList.length = 42 := by
  have haddress : isAddress a.address := (of_decide_eq_true h).2.2.2
  unfold isAddress at haddress
  split at haddress
  next digits heq =>
    rw [heq, List.length_cons, List.length_cons, (of_decide_eq_true haddress).1]
  · cases haddress

/-- What the prefixes of an accepted identity are. -/
structure Prefixed (input : Identity) : Prop where
  actor : "urn:evllm:actor:".toList <+: input.actorId.toList
  organization : organizationPrefix <+: input.organizationId.toList
  credential : credentialPrefix <+: input.credentialId.toList

theorem accepted_iff : a.accepted ↔ Prefixed a ∧ isAddress a.address := by
  unfold Identity.accepted
  simp only [String.startsWith_string_iff, decide_eq_true_eq]
  exact ⟨fun ⟨h, h', h'', haddress⟩ => ⟨⟨h, h', h''⟩, haddress⟩, fun ⟨⟨h, h', h''⟩, haddress⟩ => ⟨h, h', h'', haddress⟩⟩

/-- With the same challenge id, nonce and expiry, messages are equal just if the
lines of the ids and the addresses are. -/
theorem newChallenge_message_eq {C' : SessionConfig} {issuedAt issuedAt' : ℕ} {challengeId nonce : String}
    (ha : a.accepted) (hb : b.accepted)
    (hexpiry : issuedAt' + C'.challengeLifetimeSeconds = issuedAt + C.challengeLifetimeSeconds) :
    (newChallenge C' b issuedAt' challengeId nonce).message = (newChallenge C a issuedAt challengeId nonce).message ↔
      b.idLines = a.idLines ∧ b.address = a.address := by
  rw [← String.toList_inj, newChallenge_message, newChallenge_message, hexpiry, List.append_cancel_left_eq,
    List.append_cancel_right_eq]
  simp only [String.toList_append]
  constructor
  · intro h
    have hlength : ('\n' :: ("address=".toList ++ b.address.toList)).length =
        ('\n' :: ("address=".toList ++ a.address.toList)).length := by
      simp only [List.length_cons, List.length_append, address_length ha, address_length hb]
    obtain ⟨hlines, haddress⟩ := List.append_inj' h hlength
    exact ⟨hlines, String.toList_inj.mp (List.append_cancel_left (List.cons.inj haddress).2)⟩
  · rintro ⟨hlines, haddress⟩
    rw [hlines, haddress]

/-! ### The markers of the fields -/

def organizationMarker : List Char := organizationField ++ organizationPrefix

def credentialMarker : List Char := credentialField ++ credentialPrefix

/-- No id holds the marker of a field that can be read there. -/
structure Identity.Unambiguous (input : Identity) : Prop where
  actor : ¬organizationMarker <:+: input.actorId.toList
  organization : ¬organizationMarker <:+: input.organizationId.toList
  organizationCredential : ¬credentialMarker <:+: input.organizationId.toList
  credential : ¬credentialMarker <:+: input.credentialId.toList

theorem organizationMarker_eq : ∃ v, organizationMarker = '\n' :: v ∧ '\n' ∉ v :=
  ⟨"organization=".toList ++ organizationPrefix, rfl, by decide⟩

theorem credentialMarker_eq : ∃ v, credentialMarker = '\n' :: v ∧ '\n' ∉ v :=
  ⟨"credential=".toList ++ credentialPrefix, rfl, by decide⟩

/-- The markers are not the same. -/
theorem markers_differ {x y : List Char} : credentialMarker ++ x ≠ organizationMarker ++ y := by
  intro h
  have hsecond := congrArg (fun l => l[1]?) h
  have hcredential : (credentialMarker ++ x)[1]? = some 'c' := rfl
  have horganization : (organizationMarker ++ y)[1]? = some 'o' := rfl
  simp only [hcredential, horganization] at hsecond
  cases hsecond

/-- The lines of the ids, with the markers. -/
theorem idLines_markers (actor organization credential : List Char) :
    idLines actor (organizationPrefix ++ organization) (credentialPrefix ++ credential) =
      actor ++ (organizationMarker ++ (organization ++ (credentialMarker ++ credential))) := by
  simp only [idLines, organizationMarker, credentialMarker, List.append_assoc]

/-- Lines without the markers of a field in another one are read in one way. -/
theorem idLines_inj {A A' o o' c c' : List Char} (hactor : ¬organizationMarker <:+: A)
    (horganization : ¬organizationMarker <:+: o) (hcredential : ¬credentialMarker <:+: o)
    (hcredential' : ¬credentialMarker <:+: c)
    (h : A ++ (organizationMarker ++ (o ++ (credentialMarker ++ c))) =
      A' ++ (organizationMarker ++ (o' ++ (credentialMarker ++ c')))) : A = A' ∧ o = o' ∧ c = c' := by
  obtain ⟨v, hv, hvnot⟩ := organizationMarker_eq
  obtain ⟨w, hw, hwnot⟩ := credentialMarker_eq
  rw [hv] at h
  obtain ⟨rfl, hrest⟩ | ⟨x, hx, -⟩ | ⟨x, -, hx⟩ := marker_cases hvnot hvnot h
  · rw [List.append_cancel_left_eq, hw] at hrest
    obtain ⟨rfl, hend⟩ | ⟨x, hx, -⟩ | ⟨x, -, hx⟩ := marker_cases hwnot hwnot hrest
    · exact ⟨rfl, rfl, List.append_cancel_left hend⟩
    · exact absurd ⟨o', x, by rw [hx, hw, List.append_assoc]⟩ hcredential
    · exact absurd ⟨x, c', by rw [hx, hw, List.append_assoc]⟩ hcredential'
  · exact absurd ⟨A', x, by rw [hx, hv, List.append_assoc]⟩ hactor
  · -- the other organization begins after the first one: in it, or in the credential
    rw [hw] at hx
    obtain ⟨-, hsame⟩ | ⟨y, hy, -⟩ | ⟨y, -, hy⟩ := marker_cases hwnot hvnot hx
    · rw [← hw, ← hv] at hsame
      exact absurd hsame markers_differ
    · exact absurd ⟨x, y, by rw [hy, hv, List.append_assoc]⟩ horganization
    · refine absurd ⟨y ++ (organizationMarker ++ o'), c', ?_⟩ hcredential'
      rw [hy, hv, hw]
      simp only [List.append_assoc]

/-! ### Another reading -/

/-- An identity with these ids and the address of an accepted one. -/
theorem exists_identity (ha : a.accepted) (actor organization credential : List Char)
    (hactor : "urn:evllm:actor:".toList <+: actor) (horganization : organizationPrefix <+: organization)
    (hcredential : credentialPrefix <+: credential) (hlines : idLines actor organization credential = a.idLines)
    (hne : actor ≠ a.actorId.toList ∨ organization ≠ a.organizationId.toList) :
    ∃ b : Identity, b.accepted ∧ b.idLines = a.idLines ∧ b.address = a.address ∧ b ≠ a := by
  refine ⟨⟨String.ofList actor, String.ofList organization, String.ofList credential, a.address⟩, ?_, ?_, rfl, ?_⟩
  · exact accepted_iff.mpr ⟨⟨by simpa using hactor, by simpa using horganization, by simpa using hcredential⟩,
      (accepted_iff.mp ha).2⟩
  · simpa [Identity.idLines] using hlines
  · intro heq
    have hactor' := congrArg (fun input : Identity => input.actorId.toList) heq
    have horganization' := congrArg (fun input : Identity => input.organizationId.toList) heq
    simp only [String.toList_ofList] at hactor' horganization'
    exact hne.elim (fun h => h hactor') fun h => h horganization'

theorem marker_ne_nil {marker : List Char} (h : ∃ v, marker = '\n' :: v ∧ '\n' ∉ v) : marker ≠ [] := by
  obtain ⟨v, rfl, -⟩ := h
  exact List.cons_ne_nil _ _

theorem prefix_before_field {p x y marker : List Char} (hp : '\n' ∉ p) (h : ∃ v, marker = '\n' :: v ∧ '\n' ∉ v)
    (hbegins : p <+: x ++ (marker ++ y)) : p <+: x := by
  obtain ⟨v, rfl, -⟩ := h
  exact prefix_before_marker hp hbegins

/-- What stands before something is not all. -/
theorem ne_append_of_ne_nil {x y z : List Char} (h : y ≠ []) : x ≠ x ++ (y ++ z) := by
  intro heq
  have hnil : y ++ z = [] := List.append_right_eq_self.mp heq.symm
  exact h (List.append_eq_nil_iff.mp hnil).1

/-- A field that stands in an id can be read as one. -/
theorem exists_other (ha : a.accepted) (h : ¬a.Unambiguous) :
    ∃ b : Identity, b.accepted ∧ b.idLines = a.idLines ∧ b.address = a.address ∧ b ≠ a := by
  obtain ⟨⟨hactor, horganization, hcredential⟩, -⟩ := accepted_iff.mp ha
  by_cases hin : organizationMarker <:+: a.actorId.toList
  · obtain ⟨x, y, hxy⟩ := hin
    rw [List.append_assoc] at hxy
    refine exists_identity ha x (organizationPrefix ++ (y ++ (organizationField ++ a.organizationId.toList)))
      a.credentialId.toList ?_ (List.prefix_append _ _) hcredential ?_ (.inl ?_)
    · exact prefix_before_field (by decide) organizationMarker_eq (hxy ▸ hactor)
    · simp only [Identity.idLines, ← hxy, idLines, organizationMarker, List.append_assoc]
    · rw [← hxy]
      exact ne_append_of_ne_nil (marker_ne_nil organizationMarker_eq)
  by_cases hin' : organizationMarker <:+: a.organizationId.toList
  · obtain ⟨x, y, hxy⟩ := hin'
    rw [List.append_assoc] at hxy
    refine exists_identity ha (a.actorId.toList ++ (organizationField ++ x)) (organizationPrefix ++ y)
      a.credentialId.toList (hactor.trans (List.prefix_append _ _)) (List.prefix_append _ _) hcredential ?_ (.inl ?_)
    · simp only [Identity.idLines, ← hxy, idLines, organizationMarker, List.append_assoc]
    · exact (ne_append_of_ne_nil (List.cons_ne_nil _ _)).symm
  by_cases hlater : credentialMarker <:+: a.organizationId.toList
  · obtain ⟨x, y, hxy⟩ := hlater
    rw [List.append_assoc] at hxy
    refine exists_identity ha a.actorId.toList x (credentialPrefix ++ (y ++ (credentialField ++ a.credentialId.toList)))
      hactor ?_ (List.prefix_append _ _) ?_ (.inr ?_)
    · exact prefix_before_field (by decide) credentialMarker_eq (hxy ▸ horganization)
    · simp only [Identity.idLines, ← hxy, idLines, credentialMarker, List.append_assoc]
    · rw [← hxy]
      exact ne_append_of_ne_nil (marker_ne_nil credentialMarker_eq)
  by_cases hlast : credentialMarker <:+: a.credentialId.toList
  · obtain ⟨x, y, hxy⟩ := hlast
    rw [List.append_assoc] at hxy
    refine exists_identity ha a.actorId.toList (a.organizationId.toList ++ (credentialField ++ x)) (credentialPrefix ++ y)
      hactor (horganization.trans (List.prefix_append _ _)) (List.prefix_append _ _) ?_ (.inr ?_)
    · simp only [Identity.idLines, ← hxy, idLines, credentialMarker, List.append_assoc]
    · exact (ne_append_of_ne_nil (List.cons_ne_nil _ _)).symm
  exact absurd ⟨hin, hin', hlater, hlast⟩ h

/-- The lines of an unambiguous identity are those of no other one. -/
theorem Identity.Unambiguous.eq (h : a.Unambiguous) (ha : a.accepted) (hb : b.accepted)
    (hlines : b.idLines = a.idLines) (haddress : b.address = a.address) : b = a := by
  obtain ⟨⟨-, ⟨o, ho⟩, c, hc⟩, -⟩ := accepted_iff.mp ha
  obtain ⟨⟨-, ⟨o', ho'⟩, c', hc'⟩, -⟩ := accepted_iff.mp hb
  simp only [Identity.idLines, ← ho, ← hc, ← ho', ← hc', idLines_markers] at hlines
  have hnot : ∀ {marker p x y : List Char}, p ++ x = y → ¬marker <:+: y → ¬marker <:+: x :=
    fun heq hy hx => hy (heq ▸ hx.trans (List.suffix_append _ _).isInfix)
  obtain ⟨hactor, rfl, rfl⟩ := idLines_inj h.actor (hnot ho h.organization) (hnot ho h.organizationCredential)
    (hnot hc h.credential) hlines.symm
  obtain ⟨actor, organization, credential, address⟩ := a
  obtain ⟨actor', organization', credential', address'⟩ := b
  obtain rfl := String.toList_inj.mp hactor
  obtain rfl := String.toList_inj.mp (ho.symm.trans ho')
  obtain rfl := String.toList_inj.mp (hc.symm.trans hc')
  cases haddress
  rfl

/-! ### Challenges -/

/-- A challenge is issued for an accepted identity where there is room. -/
theorem challenge_eq_ok {raw : Option Identity} {issuedAt : ℕ} {challengeId nonce : String} {offered : OfferedChallenge} :
    (challenge C M raw issuedAt challengeId nonce).1 = .ok offered ↔
      ∃ input, raw = some input ∧ input.accepted ∧ (removeExpired M issuedAt none).challenges.size < C.maxChallenges ∧
        offered = ⟨challengeId, (newChallenge C input issuedAt challengeId nonce).message,
          issuedAt + C.challengeLifetimeSeconds⟩ := by
  unfold challenge
  cases hraw : raw.filter Identity.accepted with
  | none =>
    refine iff_of_false (fun h => by cases h) ?_
    rintro ⟨input, rfl, haccepted, -⟩
    simp [haccepted] at hraw
  | some input =>
    obtain ⟨hsome, haccepted⟩ := Option.filter_eq_some_iff.mp hraw
    subst hsome
    simp only
    split_ifs with hfull
    · refine iff_of_false (fun h => by cases h) ?_
      rintro ⟨_, -, -, hroom, -⟩
      exact absurd hroom (not_lt.mpr hfull)
    · constructor
      · intro h
        cases h
        exact ⟨input, rfl, haccepted, not_le.mp hfull, rfl⟩
      · rintro ⟨other, hother, -, -, rfl⟩
        cases hother
        rfl

/-- **What the message of a challenge determines.** A challenge is issued for an
identity. No other challenge with its id, nonce, expiry and message is issued
for a different identity, just if the identity is unambiguous. -/
theorem message_determines_iff {issuedAt : ℕ} {challengeId nonce : String} {offered : OfferedChallenge}
    (h : (challenge C M (some a) issuedAt challengeId nonce).1 = .ok offered) :
    (∀ (C' : SessionConfig) (M' : WalletSessionManager) (b : Identity) (issuedAt' : ℕ) (offered' : OfferedChallenge),
        (challenge C' M' (some b) issuedAt' challengeId nonce).1 = .ok offered' →
          offered'.expiresAt = offered.expiresAt → offered'.message = offered.message → b = a) ↔
      a.Unambiguous := by
  obtain ⟨_, heq, ha, hroom, rfl⟩ := challenge_eq_ok.mp h
  cases heq
  constructor
  · intro hall
    by_contra hnot
    obtain ⟨b, hb, hlines, haddress, hne⟩ := exists_other ha hnot
    refine hne (hall C M b issuedAt _ (challenge_eq_ok.mpr ⟨b, rfl, hb, hroom, rfl⟩) rfl ?_)
    exact (newChallenge_message_eq ha hb rfl).mpr ⟨hlines, haddress⟩
  · intro hunambiguous C' M' b issuedAt' offered' hoffered hexpiry hmessage
    obtain ⟨_, heq, hb, -, rfl⟩ := challenge_eq_ok.mp hoffered
    cases heq
    obtain ⟨hlines, haddress⟩ := (newChallenge_message_eq ha hb hexpiry).mp hmessage
    exact hunambiguous.eq ha hb hlines haddress

/-! Ids without line feeds, and two readings of one message. -/

theorem walletIdentity_determined : (∃ offered,
      (challenge defaultSessions newManager (some walletIdentity) 0 "challenge" "nonce").1 = .ok offered) ∧
    walletIdentity.Unambiguous ∧
    ∀ (b : Identity) (offered : OfferedChallenge),
      (challenge defaultSessions newManager (some walletIdentity) 0 "challenge" "nonce").1 = .ok offered →
        (challenge defaultSessions newManager (some b) 0 "challenge" "nonce").1 = .ok offered → b = walletIdentity := by
  have hunambiguous : walletIdentity.Unambiguous :=
    ⟨by decide +kernel, by decide +kernel, by decide +kernel, by decide +kernel⟩
  have haccepted : walletIdentity.accepted := by decide +kernel
  refine ⟨⟨_, challenge_eq_ok.mpr ⟨walletIdentity, rfl, haccepted, by decide, rfl⟩⟩, hunambiguous, ?_⟩
  intro b offered h hb
  exact (message_determines_iff h).mpr hunambiguous defaultSessions newManager b 0 offered hb rfl rfl

/-- The organization is `y`. -/
def readIdentity : Identity := ⟨"urn:evllm:actor:a\norganization=urn:evllm:org:x", "urn:evllm:org:y",
  "urn:evllm:credential:1", "0x0000000000000000000000000000000000000001"⟩

/-- The organization begins with `x`. -/
def otherIdentity : Identity := ⟨"urn:evllm:actor:a", "urn:evllm:org:x\norganization=urn:evllm:org:y",
  "urn:evllm:credential:1", "0x0000000000000000000000000000000000000001"⟩

theorem message_read_twice : ∃ offered,
    (challenge defaultSessions newManager (some readIdentity) 0 "challenge" "nonce").1 = .ok offered ∧
      (challenge defaultSessions newManager (some otherIdentity) 0 "challenge" "nonce").1 = .ok offered ∧
      readIdentity.actorId ≠ otherIdentity.actorId ∧ readIdentity.organizationId ≠ otherIdentity.organizationId := by
  have hread : readIdentity.accepted := by decide +kernel
  have hother : otherIdentity.accepted := by decide +kernel
  have hmessage : (newChallenge defaultSessions otherIdentity 0 "challenge" "nonce").message =
      (newChallenge defaultSessions readIdentity 0 "challenge" "nonce").message :=
    (newChallenge_message_eq hread hother rfl).mpr ⟨by decide +kernel, rfl⟩
  refine ⟨_, challenge_eq_ok.mpr ⟨readIdentity, rfl, hread, by decide, rfl⟩, ?_, by decide, by decide⟩
  exact challenge_eq_ok.mpr ⟨otherIdentity, rfl, hother, by decide, by rw [hmessage]⟩

end Assistant
end Evllm
