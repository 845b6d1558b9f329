/-
# What a package says of itself

The payload that `prepare` commits to contains a reference to the bundle it is
in (`src/schemas/domain-payloads.ts`). The same facts stand in the additional
data that is authenticated with the content and in the context in which the
content key is wrapped. The schema binds the type of the bundle and the id of
its resource to the payload, `prepare` takes the bundle, the content schema and
the criticality profile from the reference, and nothing compares the rest.

Key definitions: `ProtectedBundleRef`, `parseEvidenceClaim`, `Describes`,
`SaysWhatIsAsked`, `PreparedBy`.
Key theorems: `packaged_after`, `package_describes_itself`.
-/
import Evllm.Evidence.PreparationReplay

namespace Evllm
namespace Evidence

open Lib Contracts

/-! ### The payload -/

inductive BundleType where
  | evidence
  | verification
  | assessment
  | assistantSupport
  | listing
  | agreement
  | dispute
  | logistics
  | audit
  | authoritativeSource
  deriving DecidableEq, Repr

/-- `protectedBundleRef`, without its constant schema. -/
structure ProtectedBundleRef where
  bundleId : String
  bundleVersion : ℕ
  bundleType : BundleType
  domainResourceId : String
  domainResourceVersion : ℕ
  custodyControllerOrgId : String
  contentSchemaId : String
  contentSchemaVersion : String
  initialCriticalityClass : Criticality
  criticalityProfileId : String
  criticalityProfileVersion : ℕ
  deriving DecidableEq, Repr

/-- An evidence claim before it is parsed; `others` are its other fields. -/
structure EvidenceClaim where
  evidenceId : String
  evidenceVersion : ℕ
  others : String
  protectedBundleRef : ProtectedBundleRef
  deriving DecidableEq, Repr

/-- The schemas of the single fields, and JSON. -/
structure PayloadCodec where
  /-- Every field has the form that its own schema asks for. -/
  fields : EvidenceClaim → Bool
  /-- `canonicalJson`. -/
  canonicalJson : EvidenceClaim → String
  /-- `JSON.parse(bytes).protected_bundle_ref`. -/
  reference : Bytes → Option ProtectedBundleRef

variable (J : PayloadCodec)

/-- The refinement of `bindReference`. -/
def bindReference (value : EvidenceClaim) (bundleType : BundleType) (resourceId : String) : Bool :=
  value.protectedBundleRef.bundleType = bundleType ∧ value.protectedBundleRef.domainResourceId = resourceId

/-- `evidenceClaimPayload.parse`. -/
def parseEvidenceClaim (claim : EvidenceClaim) : Option EvidenceClaimPayload :=
  if J.fields claim ∧ bindReference claim .evidence claim.evidenceId then
    some {
      evidenceId := claim.evidenceId
      evidenceVersion := claim.evidenceVersion
      bundleId := claim.protectedBundleRef.bundleId
      contentSchemaId := claim.protectedBundleRef.contentSchemaId
      contentSchemaVersion := claim.protectedBundleRef.contentSchemaVersion
      criticalityProfileId := claim.protectedBundleRef.criticalityProfileId
      criticalityProfileVersion := claim.protectedBundleRef.criticalityProfileVersion
      text := J.canonicalJson claim }
  else none

/-- Canonical JSON is read back. -/
def PayloadCodec.Lawful : Prop :=
  ∀ claim payload, parseEvidenceClaim J claim = some payload →
    J.reference (utf8 payload.text) = some claim.protectedBundleRef

/-! ### What the reference says -/

/-- The constants of the authenticated data of an evidence bundle. -/
def ContentAad.bundleVersion (_ : ContentAad) : ℕ := 1

def ContentAad.bundleType (_ : ContentAad) : BundleType := .evidence

/-- Those of the contexts in which its key is wrapped. -/
def DekWrapContext.bundleVersion (_ : DekWrapContext) : ℕ := 1

def DekWrapContext.bundleType (_ : DekWrapContext) : BundleType := .evidence

/-- The reference agrees with the authenticated data. -/
structure AgreesWithAad (ref : ProtectedBundleRef) (aad : ContentAad) : Prop where
  bundleId : ref.bundleId = aad.bundleId
  bundleVersion : ref.bundleVersion = aad.bundleVersion
  bundleType : ref.bundleType = aad.bundleType
  domainResourceId : ref.domainResourceId = aad.domainResourceId
  domainResourceVersion : ref.domainResourceVersion = aad.domainResourceVersion
  custodyControllerOrgId : ref.custodyControllerOrgId = aad.custodyControllerOrgId
  contentSchemaId : ref.contentSchemaId = aad.contentSchemaId
  contentSchemaVersion : ref.contentSchemaVersion = aad.contentSchemaVersion
  initialCriticalityClass : ref.initialCriticalityClass = aad.initialCriticalityClass
  criticalityProfileId : ref.criticalityProfileId = aad.criticalityProfileId
  criticalityProfileVersion : ref.criticalityProfileVersion = aad.criticalityProfileVersion

/-- The reference agrees with the context in which the key is wrapped, whose
recipient is the custody controller. -/
structure AgreesWithContext (ref : ProtectedBundleRef) (context : DekWrapContext) : Prop where
  bundleId : ref.bundleId = context.bundleId
  bundleVersion : ref.bundleVersion = context.bundleVersion
  bundleType : ref.bundleType = context.bundleType
  domainResourceId : ref.domainResourceId = context.domainResourceId
  domainResourceVersion : ref.domainResourceVersion = context.domainResourceVersion
  custodyControllerOrgId : ref.custodyControllerOrgId = context.recipientOrgId

/-- The reference in the committed payload describes the package. -/
def Describes (record : PreparedInternal) : Prop :=
  ∃ ref, J.reference record.domainPayload = some ref ∧ AgreesWithAad ref record.aad ∧
    AgreesWithContext ref record.wrapContext

/-- The reference of the claim says what `prepare` is asked for. -/
structure SaysWhatIsAsked (claim : EvidenceClaim) (input : PrepareEvidenceInput) : Prop where
  bundleVersion : claim.protectedBundleRef.bundleVersion = 1
  domainResourceVersion : claim.protectedBundleRef.domainResourceVersion = claim.evidenceVersion
  custodyControllerOrgId : claim.protectedBundleRef.custodyControllerOrgId = input.controllerOrganizationId
  initialCriticalityClass : claim.protectedBundleRef.initialCriticalityClass = input.initialCriticality

variable {J}

theorem parseEvidenceClaim_eq_some {claim : EvidenceClaim} {payload : EvidenceClaimPayload}
    (h : parseEvidenceClaim J claim = some payload) :
    claim.protectedBundleRef.bundleType = .evidence ∧ claim.protectedBundleRef.domainResourceId = claim.evidenceId ∧
      payload = {
        evidenceId := claim.evidenceId
        evidenceVersion := claim.evidenceVersion
        bundleId := claim.protectedBundleRef.bundleId
        contentSchemaId := claim.protectedBundleRef.contentSchemaId
        contentSchemaVersion := claim.protectedBundleRef.contentSchemaVersion
        criticalityProfileId := claim.protectedBundleRef.criticalityProfileId
        criticalityProfileVersion := claim.protectedBundleRef.criticalityProfileVersion
        text := J.canonicalJson claim } := by
  unfold parseEvidenceClaim at h
  split_ifs at h with hchecks
  have hbound : claim.protectedBundleRef.bundleType = .evidence ∧
      claim.protectedBundleRef.domainResourceId = claim.evidenceId := by
    simpa [bindReference] using hchecks.2
  exact ⟨hbound.1, hbound.2, (Option.some.inj h).symm⟩

/-! ### Records over a run -/

/-- A context of the record's own bundle for its controller. -/
structure ForController (preparation : Preparation) (context : DekWrapContext) : Prop where
  bundleId : context.bundleId = preparation.bundleId
  domainResourceId : context.domainResourceId = preparation.resourceId
  domainResourceVersion : context.domainResourceVersion = preparation.resourceVersion
  recipientOrgId : context.recipientOrgId = preparation.controllerOrganizationId

/-- The record was prepared of this input, and its key may have been wrapped
again for its controller. -/
structure PackagedFrom (F : Externals) (input : PrepareEvidenceInput) (record : PreparedInternal) : Prop where
  preparation : ∃ config result,
    record.toPreparation = Evidence.preparation F config input (preparationFingerprint F input) result
  context : ForController record.toPreparation record.wrapContext

/-- A package of a parsed claim describes itself just if the claim says what
was asked for. -/
theorem describes_iff {F : Externals} {input : PrepareEvidenceInput} {record : PreparedInternal} {claim : EvidenceClaim}
    (hJ : J.Lawful) (hclaim : parseEvidenceClaim J claim = some input.evidencePayload)
    (h : PackagedFrom F input record) : Describes J record ↔ SaysWhatIsAsked claim input := by
  obtain ⟨⟨config, result, hpreparation⟩, hcontext⟩ := h
  obtain ⟨htype, hresource, hpayload⟩ := parseEvidenceClaim_eq_some hclaim
  have hread : J.reference record.domainPayload = some claim.protectedBundleRef := by
    rw [hpreparation]
    exact hJ claim _ hclaim
  have haad := congrArg Preparation.aad hpreparation
  have hbundle := hcontext.bundleId
  have hid := hcontext.domainResourceId
  have hversion := hcontext.domainResourceVersion
  have horganization := hcontext.recipientOrgId
  rw [hpreparation] at hbundle hid hversion horganization
  simp only [preparation, hpayload] at haad hbundle hid hversion horganization
  constructor
  · rintro ⟨ref, href, hagrees, -⟩
    rw [hread, Option.some.injEq] at href
    subst href
    have hresourceVersion := hagrees.domainResourceVersion
    have hcustody := hagrees.custodyControllerOrgId
    have hcriticality := hagrees.initialCriticalityClass
    rw [haad] at hresourceVersion hcustody hcriticality
    exact ⟨hagrees.bundleVersion, hresourceVersion, hcustody, hcriticality⟩
  · intro hasked
    refine ⟨_, hread, ?_, ?_⟩
    · constructor <;> rw [haad]
      exacts [hasked.bundleVersion, htype, hresource, hasked.domainResourceVersion, hasked.custodyControllerOrgId,
        hasked.initialCriticalityClass]
    · exact ⟨hbundle.symm, hasked.bundleVersion, htype, hresource.trans hid.symm,
        hasked.domainResourceVersion.trans hversion.symm, hasked.custodyControllerOrgId.trans horganization.symm⟩

/-- The context in which a call of a rotation wraps. -/
def Phase.context : Phase → Option DekWrapContext
  | .wrapping context | .verifying _ _ context | .rotated _ context => some context
  | _ => none

theorem context_of_outside {phase : Phase} (h : phase.outside) : phase.context = none := by
  cases phase <;> first | rfl | cases h

/-- Every record was prepared of an input that was asked for. -/
def Packaged (F : Externals) (ls : List Event) (service : BundleService) : Prop :=
  ∀ ref record, service.byBundle.deref ref = some record →
    ∃ i input, Event.prepare i input ∈ ls ∧ PackagedFrom F input record

/-- A call prepares what was asked for, and wraps for the controller of the
record that it rotates. -/
structure Packaging (F : Externals) (ls : List Event) (service : BundleService) (operation : Operation) (phase : Phase) :
    Prop where
  asked : ∀ input fingerprint hash, operation = .prepare input fingerprint hash →
    (∃ i, Event.prepare i input ∈ ls) ∧ fingerprint = preparationFingerprint F input
  rotating : ∀ input ref context, operation = .rotate input ref → phase.context = some context →
    ∃ record, service.byBundle.deref ref = some record ∧ ForController record.toPreparation context

section

variable {F : Externals} {configs : ℕ → Config} {config : Config} {ls : List Event} {service service' : BundleService}
variable {operation : Operation} {phase phase' : Phase} {result : AwaitResult}

theorem Packaged.of_eq (h : Packaged F ls service) (heq : service'.byBundle = service.byBundle) : Packaged F ls service' := by
  intro ref record hrecord
  rw [heq] at hrecord
  exact h ref record hrecord

theorem Packaged.mutate (h : Packaged F ls service) {ref : Ref} {f : PreparedInternal → PreparedInternal}
    (heq : service'.byBundle = service.byBundle.mutate ref f)
    (hf : ∀ record, service.byBundle.deref ref = some record → (f record).toPreparation = record.toPreparation ∧
      (ForController record.toPreparation record.wrapContext → ForController record.toPreparation (f record).wrapContext)) :
    Packaged F ls service' := by
  intro ref' record hrecord
  rw [heq, ObjectMap.deref_mutate] at hrecord
  split_ifs at hrecord with href
  · subst href
    obtain ⟨old, hold, rfl⟩ := Option.map_eq_some_iff.mp hrecord
    obtain ⟨i, input, hasked, hpreparation, hcontext⟩ := h ref old hold
    obtain ⟨hsame, hwrap⟩ := hf old hold
    refine ⟨i, input, hasked, ?_, ?_⟩
    · rwa [hsame]
    · rw [hsame]
      exact hwrap hcontext
  · exact h ref' record hrecord

theorem packaged_assignReplica (h : Packaged F ls service) (ref : Ref) (replicaObjectId : String) :
    Packaged F ls (service.assignReplica ref replicaObjectId) :=
  h.mutate rfl fun _ _ => ⟨rfl, id⟩

theorem Packaging.mono (h : Packaging F ls service operation phase) (hkeeps : Keeps service service') :
    Packaging F ls service' operation phase := by
  refine ⟨h.asked, fun input ref context hop hphase => ?_⟩
  obtain ⟨record, hrecord, hcontext⟩ := h.rotating input ref context hop hphase
  obtain ⟨record', hrecord', hsame, -⟩ := hkeeps ref record hrecord
  exact ⟨record', hrecord', hsame ▸ hcontext⟩

theorem Packaging.of_context_none (h : Packaging F ls service operation phase) (hphase : phase'.context = none) :
    Packaging F ls service operation phase' := by
  refine ⟨h.asked, fun input ref context hop hcontext => ?_⟩
  rw [hphase] at hcontext
  cases hcontext

theorem packaging_of_not_prepare (hprepare : ∀ input fingerprint hash, operation ≠ .prepare input fingerprint hash)
    (hphase : phase.context = none) : Packaging F ls service operation phase := by
  refine ⟨fun input fingerprint hash hop => absurd hop (hprepare input fingerprint hash), ?_⟩
  intro input ref context hop hcontext
  rw [hphase] at hcontext
  cases hcontext

/-- A call that goes on. -/
theorem Continued.packaged (h : Continued F config service operation phase result service' phase')
    (hI : Packaged F ls service) (hJ : Packaging F ls service operation phase) : Packaged F ls service' := by
  cases h with
  | waits | fails | rotationUnwraps | rotationWraps | rotationVerified | grantUnwraps | grants | grantVerified |
    retrieves => exact hI.of_eq rfl
  | prepares input fingerprint idempotencyHash phase stored registry staged =>
    obtain ⟨⟨i, hasked⟩, rfl⟩ := hJ.asked input fingerprint idempotencyHash rfl
    intro ref record hrecord
    rw [ObjectMap.deref_insert] at hrecord
    split_ifs at hrecord with href
    · cases hrecord
      exact ⟨i, input, hasked, ⟨config, stored, rfl⟩, ⟨rfl, rfl, rfl, rfl⟩⟩
    · exact hI ref record hrecord
  | replicates input ref record replicaObjectId held critical => exact packaged_assignReplica hI ref replicaObjectId
  | finalizes input ref phase result record registry held last activated => exact hI.mutate rfl fun _ _ => ⟨rfl, id⟩
  | promotes bundleId ref => exact hI.mutate rfl fun _ _ => ⟨rfl, id⟩
  | rotates input ref envelope context result =>
    obtain ⟨record, hrecord, hcontext⟩ := hJ.rotating input ref context rfl rfl
    refine hI.mutate rfl fun record' hrecord' => ⟨rfl, fun _ => ?_⟩
    rw [hrecord] at hrecord'
    cases hrecord'
    exact hcontext

theorem Continued.packaging (h : Continued F config service operation phase result service' phase')
    (hI : Packaged F ls service) (hJ : Packaging F ls service operation phase) : Packaging F ls service' operation phase' := by
  have hafter := hJ.mono h.keeps
  cases h with
  | waits => exact hafter
  | rotationUnwraps input ref record held =>
    obtain ⟨i, asked, hasked, -, hcontext⟩ := hI ref record held
    refine ⟨hafter.asked, ?_⟩
    rintro _ _ _ ⟨⟩ ⟨⟩
    exact ⟨record, held, hcontext.bundleId, hcontext.domainResourceId, hcontext.domainResourceVersion,
      hcontext.recipientOrgId⟩
  | rotationWraps input ref context envelope commitment suspended checked =>
    refine ⟨hafter.asked, ?_⟩
    rintro _ _ _ ⟨⟩ ⟨⟩
    exact hafter.rotating input ref context rfl rfl
  | rotationVerified input ref suspended envelope context answer registry resumed =>
    refine ⟨hafter.asked, ?_⟩
    rintro _ _ _ ⟨⟩ ⟨⟩
    exact hafter.rotating input ref context rfl rfl
  | grantUnwraps | grants => exact ⟨hafter.asked, fun _ _ _ hop => nomatch hop⟩
  | fails | prepares | replicates | finalizes | rotates | grantVerified | retrieves | promotes =>
    exact hafter.of_context_none rfl

theorem packaging_rule (F : Externals) (configs : ℕ → Config) (ls : List Event) :
    Rule F configs (fun _ event => event ∈ ls) (Packaged F ls) (Packaging F ls) Keeps where
  refl _ := .of_eq rfl
  mono _ _ _ _ hkeeps h := h.mono hkeeps
  nonces service stores h := ⟨h.of_eq rfl, .of_eq rfl⟩
  begins S event call hevent hbegins _ := by
    cases hbegins with
    | prepare i input phase first =>
      refine ⟨?_, fun _ _ _ hop => nomatch hop⟩
      rintro _ _ _ ⟨⟩
      exact ⟨⟨i, hevent⟩, rfl⟩
    | finalize i input ref request nonces phase outside => exact packaging_of_not_prepare nofun (context_of_outside outside)
    | rotate i input ref scope request nonces phase outside =>
      exact packaging_of_not_prepare nofun (context_of_outside outside)
    | grant i input ref scope request nonces phase outside =>
      exact packaging_of_not_prepare nofun (context_of_outside outside)
    | retrieve i input ref request nonces phase outside =>
      exact packaging_of_not_prepare nofun (context_of_outside outside)
  outside _ _ _ _ hphase h := h.of_context_none (context_of_outside hphase)
  promotes S i bundleId replicaObjectId ref record _ _ _ _ h :=
    ⟨packaged_assignReplica h ref replicaObjectId, keeps_assignReplica _ ref replicaObjectId,
      packaging_of_not_prepare nofun rfl⟩
  goesOn S c call result _ _ _ hI hJ := by
    have hcontinued : Continued F (configs call.service) (S.services call.service) call.operation call.phase result
        (call.next F configs S result).1 (call.next F configs S result).2 := continued_call call.operation
    exact ⟨hcontinued.packaged hI hJ, hcontinued.keeps, hcontinued.packaging hI hJ⟩
  registry S i event _ h := ⟨h.of_eq rfl, .of_eq rfl⟩

theorem packaged_after (F : Externals) (configs : ℕ → Config) (repository : Repository) (ls : List Event) :
    Holds (Packaged F ls) (Packaging F ls) (after F configs repository ls) := by
  refine (packaging_rule F configs ls).run ?_ (guarded_of_mem ls _ fun event hevent _ => hevent)
  intro ref record hrecord
  cases hrecord

end

/-! ### Preparations that succeed -/

/-- The event ends a call of `prepare` that succeeds with this record: a call
that repeats an earlier one is answered at once, any other stores a new record. -/
inductive PreparedBy (F : Externals) (configs : ℕ → Config) (S : System) :
    Event → PrepareEvidenceInput → PreparedInternal → Prop where
  | again (i : ℕ) (input : PrepareEvidenceInput) (existing : PreparedInternal)
      (length : input.idempotencyKey.length = 32)
      (found : ((S.services i).byIdempotency.get (F.sha256 input.idempotencyKey)).bind (S.services i).byBundle.deref =
        some existing)
      (same : existing.idempotencyFingerprint = preparationFingerprint F input) :
      PreparedBy F configs S (.prepare i input) input existing
  | first (c : ℕ) (call : Call) (input : PrepareEvidenceInput) (fingerprint hash : Bytes32) (result : ProtectionResult)
      (called : S.calls[c]? = some call) (prepares : call.operation = .prepare input fingerprint hash)
      (preparing : call.phase = .preparing) (stages : (S.services call.service).stages input result = true) :
      PreparedBy F configs S (.resume c (.stored result)) input
        (preparedRecord F (configs call.service) input fingerprint result)

/-- The answers of `prepare` are those. -/
theorem prepareAnswer_of_again {F : Externals} {configs : ℕ → Config} {S : System} {i : ℕ} {input : PrepareEvidenceInput}
    {record : PreparedInternal} (h : PreparedBy F configs S (.prepare i input) input record) :
    prepareAnswer F (S.services i) (.parsed input) = some (.ok (publicPreparation record)) := by
  cases h with
  | again _ _ _ length found same =>
    rw [prepareAnswer, if_neg (not_not.mpr length), found, Option.map_some, if_neg (not_not.mpr same)]

variable {F : Externals} {configs : ℕ → Config} {S : System} {ls : List Event}

/-- The record of a preparation that succeeds is packaged from its input. -/
theorem PreparedBy.packagedFrom (hS : Holds (Packaged F ls) (Packaging F ls) S) {event : Event}
    {input : PrepareEvidenceInput} {record : PreparedInternal} (h : PreparedBy F configs S event input record) :
    ∃ asked, PackagedFrom F asked record ∧ (asked = input ∨ (∃ i, Event.prepare i asked ∈ ls) ∧
      preparationFingerprint F asked = preparationFingerprint F input) := by
  cases h with
  | again i _ _ length found same =>
    obtain ⟨ref, -, hrecord⟩ := Option.bind_eq_some_iff.mp found
    obtain ⟨j, asked, hasked, hpackaged⟩ := hS.services i ref record hrecord
    refine ⟨asked, hpackaged, .inr ⟨⟨j, hasked⟩, ?_⟩⟩
    obtain ⟨config, result, hpreparation⟩ := hpackaged.preparation
    rw [← same, hpreparation]
    rfl
  | first c call _ fingerprint hash result called prepares =>
    obtain ⟨-, rfl⟩ := (hS.calls call (List.mem_of_getElem? called)).asked input fingerprint hash prepares
    exact ⟨input, ⟨⟨configs call.service, result, rfl⟩, ⟨rfl, rfl, rfl, rfl⟩⟩, .inl rfl⟩

/-- **A package describes itself just if its claim says what was asked for.**
After any run whose payloads were parsed: the reference in the committed payload
of a preparation that succeeds agrees with the authenticated data and with the
wrap context just if the claim's reference names version 1, the version of the
evidence, the controller's organization and the criticality of the call. -/
theorem package_describes_itself (hJ : J.Lawful) (F : Externals) (configs : ℕ → Config) (repository : Repository)
    (ls : List Event) {event : Event} {input : PrepareEvidenceInput} {record : PreparedInternal} {claim : EvidenceClaim}
    (hprepares : PreparedBy F configs (after F configs repository ls) event input record)
    (hclaim : parseEvidenceClaim J claim = some input.evidencePayload)
    (hfree : ∀ i asked, Event.prepare i asked ∈ ls → CollisionFree F input asked) :
    Describes J record ↔ SaysWhatIsAsked claim input := by
  obtain ⟨asked, hpackaged, rfl | ⟨⟨i, hasked⟩, hsame⟩⟩ :=
    hprepares.packagedFrom (packaged_after F configs repository ls)
  · exact describes_iff hJ hclaim hpackaged
  · -- the repeated call has the payload, the organization and the criticality of the first
    have hall := (hfree i asked hasked).fingerprint hsame
    have hpayload := (hfree i asked hasked).payload (congrArg PreparationFingerprint.domainPayloadSha256 hall)
    have horganization : asked.controllerOrganizationId = input.controllerOrganizationId :=
      congrArg PreparationFingerprint.controllerOrganizationId hall
    have hcriticality : asked.initialCriticality = input.initialCriticality :=
      congrArg PreparationFingerprint.initialCriticality hall
    rw [← hpayload] at hclaim
    rw [describes_iff hJ hclaim hpackaged]
    constructor
    · intro h
      exact ⟨h.bundleVersion, h.domainResourceVersion, h.custodyControllerOrgId.trans horganization,
        h.initialCriticalityClass.trans hcriticality⟩
    · intro h
      exact ⟨h.bundleVersion, h.domainResourceVersion, h.custodyControllerOrgId.trans horganization.symm,
        h.initialCriticalityClass.trans hcriticality.symm⟩

namespace Sample

def claim : EvidenceClaim where
  evidenceId := evidenceId
  evidenceVersion := 1
  others := payload.text
  protectedBundleRef := {
    bundleId := bundleId
    bundleVersion := 1
    bundleType := .evidence
    domainResourceId := evidenceId
    domainResourceVersion := 1
    custodyControllerOrgId := organizationId
    contentSchemaId := schemaId
    contentSchemaVersion := "1.0.0"
    initialCriticalityClass := .supplementary
    criticalityProfileId := profileId
    criticalityProfileVersion := 1 }

/-- JSON on the payload of the sample. -/
def payloadCodec : PayloadCodec where
  fields value := value = claim
  canonicalJson _ := payload.text
  reference _ := some claim.protectedBundleRef

theorem payloadCodec_lawful : payloadCodec.Lawful := by
  intro value parsed hparsed
  unfold parseEvidenceClaim at hparsed
  split_ifs at hparsed with hchecks
  have hvalue : value = claim := of_decide_eq_true hchecks.1
  rw [hvalue]
  rfl

theorem parse_claim : parseEvidenceClaim payloadCodec claim = some payload := by
  have hchecks : payloadCodec.fields claim = true ∧ bindReference claim .evidence claim.evidenceId = true :=
    ⟨by simp [payloadCodec], by simp [bindReference, claim]⟩
  rw [parseEvidenceClaim, if_pos hchecks]
  rfl

/-- The same claim, prepared as critical. -/
def criticalInput : PrepareEvidenceInput := { firstInput with initialCriticality := .decisionCritical }

/-- The digests, with that of its fingerprint. -/
def criticalExternals : Externals :=
  { externals with
    digest := fun object =>
      if object = .fingerprint (fingerprintOf externals criticalInput) then
        0xc881210335ec14e3973785afdd4669e4e2824c7854312704172a64764b62b224
      else externals.digest object }

/-- The events before the preparation is stored. -/
def askedFor (input : PrepareEvidenceInput) : List Event :=
  [.keyLifecycle 0 (.addKey ⟨keyId, organizationId, .active⟩), .prepare 0 input]

def packageOf (F : Externals) (input : PrepareEvidenceInput) : PreparedInternal :=
  preparedRecord F config input (preparationFingerprint F input) firstResult

theorem prepares_first : PreparedBy externals (fun _ => config)
    (after externals (fun _ => config) (.memory .empty ∅) (askedFor firstInput)) (.resume 0 (.stored firstResult))
    firstInput (packageOf externals firstInput) :=
  .first 0 ⟨0, .prepare firstInput (preparationFingerprint externals firstInput)
    (externals.sha256 firstInput.idempotencyKey), [], none, .preparing⟩ _ _ _ _ rfl rfl rfl rfl

theorem prepares_critical : PreparedBy criticalExternals (fun _ => config)
    (after criticalExternals (fun _ => config) (.memory .empty ∅) (askedFor criticalInput))
    (.resume 0 (.stored firstResult)) criticalInput (packageOf criticalExternals criticalInput) :=
  .first 0 ⟨0, .prepare criticalInput (preparationFingerprint criticalExternals criticalInput)
    (criticalExternals.sha256 criticalInput.idempotencyKey), [], none, .preparing⟩ _ _ _ _ rfl rfl rfl rfl

theorem collisionFree_self (input : PrepareEvidenceInput) : CollisionFree externals input input :=
  ⟨fun _ => rfl, fun _ => rfl, fun _ => rfl⟩

end Sample

theorem package_describes_itself_first : Describes Sample.payloadCodec (Sample.packageOf Sample.externals Sample.firstInput) := by
  refine (package_describes_itself Sample.payloadCodec_lawful Sample.externals (fun _ => Sample.config)
    (.memory .empty ∅) (Sample.askedFor Sample.firstInput) Sample.prepares_first Sample.parse_claim ?_).mpr ?_
  · rintro i asked hasked
    simp only [Sample.askedFor, List.mem_cons, List.not_mem_nil, or_false, reduceCtorEq, false_or,
      Event.prepare.injEq] at hasked
    rw [hasked.2]
    exact Sample.collisionFree_self _
  · exact ⟨rfl, rfl, rfl, rfl⟩

/-- The claim calls its bundle supplementary and is prepared as critical. -/
theorem package_misdescribed : Sample.payloadCodec.Lawful ∧
    parseEvidenceClaim Sample.payloadCodec Sample.claim = some Sample.criticalInput.evidencePayload ∧
    PreparedBy Sample.criticalExternals (fun _ => Sample.config)
      (after Sample.criticalExternals (fun _ => Sample.config) (.memory .empty ∅) (Sample.askedFor Sample.criticalInput))
      (.resume 0 (.stored Sample.firstResult)) Sample.criticalInput
      (Sample.packageOf Sample.criticalExternals Sample.criticalInput) ∧
    ¬Describes Sample.payloadCodec (Sample.packageOf Sample.criticalExternals Sample.criticalInput) := by
  refine ⟨Sample.payloadCodec_lawful, Sample.parse_claim, Sample.prepares_critical, ?_⟩
  rintro ⟨ref, href, haad, -⟩
  have hclass := haad.initialCriticalityClass
  rw [← Option.some.inj href] at hclass
  exact absurd hclass (by decide)

end Evidence
end Evllm
