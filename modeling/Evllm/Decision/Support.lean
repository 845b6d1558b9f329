/-
# The audit bundle of an assessment

`src/decision/support.ts` binds an assessment to the citations of its evidence
and of its rules, both sorted, under a hash. The evidence is ordered by
resource, version and what it supports, the rules likewise; citations that
differ in anything else tie, and stand in the order in which they were given.

The bytes that are hashed are the canonical JSON of the bundle, so the hash is a
parameter (`SupportEnvironment`), and may refuse a bundle.

Key definitions: `buildAssessmentAuditBundle`, `evidenceOrder`, `ruleOrder`,
`OrderFree`, `Separated`.
Key theorems: `validateAssessmentSupport_iff`, `auditBundle_order_free_iff`.
-/
import Evllm.Decision.Assessment
import Evllm.Decision.RuleRegistry
import Evllm.Lib.Collation
import Mathlib.Data.List.Lex

namespace Evllm
namespace Decision

open Lib

/-! ### Data -/

inductive CitationStatus where
  | active
  | superseded
  | revoked
  deriving DecidableEq, Repr

/-- A number that JSON can hold is finite. -/
structure SupportCitation where
  asOf : ℚ
  commitment : String
  custodianOrganizationId : String
  issuerOrganizationId : String
  resourceId : String
  resourceVersion : ℚ
  status : CitationStatus
  supports : List String
  deriving DecidableEq

structure RuleCitation where
  asOf : ℚ
  jurisdiction : String
  ruleId : String
  ruleVersion : ℚ
  sourceId : String
  sourceVersion : ℚ
  supports : List String
  deriving DecidableEq

/-- The bundle before its hash. -/
structure UnsignedBundle where
  auditId : String
  assessmentInputId : String
  assessmentInputVersion : ℕ
  assessmentReproductionHash : String
  evidenceCitations : List SupportCitation
  ruleCitations : List RuleCitation
  createdAt : ℚ
  deriving DecidableEq

structure AssessmentAuditBundle extends UnsignedBundle where
  bundleHash : String
  deriving DecidableEq

structure AuditInput where
  assessment : AssessmentResult
  auditId : String
  createdAt : ℚ
  evidenceCitations : List SupportCitation
  ruleCitations : List RuleCitation

/-- The codes of `SupportValidationError`, and what the canonical JSON throws. -/
inductive SupportError where
  | incomplete
  | invalid
  | stale
  | canonical (message : String)
  deriving DecidableEq, Repr

structure SupportEnvironment where
  /-- `sha256(canonicalJsonBytes(unsigned))`. -/
  bundleHash : UnsignedBundle → Except SupportError String
  /-- `left.localeCompare(right)`. -/
  localeCompare : String → String → ℤ

/-! ### Validation -/

def isUuidV4 (uuid : List Char) : Bool :=
  isUuid uuid && uuid[14]? = some '4' && uuid[19]?.any fun c => c ∈ ['8', '9', 'a', 'b']

/-- The pattern of the audit id. -/
def isAuditId (auditId : String) : Bool :=
  let start := "urn:evllm:audit:".toList
  start.isPrefixOf auditId.toList && isUuidV4 (auditId.toList.drop start.length)

def FormalRoute.text : FormalRoute → String
  | .continuedCompatibleEvUse => "continued-compatible-ev-use"
  | .stationaryStorageRepurposing => "stationary-storage-repurposing"
  | .recycling => "recycling"

def componentPath (route : FormalRoute) (component : String) : String := "routes." ++ route.text ++ "." ++ component

def components : List String := ["G", "C", "I", "E", "A", "U"]

def requiredPaths (assessment : AssessmentResult) : List String :=
  assessment.routes.flatMap fun route => components.map (componentPath route.routeId)

/-- A field that may not be empty is. -/
def SupportCitation.isBlank (c : SupportCitation) : Bool :=
  c.commitment = "" || c.custodianOrganizationId = "" || c.issuerOrganizationId = "" || c.resourceId = "" || c.supports = []

def RuleCitation.isBlank (c : RuleCitation) : Bool :=
  c.jurisdiction = "" || c.ruleId = "" || c.sourceId = "" || c.supports = []

def supportedPaths (evidenceCitations : List SupportCitation) (ruleCitations : List RuleCitation) : List String :=
  evidenceCitations.flatMap SupportCitation.supports ++ ruleCitations.flatMap RuleCitation.supports

def validateAssessmentSupport (assessment : AssessmentResult) (evidenceCitations : List SupportCitation)
    (ruleCitations : List RuleCitation) : Except SupportError Unit := do
  throwIf (∃ c ∈ evidenceCitations, c.status ≠ .active) .stale
  throwIf ((∃ c ∈ evidenceCitations, c.isBlank = true) ∨ ∃ c ∈ ruleCitations, c.isBlank = true) .invalid
  throwIf (∃ path ∈ requiredPaths assessment, path ∉ supportedPaths evidenceCitations ruleCitations) .incomplete

/-! ### Order -/

/-- `supports.join("\u0000")`. -/
def joined (supports : List String) : String := String.intercalate "\x00" supports

section Order

variable (localeCompare : String → String → ℤ)

/-- The sign of the comparator of `sortedEvidence`. -/
def evidenceOrder (left right : SupportCitation) : ℤ :=
  orElse (localeCompare left.resourceId right.resourceId)
    (orElse (compareBy SupportCitation.resourceVersion left right)
      (localeCompare (joined left.supports) (joined right.supports)))

/-- The sign of the comparator of `sortedRules`. -/
def ruleOrder (left right : RuleCitation) : ℤ :=
  orElse (localeCompare left.ruleId right.ruleId)
    (orElse (compareBy RuleCitation.ruleVersion left right)
      (localeCompare (joined left.supports) (joined right.supports)))

def sortedEvidence (citations : List SupportCitation) : List SupportCitation := sortBy (evidenceOrder localeCompare) citations

def sortedRules (citations : List RuleCitation) : List RuleCitation := sortBy (ruleOrder localeCompare) citations

end Order

/-! ### The bundle -/

def unsignedBundle (env : SupportEnvironment) (input : AuditInput) : UnsignedBundle where
  auditId := input.auditId
  assessmentInputId := input.assessment.assessmentInputId
  assessmentInputVersion := input.assessment.assessmentInputVersion
  assessmentReproductionHash := input.assessment.reproductionHash.value
  evidenceCitations := sortedEvidence env.localeCompare input.evidenceCitations
  ruleCitations := sortedRules env.localeCompare input.ruleCitations
  createdAt := input.createdAt

def buildAssessmentAuditBundle (env : SupportEnvironment) (input : AuditInput) : Except SupportError AssessmentAuditBundle := do
  throwIf (isAuditId input.auditId = false) .invalid
  validateAssessmentSupport input.assessment input.evidenceCitations input.ruleCitations
  let unsigned := unsignedBundle env input
  let bundleHash ← env.bundleHash unsigned
  return { unsigned with bundleHash := bundleHash }

variable {env : SupportEnvironment} {input : AuditInput} {bundle : AssessmentAuditBundle}

/-! ### The order of the citations -/

theorem collates_evidenceOrder {localeCompare : String → String → ℤ} (h : Collates localeCompare) :
    Collates (evidenceOrder localeCompare) :=
  (h.comap SupportCitation.resourceId).orElse
    ((collates_compareBy SupportCitation.resourceVersion).orElse (h.comap fun c : SupportCitation => joined c.supports))

theorem collates_ruleOrder {localeCompare : String → String → ℤ} (h : Collates localeCompare) :
    Collates (ruleOrder localeCompare) :=
  (h.comap RuleCitation.ruleId).orElse
    ((collates_compareBy RuleCitation.ruleVersion).orElse (h.comap fun c : RuleCitation => joined c.supports))

/-- The citations are as they should be, whatever their order. -/
structure ValidSupport (assessment : AssessmentResult) (evidenceCitations : List SupportCitation)
    (ruleCitations : List RuleCitation) : Prop where
  active : ∀ c ∈ evidenceCitations, c.status = .active
  evidence : ∀ c ∈ evidenceCitations, c.isBlank = false
  rules : ∀ c ∈ ruleCitations, c.isBlank = false
  complete : ∀ path ∈ requiredPaths assessment, path ∈ supportedPaths evidenceCitations ruleCitations

theorem validateAssessmentSupport_iff {assessment : AssessmentResult} {evidenceCitations : List SupportCitation}
    {ruleCitations : List RuleCitation} :
    validateAssessmentSupport assessment evidenceCitations ruleCitations = .ok ⟨⟩ ↔
      ValidSupport assessment evidenceCitations ruleCitations := by
  simp only [validateAssessmentSupport, bind_eq_ok, throwIf_eq_ok, not_or, not_exists, not_and, not_not,
    Bool.not_eq_true]
  constructor
  · rintro ⟨-, hactive, -, ⟨hevidence, hrules⟩, hcomplete⟩
    exact ⟨hactive, hevidence, hrules, hcomplete⟩
  · intro h
    exact ⟨⟨⟩, h.active, ⟨⟩, ⟨h.evidence, h.rules⟩, h.complete⟩

theorem ValidSupport.perm {assessment : AssessmentResult} {evidence evidence' : List SupportCitation}
    {rules rules' : List RuleCitation} (h : ValidSupport assessment evidence rules) (hevidence : evidence'.Perm evidence)
    (hrules : rules'.Perm rules) : ValidSupport assessment evidence' rules' where
  active c hc := h.active c (hevidence.mem_iff.mp hc)
  evidence c hc := h.evidence c (hevidence.mem_iff.mp hc)
  rules c hc := h.rules c (hrules.mem_iff.mp hc)
  complete path hpath := by
    have hsame : (supportedPaths evidence' rules').Perm (supportedPaths evidence rules) :=
      (hevidence.flatMap_right _).append (hrules.flatMap_right _)
    exact hsame.mem_iff.mpr (h.complete path hpath)

theorem buildAssessmentAuditBundle_iff : buildAssessmentAuditBundle env input = .ok bundle ↔
    isAuditId input.auditId = true ∧
      ValidSupport input.assessment input.evidenceCitations input.ruleCitations ∧
      bundle.toUnsignedBundle = unsignedBundle env input ∧ env.bundleHash (unsignedBundle env input) = .ok bundle.bundleHash := by
  simp only [buildAssessmentAuditBundle, bind_eq_ok, throwIf_eq_ok, pure_eq_ok, Bool.not_eq_false]
  constructor
  · rintro ⟨-, hid, ⟨⟩, hvalid, bundleHash, hhash, rfl⟩
    exact ⟨hid, validateAssessmentSupport_iff.mp hvalid, rfl, hhash⟩
  · rintro ⟨hid, hvalid, hunsigned, hhash⟩
    refine ⟨⟨⟩, hid, ⟨⟩, validateAssessmentSupport_iff.mpr hvalid, bundle.bundleHash, hhash, ?_⟩
    rw [← hunsigned]

/-- The lists may be given in any order. -/
def OrderFree (env : SupportEnvironment) (input : AuditInput) (bundle : AssessmentAuditBundle) : Prop :=
  ∀ evidence rules, evidence.Perm input.evidenceCitations → rules.Perm input.ruleCitations →
    buildAssessmentAuditBundle env { input with evidenceCitations := evidence, ruleCitations := rules } = .ok bundle

/-- Citations that tie are the same. -/
structure Separated (localeCompare : String → String → ℤ) (input : AuditInput) : Prop where
  evidence : ∀ a ∈ input.evidenceCitations, ∀ b ∈ input.evidenceCitations, evidenceOrder localeCompare a b = 0 → a = b
  rules : ∀ a ∈ input.ruleCitations, ∀ b ∈ input.ruleCitations, ruleOrder localeCompare a b = 0 → a = b

/-- **The order of the citations does not matter** just where no two that differ tie. -/
theorem auditBundle_order_free_iff (hcollates : Collates env.localeCompare)
    (h : buildAssessmentAuditBundle env input = .ok bundle) :
    OrderFree env input bundle ↔ Separated env.localeCompare input := by
  obtain ⟨hid, hvalid, hunsigned, hhash⟩ := buildAssessmentAuditBundle_iff.mp h
  constructor
  · intro hfree
    constructor
    · refine (sortBy_perm_iff (collates_evidenceOrder hcollates)).mp fun evidence hevidence => ?_
      obtain ⟨-, -, hagain, -⟩ := buildAssessmentAuditBundle_iff.mp (hfree evidence _ hevidence (List.Perm.refl _))
      exact congrArg UnsignedBundle.evidenceCitations (hagain.symm.trans hunsigned)
    · refine (sortBy_perm_iff (collates_ruleOrder hcollates)).mp fun rules hrules => ?_
      obtain ⟨-, -, hagain, -⟩ := buildAssessmentAuditBundle_iff.mp (hfree _ rules (List.Perm.refl _) hrules)
      exact congrArg UnsignedBundle.ruleCitations (hagain.symm.trans hunsigned)
  · intro hseparated evidence rules hevidence hrules
    have hsortedEvidence := (sortBy_perm_iff (collates_evidenceOrder hcollates)).mpr hseparated.evidence evidence hevidence
    have hsortedRules := (sortBy_perm_iff (collates_ruleOrder hcollates)).mpr hseparated.rules rules hrules
    have hsame : unsignedBundle env { input with evidenceCitations := evidence, ruleCitations := rules } =
        unsignedBundle env input := by
      simp only [unsignedBundle, sortedEvidence, sortedRules, hsortedEvidence, hsortedRules]
    refine buildAssessmentAuditBundle_iff.mpr ⟨hid, hvalid.perm hevidence hrules, ?_, ?_⟩
    · rw [hsame]
      exact hunsigned
    · rw [hsame]
      exact hhash

namespace Sample

def assessedRoute (routeId : FormalRoute) : RouteAssessmentResult where
  routeId := routeId
  G := .pass
  C := ⟨"50", "50", some "50"⟩
  I := []
  E := ⟨"EUR", "4.05", some (.finite 1)⟩
  A := ⟨"1", "1", "1", 0, [], .verified⟩
  U := ⟨"1", true, 1, []⟩
  reasonCodes := []

def assessed : AssessmentResult where
  assessmentInputId := "urn:evllm:assessment:1"
  assessmentInputVersion := 1
  decisionState := .abstain
  preferredRoute := none
  dominance := []
  routes := formalRoutes.map assessedRoute
  warnings := []
  reproductionHash := ⟨"SHA-256", "result"⟩

/-- Evidence for every component of every route. -/
def evidenceCitation (resourceId commitment : String) : SupportCitation :=
  ⟨100, commitment, "custodian", "issuer", resourceId, 1, .active, formalRoutes.flatMap fun route => components.map (componentPath route)⟩

/-- The rule, as one of its sources has it. -/
def ruleCitation (sourceId : String) : RuleCitation :=
  ⟨100, "EU", "rule", 1, sourceId, 1, ["routes.recycling.G"]⟩

def citedEvidence : List SupportCitation := [evidenceCitation "second" "b", evidenceCitation "first" "a"]

def auditInput (rules : List RuleCitation) : AuditInput where
  assessment := assessed
  auditId := "urn:evllm:audit:00000000-0000-4000-8000-000000000060"
  createdAt := 101
  evidenceCitations := citedEvidence
  ruleCitations := rules

/-- The hash is written out: the commitments and the sources, in order. -/
def supportEnvironment : SupportEnvironment where
  bundleHash unsigned := .ok (joined (unsigned.evidenceCitations.map SupportCitation.commitment ++
    unsigned.ruleCitations.map RuleCitation.sourceId))
  localeCompare := compareBy utf16

theorem collates_supportEnvironment : Collates supportEnvironment.localeCompare := collates_compareBy utf16

/-- The bundle that is built of the rules, in their order. -/
def auditBundle (rules : List RuleCitation) : AssessmentAuditBundle :=
  { unsignedBundle supportEnvironment (auditInput rules) with
    bundleHash := joined ((sortedEvidence supportEnvironment.localeCompare (auditInput rules).evidenceCitations).map
      SupportCitation.commitment ++ (sortedRules supportEnvironment.localeCompare rules).map RuleCitation.sourceId) }

theorem isAuditId_sample : isAuditId "urn:evllm:audit:00000000-0000-4000-8000-000000000060" = true := by decide +kernel

theorem citedEvidence_blank : ∀ c ∈ citedEvidence, c.isBlank = false := by decide +kernel

theorem builds_auditBundle {rules : List RuleCitation} (hrules : ∀ c ∈ rules, c.isBlank = false) :
    buildAssessmentAuditBundle supportEnvironment (auditInput rules) = .ok (auditBundle rules) := by
  refine buildAssessmentAuditBundle_iff.mpr
    ⟨isAuditId_sample, ⟨?_, citedEvidence_blank, hrules, fun path hpath => ?_⟩, rfl, rfl⟩
  · intro c hc
    obtain rfl | rfl : c = _ ∨ c = _ := by simpa [auditInput, citedEvidence] using hc
    · rfl
    · rfl
  · exact List.mem_append_left _ (List.mem_append_left _ hpath)

end Sample

theorem one_source_order_free : OrderFree Sample.supportEnvironment (Sample.auditInput [Sample.ruleCitation "source-41"])
    (Sample.auditBundle [Sample.ruleCitation "source-41"]) := by
  refine (auditBundle_order_free_iff Sample.collates_supportEnvironment
    (Sample.builds_auditBundle (by decide +kernel))).mpr ⟨fun a ha b hb htie => ?_, fun a ha b hb _ => ?_⟩
  · -- two citations of different resources do not tie
    have hresource : compareBy utf16 a.resourceId b.resourceId = 0 := (orElse_eq_zero.mp htie).1
    obtain rfl | rfl : a = _ ∨ a = _ := by simpa [Sample.auditInput, Sample.citedEvidence] using ha
    · obtain rfl | rfl : b = _ ∨ b = _ := by simpa [Sample.auditInput, Sample.citedEvidence] using hb
      · rfl
      · exact absurd hresource (by decide +kernel)
    · obtain rfl | rfl : b = _ ∨ b = _ := by simpa [Sample.auditInput, Sample.citedEvidence] using hb
      · exact absurd hresource (by decide +kernel)
      · rfl
  · rw [List.mem_singleton.mp ha, List.mem_singleton.mp hb]

/-- A rule that rests on two sources is cited once for each. -/
theorem two_sources_swap :
    buildAssessmentAuditBundle Sample.supportEnvironment
        (Sample.auditInput [Sample.ruleCitation "source-41", Sample.ruleCitation "source-42"]) =
      .ok (Sample.auditBundle [Sample.ruleCitation "source-41", Sample.ruleCitation "source-42"]) ∧
    buildAssessmentAuditBundle Sample.supportEnvironment
        (Sample.auditInput [Sample.ruleCitation "source-42", Sample.ruleCitation "source-41"]) =
      .ok (Sample.auditBundle [Sample.ruleCitation "source-42", Sample.ruleCitation "source-41"]) ∧
    (Sample.auditBundle [Sample.ruleCitation "source-41", Sample.ruleCitation "source-42"]).bundleHash ≠
      (Sample.auditBundle [Sample.ruleCitation "source-42", Sample.ruleCitation "source-41"]).bundleHash := by
  refine ⟨Sample.builds_auditBundle (by decide +kernel), Sample.builds_auditBundle (by decide +kernel), by decide +kernel⟩

end Decision
end Evllm
